import IPStack.Lib.Reach
import IPStack.Ipv6.AdvertisedPrefixes
import IPStack.Ipv6.DestinationCache

/-! The links between the neighbour caches, the addresses made of the prefixes of routers and
the next hops of the IPv6 instances, over all sequences of events. -/

namespace IPStack

open AddressMemory Transition

/-- What works on the caches: messages, frames, lookups, timers, calls of the program and
the life of IPv6 instances. -/
inductive CacheEvent (n : Nat) where
  | neighborAdvertisement (k : Fin n) (message : Router.NeighborAdvertisementMessage) (payloadlen : BitVec 32)
  | neighborSolicitation (k : Fin n) (src : Ipv6Addr) (options : Bytes) (payloadlen : BitVec 32)
  | routerAdvertisement (fuel : Nat) (k : Fin n) (src : Ipv6Addr) (message : RouterAdvertisementMessage)
      (payloadlen : BitVec 32)
  | redirect (k : Fin n) (target destination : Ipv6Addr) (options : Bytes) (payloadlen : BitVec 32)
  | cacheIncoming (k : Fin n) (src : Ipv6Addr)
  | addNDPCacheEntry (k : Fin n) (addr : Ipv6Addr) (state : NDPCacheState)
  | freeNDPCacheEntry (k : Fin n) (i : Nat)
  | releaseEntryBelowImportance (k : Fin n) (importanceBelowValue : BitVec 8)
  | releaseOldEntries (k : Fin n)
  | updateImportance (k : Fin n) (i : Nat) (importanceLevel : BitVec 8)
  | suspectUnreachable (k : Fin n) (addr : Ipv6Addr)
  | beginLookup (k : Fin n) (addr : Ipv6Addr)
  | endLookup (k : Fin n) (i : Nat)
  | makeAddress (k : Fin n) (ipv6Prefix : Ipv6Addr) (prefixlen : UInt8)
  | staticRouterPrefix (k : Fin n) (ipv6Prefix : Ipv6Addr) (prefixlen : UInt8) (routeraddr : Ipv6Addr)
  | refreshIPv6Addresses (k : Fin n)
  | joinMulticastGroup (k : Fin n) (addr : Ipv6Addr)
  | leaveMulticastGroup (k : Fin n) (addr : Ipv6Addr)
  | setIPv6Up (k : Fin n) (up : Bool)
  | construct
  | destruct (j : Nat)
  | setDstAddr (j : Nat) (dst : Ipv6Addr) (interface : Option (Fin n))

/-- The interfaces and instances, and the lookups that wait for their entry. `advertiser` is
the address of the router that advertised the prefix of the address in a slot; the program
does not keep it. -/
structure CacheState (n : Nat) where
  router : Router n
  lookups : List (Fin n × Nat)
  advertiser : Fin n → Nat → Ipv6Addr

namespace CacheState

variable {n : Nat}

/-- The addresses that are attributed to the entry of a router are advertised by it. -/
def advertised (s : CacheState n) (r : Router n) (k : Fin n) (src : Ipv6Addr) : CacheState n :=
  { s with
    router := r
    advertiser := fun k' i =>
      if k' = k ∧ ((r.memory k).addressAt i).any fun entry =>
          (r.memory k).ndpcacheFind src = some entry.routerEntryPosition then src
      else s.advertiser k' i }

def step (multicast : Bool) (s : CacheState n) : CacheEvent n → CacheState n
  | .neighborAdvertisement k message payloadlen =>
    { s with router := s.router.neighborAdvertisement k message payloadlen }
  | .neighborSolicitation k src options payloadlen =>
    { s with router := s.router.neighborSolicitation k src options payloadlen }
  | .routerAdvertisement fuel k src message payloadlen =>
    match s.router.receiveRouterAdvertisement fuel k src message payloadlen with
    | none => s
    | some r => s.advertised r k src
  | .redirect k target destination options payloadlen =>
    { s with router := s.router.redirect k target destination options payloadlen }
  | .cacheIncoming k src => { s with router := s.router.cacheIncoming k src }
  | .addNDPCacheEntry k addr state => { s with router := (s.router.addNDPCacheEntry k addr state).1 }
  | .freeNDPCacheEntry k i => { s with router := s.router.freeNDPCacheEntry k i }
  | .releaseEntryBelowImportance k importanceBelowValue =>
    { s with router := s.router.releaseEntryBelowImportance k importanceBelowValue }
  | .releaseOldEntries k => { s with router := s.router.releaseOldEntries k }
  | .updateImportance k i importanceLevel =>
    { s with router := s.router.setMemory k ((s.router.memory k).updateImportance i importanceLevel) }
  | .suspectUnreachable k addr => { s with router := s.router.suspectUnreachable k addr }
  | .beginLookup k addr =>
    let (r, entry) := s.router.beginLookup k addr
    { s with router := r, lookups := (entry.map fun i => (k, i)).toList ++ s.lookups }
  | .endLookup k i => { s with router := s.router.endLookup k i, lookups := s.lookups.erase (k, i) }
  | .makeAddress k ipv6Prefix prefixlen =>
    { s with router := s.router.makeIPv6AddressByPrefix k ipv6Prefix prefixlen entryUndefined }
  | .staticRouterPrefix k ipv6Prefix prefixlen routeraddr =>
    match (s.router.memory k).ndpcacheFind routeraddr with
    | none => s
    | some position => s.advertised (s.router.makeIPv6AddressByPrefix k ipv6Prefix prefixlen position) k routeraddr
  | .refreshIPv6Addresses k => { s with router := s.router.refreshIPv6Addresses k }
  | .joinMulticastGroup k addr => { s with router := s.router.joinMulticastGroup k addr }
  | .leaveMulticastGroup k addr => { s with router := s.router.leaveMulticastGroup k addr }
  | .setIPv6Up k up => { s with router := s.router.setIPv6Up multicast k up }
  | .construct => { s with router := { s.router with ipv6 := IPV6.construct n :: s.router.ipv6 } }
  | .destruct j => { s with router := { s.router with ipv6 := s.router.ipv6.eraseIdx j } }
  | .setDstAddr j dst interface => { s with router := s.router.setDstAddr multicast j dst interface }

/-- The interfaces with the memories they are constructed with, and no instances. -/
def start (size : Fin 256) (addresses : Fin n → Vector UInt8 6) : CacheState n where
  router :=
    { interfaces := fun k => { addressmemory := .construct size, address := addresses k, ipv6Up := false }
      ipv6 := [] }
  lookups := []
  advertiser := fun _ _ => unspecifiedIPv6Address

/-- The program frees entries that exist, only a lookup that waits ends, and the loop over the
options of an advertisement ends. -/
def allowed (s : CacheState n) : CacheEvent n → Prop
  | .routerAdvertisement fuel k src message payloadlen =>
    (s.router.receiveRouterAdvertisement fuel k src message payloadlen).isSome
  | .freeNDPCacheEntry k i => ((s.router.memory k).neighbourAt i).isSome
  | .endLookup k i => (k, i) ∈ s.lookups
  | _ => True

instance (s : CacheState n) : (e : CacheEvent n) → Decidable (s.allowed e)
  | .routerAdvertisement .. => inferInstanceAs (Decidable (_ = true))
  | .freeNDPCacheEntry .. => inferInstanceAs (Decidable (_ = true))
  | .endLookup .. => inferInstanceAs (Decidable (_ ∈ _))
  | .neighborAdvertisement .. | .neighborSolicitation .. | .redirect .. | .cacheIncoming .. | .addNDPCacheEntry ..
  | .releaseEntryBelowImportance .. | .releaseOldEntries .. | .updateImportance .. | .suspectUnreachable ..
  | .beginLookup .. | .makeAddress .. | .staticRouterPrefix .. | .refreshIPv6Addresses .. | .joinMulticastGroup ..
  | .leaveMulticastGroup .. | .setIPv6Up .. | .construct | .destruct .. | .setDstAddr .. =>
    inferInstanceAs (Decidable True)

/-! ### What an event must not free -/

/-- No address is attributed to the slot. -/
def Unattributed (m : AddressMemory) (i : Nat) : Prop :=
  ∀ j < m.size, ((m.addressAt j).any fun entry => entry.routerEntryPosition = i) = false

/-- An entry that is flagged as a router, or that has no addresses. -/
def Releasable (m : AddressMemory) (i : Nat) : Prop :=
  (m.neighbourAt i).any (·.isRouter) ∨ Unattributed m i

/-- If there is no room for a new entry, the entry that is dropped for it is releasable. -/
def RoomFor (m : AddressMemory) (addr : Ipv6Addr) : Prop :=
  m.ndpcacheFind addr = none → m.findEntry .free 0 = none →
    ∀ i ∈ (m.oldestEntry NDPCacheEntry.importanceGoodToKnow).1, Releasable m i

/-- No address and no next hop refers to the slot. -/
def Unlinked (r : Router n) (k : Fin n) (i : Nat) : Prop :=
  Unattributed (r.memory k) i ∧
    ∀ ipv6 ∈ r.ipv6, (ipv6.nexthopNDPCacheEntry.any fun p => p.interface = k ∧ p.position = i) = false

/-- The entries an event frees are releasable, and a lookup that ends without an answer
frees an entry that nothing refers to. -/
def safe (s : CacheState n) : CacheEvent n → Prop
  | .neighborSolicitation k src options payloadlen =>
    src ≠ unspecifiedIPv6Address ∧ NDPMessages.getOptionLinklayerAddress .sourceLinkLayer options payloadlen →
      RoomFor (s.router.memory k) src
  | .routerAdvertisement _ k src message payloadlen =>
    message.type = 134 ∧ message.code = 0 ∧ RouterAdvertisementMessage.size ≤ payloadlen →
      RoomFor (s.router.memory k) src
  | .redirect k target _ _ _ => RoomFor (s.router.memory k) target
  | .cacheIncoming k src => RoomFor (s.router.memory k) src
  | .addNDPCacheEntry k addr _ => RoomFor (s.router.memory k) addr
  | .beginLookup k addr => RoomFor (s.router.memory k) addr
  | .freeNDPCacheEntry k i => Releasable (s.router.memory k) i
  | .releaseEntryBelowImportance k importanceBelowValue =>
    ∀ i ∈ ((s.router.memory k).oldestEntry importanceBelowValue).1, Releasable (s.router.memory k) i
  | .releaseOldEntries k =>
    ∀ i < (s.router.memory k).size,
      ((s.router.memory k).neighbourAt i).any (fun entry => entry.expireValue < NDPCacheEntry.expireRatePerMinute) →
        Releasable (s.router.memory k) i
  | .endLookup k i => ((s.router.memory k).neighbourAt i).any (fun entry => entry.state ≠ .reachable) → Unlinked s.router k i
  | _ => True

end CacheState

/-! ### Links within an address memory -/

def AddressMemory.DistinctNeighbours (m : AddressMemory) : Prop :=
  ∀ i j e e', m.neighbourAt i = some e → m.neighbourAt j = some e' → e.ipv6 = e'.ipv6 → i = j

/-- The links of an interface are intact: entries have different addresses, and an address
that is attributed to a slot finds the router there that advertised it. -/
structure Linked (m : AddressMemory) (advertiser : Nat → Ipv6Addr) : Prop where
  distinct : m.DistinctNeighbours
  routers : ∀ i e, m.addressAt i = some e → e.routerEntryPosition ≠ entryUndefined →
    ∃ router, m.neighbourAt e.routerEntryPosition = some router ∧ router.ipv6 = advertiser i

/-- The neighbour cache has the same addresses, and every address is attributed as before, to
no slot, or to the given one. -/
structure Relinks (pos : Nat) (m m' : AddressMemory) : Prop where
  neighbours : ∀ i, (m'.neighbourAt i).map (·.ipv6) = (m.neighbourAt i).map (·.ipv6)
  addresses : ∀ i e', m'.addressAt i = some e' → e'.routerEntryPosition = entryUndefined ∨
    e'.routerEntryPosition = pos ∨ ∃ e, m.addressAt i = some e ∧ e.routerEntryPosition = e'.routerEntryPosition

namespace Relinks

variable {m m' m'' : AddressMemory} {pos i : Nat} {s : Slot} {type : EntryId}

theorem refl (m : AddressMemory) : Relinks pos m m :=
  ⟨fun _ => rfl, fun _ e' same => .inr (.inr ⟨e', same, rfl⟩)⟩

theorem trans (first : Relinks pos m m') (second : Relinks pos m' m'') : Relinks pos m m'' := by
  refine ⟨fun i => (second.neighbours i).trans (first.neighbours i), fun i e'' here => ?_⟩
  rcases second.addresses i e'' here with undefined | mine | ⟨e', before, same⟩
  · exact .inl undefined
  · exact .inr (.inl mine)
  · rw [← same]
    exact first.addresses i e' before

/-- One slot is written. -/
theorem write (neighbour : s.neighbour?.map (·.ipv6) = (m.neighbourAt i).map (·.ipv6))
    (address : ∀ e', s.address? = some e' → e'.routerEntryPosition = entryUndefined ∨ e'.routerEntryPosition = pos ∨
      ∃ e, m.addressAt i = some e ∧ e.routerEntryPosition = e'.routerEntryPosition) : Relinks pos m (m.write i s) := by
  refine ⟨fun j => ?_, fun j e' here => ?_⟩
  · rw [neighbourAt_write]
    split_ifs with written
    · rw [neighbour, written.1]
    · rfl
  · rw [addressAt_write] at here
    split_ifs at here with written
    · rw [← written.1]
      exact address e' here
    · exact .inr (.inr ⟨e', here, rfl⟩)

theorem modifyNeighbour {f : NDPCacheEntry → NDPCacheEntry} (same : ∀ e, (f e).ipv6 = e.ipv6) :
    Relinks pos m (m.modifyNeighbour i f) := by
  refine write ?_ fun e' here => .inr (.inr ⟨e', ?_, rfl⟩)
  · rw [Slot.neighbour?_mapNeighbour, Option.map_map]
    exact Option.map_congr fun e _ => same e
  · rwa [Slot.address?_mapNeighbour] at here

theorem modifyAddress {f : AddressEntry → AddressEntry}
    (same : ∀ e, (f e).routerEntryPosition = entryUndefined ∨ (f e).routerEntryPosition = e.routerEntryPosition) :
    Relinks pos m (m.modifyAddress i f) := by
  refine write (by rw [Slot.neighbour?_mapAddress]; rfl) fun e' here => ?_
  rw [Slot.address?_mapAddress] at here
  obtain ⟨e, before, rfl⟩ := Option.map_eq_some_iff.mp here
  rcases same e with undefined | kept
  · exact .inl undefined
  · exact .inr (.inr ⟨e, before, kept.symm⟩)

/-- A slot without a neighbour is freed. -/
theorem freeEntry (unused : m.neighbourAt i = none) : Relinks pos m (m.freeEntry i) :=
  write (by rw [unused]; rfl) nofun

theorem writeFree (unused : (m.getEntryAtPosition i).id = .free) (plain : s.neighbour? = none)
    (address : ∀ e, s.address? = some e → e.routerEntryPosition = entryUndefined ∨ e.routerEntryPosition = pos) :
    Relinks pos m (m.write i s) := by
  refine write ?_ fun e' here => ?_
  · rw [plain, neighbourAt_free unused]
  · rcases address e' here with undefined | mine
    · exact .inl undefined
    · exact .inr (.inl mine)

theorem makeIPv6AddressByPrefix {interface : Ipv6Interface} {ipv6Prefix : Ipv6Addr} {prefixlen : UInt8} :
    Relinks pos m (interface.makeIPv6AddressByPrefix m ipv6Prefix prefixlen pos).1 := by
  unfold Ipv6Interface.makeIPv6AddressByPrefix
  cases free : m.findEntry .free 0 with
  | none => exact .refl m
  | some i =>
    refine .writeFree (findEntry_some free).2.2.1 rfl fun e here => ?_
    cases here
    exact .inr rfl

theorem visit {body : AddressMemory → Nat → AddressMemory}
    (round : ∀ m i, (m.getEntryAtPosition i).id = type → Relinks pos m (body m i)) :
    Relinks pos m (AddressMemory.visit id type body m).1 :=
  visit_keeps (P := fun m' => Relinks pos m m') (refl m) fun m' i kept kind _ => kept.trans (round m' i kind)

theorem kept (relinks : Relinks pos m m') {e : NDPCacheEntry} (here : m.neighbourAt i = some e) :
    ∃ e', m'.neighbourAt i = some e' ∧ e'.ipv6 = e.ipv6 := by
  have same := relinks.neighbours i
  rw [here] at same
  exact Option.map_eq_some_iff.mp same

theorem before (relinks : Relinks pos m m') {e' : NDPCacheEntry} (here : m'.neighbourAt i = some e') :
    ∃ e, m.neighbourAt i = some e ∧ e.ipv6 = e'.ipv6 := by
  have same := relinks.neighbours i
  rw [here] at same
  exact Option.map_eq_some_iff.mp same.symm

theorem distinct (relinks : Relinks pos m m') (before : m.DistinctNeighbours) : m'.DistinctNeighbours := by
  intro i j e e' here there same
  obtain ⟨old, here, oldSame⟩ := relinks.before here
  obtain ⟨old', there, oldSame'⟩ := relinks.before there
  exact before i j old old' here there (oldSame.trans (same.trans oldSame'.symm))

/-- The links stay intact if the given slot holds the router that advertises. -/
theorem linked {advertiser advertiser' : Nat → Ipv6Addr} (relinks : Relinks pos m m') (linked : Linked m advertiser)
    (router : pos ≠ entryUndefined → ∃ router, m.neighbourAt pos = some router ∧
      ∀ i e', m'.addressAt i = some e' → e'.routerEntryPosition = pos → router.ipv6 = advertiser' i)
    (others : ∀ i e', m'.addressAt i = some e' → e'.routerEntryPosition ≠ pos → advertiser' i = advertiser i) :
    Linked m' advertiser' := by
  refine ⟨relinks.distinct linked.distinct, fun i e' here attributed => ?_⟩
  by_cases mine : e'.routerEntryPosition = pos
  · obtain ⟨entry, there, advertises⟩ := router (mine ▸ attributed)
    obtain ⟨entry', there', same⟩ := relinks.kept there
    exact ⟨entry', mine ▸ there', same.trans (advertises i e' here mine)⟩
  · rcases relinks.addresses i e' here with undefined | mine' | ⟨e, old, sameRouter⟩
    · exact absurd undefined attributed
    · exact absurd mine' mine
    · obtain ⟨entry, there, advertises⟩ := linked.routers i e old (sameRouter ▸ attributed)
      obtain ⟨entry', there', same⟩ := relinks.kept there
      exact ⟨entry', sameRouter ▸ there', (same.trans advertises).trans (others i e' here mine).symm⟩

end Relinks

/-! ### Links between the interfaces and the instances -/

variable {n : Nat} {r r' r'' : Router n} {k : Fin n} {m : AddressMemory} {advertiser : Fin n → Nat → Ipv6Addr}
  {multicast : Bool} {i j : Nat}

/-- The entry a pointer was taken from is there. -/
def Router.Live (r : Router n) (p : NDPCachePointer n) : Prop :=
  ((r.memory p.interface).neighbourAt p.position).map (·.ipv6) = some p.entry

structure Intact (r : Router n) (advertiser : Fin n → Nat → Ipv6Addr) : Prop where
  caches : ∀ k, Linked (r.memory k) (advertiser k)
  nexthops : ∀ ipv6 ∈ r.ipv6, ∀ p, ipv6.nexthopNDPCacheEntry = some p → r.Live p

/-- No neighbour comes or goes, no address is attributed anew, and a next hop is set to a live
entry only. -/
structure Router.Keeps (r r' : Router n) : Prop where
  memories : ∀ k, Relinks entryUndefined (r.memory k) (r'.memory k)
  nexthops : ∀ ipv6' ∈ r'.ipv6, ∀ p, ipv6'.nexthopNDPCacheEntry = some p →
    r.Live p ∨ ∃ ipv6 ∈ r.ipv6, ipv6.nexthopNDPCacheEntry = some p

namespace Router.Keeps

theorem live (keeps : r.Keeps r') {p : NDPCachePointer n} : r'.Live p ↔ r.Live p := by
  unfold Router.Live
  rw [(keeps.memories p.interface).neighbours]

theorem refl (r : Router n) : r.Keeps r :=
  ⟨fun _ => .refl _, fun ipv6 member _ hop => .inr ⟨ipv6, member, hop⟩⟩

theorem trans (first : r.Keeps r') (second : r'.Keeps r'') : r.Keeps r'' := by
  refine ⟨fun k => (first.memories k).trans (second.memories k), fun ipv6'' member p hop => ?_⟩
  rcases second.nexthops ipv6'' member p hop with live | ⟨ipv6', member', hop'⟩
  · exact .inl (first.live.mp live)
  · exact first.nexthops ipv6' member' p hop'

theorem intact (keeps : r.Keeps r') (intact : Intact r advertiser) : Intact r' advertiser := by
  refine ⟨fun k => (keeps.memories k).linked (intact.caches k) (absurd rfl) fun _ _ _ _ => rfl,
    fun ipv6' member p hop => ?_⟩
  rw [keeps.live]
  rcases keeps.nexthops ipv6' member p hop with live | ⟨ipv6, member', hop'⟩
  · exact live
  · exact intact.nexthops ipv6 member' p hop'

theorem setMemory (relinks : Relinks entryUndefined (r.memory k) m) : r.Keeps (r.setMemory k m) := by
  refine ⟨fun k' => ?_, fun ipv6 member _ hop => .inr ⟨ipv6, member, hop⟩⟩
  by_cases here : k' = k
  · rw [here, memory_setMemory]
    exact relinks
  · rw [memory_setMemory_other here]
    exact .refl _

theorem modifyIPV6 {f : IPV6 n → IPV6 n}
    (set : ∀ ipv6 p, (f ipv6).nexthopNDPCacheEntry = some p → r.Live p ∨ ipv6.nexthopNDPCacheEntry = some p) :
    r.Keeps (r.modifyIPV6 j f) := by
  refine ⟨fun _ => .refl _, fun ipv6' member p hop => ?_⟩
  obtain ⟨i, inside, rfl⟩ := List.mem_iff_getElem.mp member
  dsimp only [Router.modifyIPV6] at hop inside
  rw [List.length_modify] at inside
  rw [List.getElem_modify] at hop
  split_ifs at hop
  · rcases set _ p hop with live | same
    · exact .inl live
    · exact .inr ⟨_, List.getElem_mem inside, same⟩
  · exact .inr ⟨_, List.getElem_mem inside, hop⟩

end Router.Keeps

/-! ### Entries that are freed, and new entries -/

theorem CacheState.Unattributed.ne {e : AddressEntry} (none : CacheState.Unattributed m i) (here : m.addressAt j = some e) :
    e.routerEntryPosition ≠ i := by
  have inside : j < m.size := by
    refine inside_of_id ?_
    rw [Slot.address?_eq_some.mp here]
    nofun
  have other := none j inside
  rw [here] at other
  exact of_decide_eq_false other

theorem Intact.free {pos : Nat} (intact : Intact r advertiser) (releasable : CacheState.Releasable (r.memory k) pos) :
    Intact (r.freeNDPCacheEntry k pos) advertiser := by
  refine ⟨fun k' => ?_, fun ipv6' member p hop => ?_⟩
  · by_cases here : k' = k
    · subst here
      obtain ⟨distinct, routers⟩ := intact.caches k'
      refine ⟨fun i j e e' first second same => ?_, fun i e left attributed => ?_⟩
      · rw [Router.neighbourAt_freeNDPCacheEntry] at first second
        split_ifs at first second
        exact distinct i j e e' first second same
      · obtain ⟨old, notMine⟩ := Router.addressAt_freeNDPCacheEntry left
        have other : e.routerEntryPosition ≠ pos := by
          rcases releasable with flagged | none
          · exact notMine flagged
          · exact none.ne old
        rw [Router.neighbourAt_freeNDPCacheEntry, if_neg other]
        exact routers i e old attributed
    · rw [Router.memory_freeNDPCacheEntry_other here]
      exact intact.caches k'
  · obtain ⟨ipv6, member', cleared⟩ := List.mem_map.mp member
    split_ifs at cleared with points
    · subst cleared
      cases hop
    · subst cleared
      have live := intact.nexthops ipv6 member' p hop
      rw [hop] at points
      unfold Router.Live at live ⊢
      by_cases here : p.interface = k
      · have other : p.position ≠ pos := fun same => points (by simpa using ⟨here, same⟩)
        rw [here] at live ⊢
        rw [Router.neighbourAt_freeNDPCacheEntry, if_neg other]
        exact live
      · rw [Router.memory_freeNDPCacheEntry_other here]
        exact live

/-- No link refers to a free slot, so a new entry can be written there. -/
theorem Intact.new {addr : Ipv6Addr} {entry : NDPCacheEntry} (intact : Intact r advertiser)
    (unknown : ∀ i e, (r.memory k).neighbourAt i = some e → e.ipv6 ≠ addr) (mine : entry.ipv6 = addr)
    (unused : ((r.memory k).getEntryAtPosition i).id = .free) :
    Intact (r.setMemory k ((r.memory k).write i (.neighbour entry))) advertiser := by
  have none : (r.memory k).neighbourAt i = none := neighbourAt_free unused
  refine ⟨fun k' => ?_, fun ipv6 member p hop => ?_⟩
  · by_cases here : k' = k
    · subst here
      obtain ⟨distinct, routers⟩ := intact.caches k'
      rw [Router.memory_setMemory]
      refine ⟨fun j j' e e' first second same => ?_, fun j e here attributed => ?_⟩
      · rw [neighbourAt_write] at first second
        split_ifs at first second with isNew isNew' isNew'
        · exact isNew.1.symm.trans isNew'.1
        · cases first
          exact absurd (same.symm.trans mine) (unknown j' e' second)
        · cases second
          exact absurd (same.trans mine) (unknown j e first)
        · exact distinct j j' e e' first second same
      · rw [addressAt_write] at here
        split_ifs at here
        · cases here
        · obtain ⟨router, there, advertises⟩ := routers j e here attributed
          have other : i ≠ e.routerEntryPosition := by
            intro same
            rw [← same, none] at there
            cases there
          refine ⟨router, ?_, advertises⟩
          rw [neighbourAt_write, if_neg fun both => other both.1, there]
    · rw [Router.memory_setMemory_other here]
      exact intact.caches k'
  · have live := intact.nexthops ipv6 member p hop
    unfold Router.Live at live ⊢
    by_cases here : p.interface = k
    · rw [here] at live ⊢
      have other : i ≠ p.position := by
        intro same
        rw [← same, none] at live
        cases live
      rw [Router.memory_setMemory, neighbourAt_write, if_neg fun both => other both.1]
      exact live
    · rw [Router.memory_setMemory_other here]
      exact live

theorem Intact.release {importanceBelowValue : BitVec 8} (intact : Intact r advertiser)
    (releasable : ∀ i ∈ ((r.memory k).oldestEntry importanceBelowValue).1, CacheState.Releasable (r.memory k) i) :
    Intact (r.releaseEntryBelowImportance k importanceBelowValue) advertiser ∧
      ∀ j e, ((r.releaseEntryBelowImportance k importanceBelowValue).memory k).neighbourAt j = some e →
        (r.memory k).neighbourAt j = some e := by
  unfold Router.releaseEntryBelowImportance
  cases oldest : ((r.memory k).oldestEntry importanceBelowValue).1 with
  | none => exact ⟨intact, fun _ _ here => here⟩
  | some i =>
    refine ⟨intact.free (releasable i oldest), fun j e left => ?_⟩
    rw [Router.neighbourAt_freeNDPCacheEntry] at left
    split_ifs at left
    exact left

theorem Intact.reserve {addr : Ipv6Addr} (state : NDPCacheState) (intact : Intact r advertiser)
    (unknown : ∀ i e, (r.memory k).neighbourAt i = some e → e.ipv6 ≠ addr)
    (free : (r.memory k).findEntry .free 0 = some i) : Intact (r.reserveNDPCacheEntry k i addr state) advertiser ∧
      ∃ e, ((r.reserveNDPCacheEntry k i addr state).memory k).neighbourAt i = some e ∧ e.ipv6 = addr := by
  obtain ⟨-, inside, unused, -⟩ := findEntry_some free
  refine ⟨intact.new unknown rfl unused, .new addr state, ?_, rfl⟩
  rw [Router.reserveNDPCacheEntry, Router.memory_setMemory, neighbourAt_write, if_pos ⟨rfl, inside⟩]
  rfl

/-- A new entry keeps the links, if the entry that is dropped for it is releasable. -/
theorem Intact.add {addr : Ipv6Addr} (state : NDPCacheState) (intact : Intact r advertiser)
    (room : CacheState.RoomFor (r.memory k) addr) : Intact (r.addNDPCacheEntry k addr state).1 advertiser ∧
      ∀ i ∈ (r.addNDPCacheEntry k addr state).2,
        ∃ e, ((r.addNDPCacheEntry k addr state).1.memory k).neighbourAt i = some e ∧ e.ipv6 = addr := by
  unfold Router.addNDPCacheEntry
  cases known : (r.memory k).ndpcacheFind addr with
  | some i =>
    refine ⟨Router.Keeps.intact (.setMemory (.modifyNeighbour fun _ => rfl)) intact, fun i' same => ?_⟩
    cases same
    obtain ⟨e, here, mine⟩ := ndpcacheFind_some known
    refine ⟨{ e with state := state }, ?_, mine⟩
    rw [Router.memory_setMemory, neighbourAt_modifyNeighbour, if_pos rfl, here]
    rfl
  | none =>
    have unknown : ∀ i e, (r.memory k).neighbourAt i = some e → e.ipv6 ≠ addr := fun i e => ndpcacheFind_none known
    dsimp only
    cases free : (r.memory k).findEntry .free 0 with
    | some i =>
      obtain ⟨kept, new⟩ := intact.reserve state unknown free
      refine ⟨kept, fun i' same => ?_⟩
      cases same
      exact new
    | none =>
      dsimp only
      obtain ⟨kept, fewer⟩ := intact.release (room known free)
      cases free' : ((r.dropUnused k).memory k).findEntry .free 0 with
      | some i =>
        obtain ⟨kept, new⟩ := kept.reserve state (fun i e here => unknown i e (fewer i e here)) free'
        refine ⟨kept, fun i' same => ?_⟩
        cases same
        exact new
      | none => exact ⟨kept, fun i' same => by cases same⟩

/-! ### Events that keep the links -/

namespace Router.Keeps

theorem isDuplicateAddress {dst : Ipv6Addr} : r.Keeps (r.isDuplicateAddress k dst) := by
  unfold Router.isDuplicateAddress
  split
  · exact .refl r
  · exact .setMemory (.modifyAddress fun _ => .inr rfl)

theorem neighborAdvertisement {message : NeighborAdvertisementMessage} {payloadlen : BitVec 32} :
    r.Keeps (r.neighborAdvertisement k message payloadlen) := by
  have first : r.Keeps (if message.isResponse then r.isDuplicateAddress k message.targetAddress else r) := by
    split_ifs
    · exact .isDuplicateAddress
    · exact .refl r
  unfold Router.neighborAdvertisement
  dsimp only
  generalize (if message.isResponse then r.isDuplicateAddress k message.targetAddress else r) = r₁ at first ⊢
  refine first.trans ?_
  split
  · exact .refl r₁
  · exact .setMemory (.modifyNeighbour fun _ => rfl)

theorem suspectUnreachable {addr : Ipv6Addr} : r.Keeps (r.suspectUnreachable k addr) := by
  unfold Router.suspectUnreachable
  split
  · exact .refl r
  · exact .setMemory (.modifyNeighbour fun _ => rfl)

theorem makeIPv6AddressByPrefix {ipv6Prefix : Ipv6Addr} {prefixlen : UInt8} :
    r.Keeps (r.makeIPv6AddressByPrefix k ipv6Prefix prefixlen entryUndefined) :=
  .setMemory .makeIPv6AddressByPrefix

theorem construct : r.Keeps { r with ipv6 := IPV6.construct n :: r.ipv6 } := by
  refine ⟨fun _ => .refl _, fun ipv6 member p hop => ?_⟩
  rcases List.mem_cons.mp member with rfl | old
  · cases hop
  · exact .inr ⟨ipv6, old, hop⟩

theorem destruct : r.Keeps { r with ipv6 := r.ipv6.eraseIdx j } :=
  ⟨fun _ => .refl _, fun ipv6 member _ hop => .inr ⟨ipv6, List.mem_of_mem_eraseIdx member, hop⟩⟩

/-- The next hop of some instances is set to a live entry. -/
theorem setNexthops {p : NDPCachePointer n} {test : IPV6 n → Prop} [DecidablePred test] (live : r.Live p) :
    r.Keeps ⟨r.interfaces, r.ipv6.map fun ipv6 =>
      if test ipv6 then { ipv6 with nexthopNDPCacheEntry := some p } else ipv6⟩ := by
  refine ⟨fun _ => .refl _, fun ipv6' member p' hop => ?_⟩
  obtain ⟨ipv6, old, rfl⟩ := List.mem_map.mp member
  split_ifs at hop
  · cases hop
    exact .inl live
  · exact .inr ⟨ipv6, old, hop⟩

theorem joinMulticastGroup {addr : Ipv6Addr} : r.Keeps (r.joinMulticastGroup k addr) := by
  unfold Router.joinMulticastGroup
  split_ifs
  · exact .refl r
  · cases free : (r.memory k).findEntry .free 0 with
    | none => exact .refl r
    | some i => exact .setMemory (.writeFree (findEntry_some free).2.2.1 rfl nofun)

theorem leaveMulticastGroup {addr : Ipv6Addr} : r.Keeps (r.leaveMulticastGroup k addr) := by
  unfold Router.leaveMulticastGroup
  cases joined : (List.range (r.memory k).size).find? fun i => (r.memory k).getEntryAtPosition i = .multicast ⟨addr⟩ with
  | none => exact .refl r
  | some i =>
    have group : (r.memory k).getEntryAtPosition i = .multicast ⟨addr⟩ := by simpa using List.find?_some joined
    refine .setMemory (.freeEntry ?_)
    unfold neighbourAt
    rw [group]
    rfl

theorem neighbourAt_address {m : AddressMemory} {i : Nat} (kind : (m.getEntryAtPosition i).id = .address) :
    m.neighbourAt i = none := by
  unfold neighbourAt
  cases here : m.getEntryAtPosition i with
  | neighbour e =>
    rw [here] at kind
    cases kind
  | _ => rfl

theorem freeAddresses : r.Keeps (r.freeAll k .address) :=
  .setMemory (.visit fun _ _ kind => .freeEntry (neighbourAt_address kind))

theorem refreshIPv6Addresses : r.Keeps (r.refreshIPv6Addresses k) := by
  refine .setMemory (.visit fun m i kind => ?_)
  unfold Router.refreshAddress
  split
  · exact .refl m
  · split_ifs
    · exact .refl m
    · exact .freeEntry (neighbourAt_address kind)
    · exact .modifyAddress fun _ => .inr rfl

theorem updateNexthop {k' : Fin n} {entry : AddressEntry} : r.Keeps (r.updateNexthop j k k' i entry) := by
  unfold Router.updateNexthop
  by_cases onLink : getIPv6AddressScope entry.ipv6 = .linklocal
  · rw [if_pos (.inl onLink), if_pos onLink]
    exact .modifyIPV6 nofun
  by_cases undefined : entry.routerEntryPosition = entryUndefined
  · rw [if_pos (.inr undefined), if_neg onLink]
    exact .refl r
  dsimp only
  rw [if_neg (not_or.mpr ⟨onLink, undefined⟩), if_neg onLink]
  cases router : (r.memory k).neighbourAt entry.routerEntryPosition with
  | none => exact .setMemory (.modifyAddress fun _ => .inl rfl)
  | some ndpentry =>
    refine .modifyIPV6 fun ipv6 p hop => ?_
    cases hop
    left
    unfold Router.Live
    rw [router]
    rfl

theorem resolveRoute : r.Keeps (r.resolveRoute multicast j) := by
  unfold Router.resolveRoute
  split
  · exact .refl r
  split_ifs
  · exact .modifyIPV6 fun _ _ hop => .inr hop
  dsimp only
  split
  · exact .modifyIPV6 fun _ _ hop => .inr hop
  · split
    · exact .modifyIPV6 fun _ _ hop => .inr hop
    · refine .trans ?_ .updateNexthop
      exact .modifyIPV6 fun _ _ hop => .inr hop

theorem setDstAddr {dst : Ipv6Addr} {interface : Option (Fin n)} : r.Keeps (r.setDstAddr multicast j dst interface) := by
  have first : r.Keeps (r.modifyIPV6 j fun ipv6 => { ipv6 with dstIpv6Addr := dst }) :=
    .modifyIPV6 fun _ _ hop => .inr hop
  refine first.trans ?_
  cases interface with
  | none => exact .resolveRoute
  | some k => exact .modifyIPV6 fun _ _ hop => .inr hop

theorem foldl {indices : List Nat} {act : Router n → Nat → Router n} (round : ∀ (r : Router n) j, r.Keeps (act r j)) :
    r.Keeps (indices.foldl act r) := by
  induction indices generalizing r with
  | nil => exact .refl r
  | cons j rest ih => exact (round r j).trans ih

theorem setupDestinationCache : r.Keeps (r.setupDestinationCacheEntryForInterface multicast k) := by
  refine .foldl fun r j => ?_
  split_ifs
  · exact .resolveRoute
  · exact .refl r

theorem addLinkLocalAddress : r.Keeps (r.addLinkLocalAddress k) := by
  unfold Router.addLinkLocalAddress
  split_ifs
  · exact .refl r
  · exact .makeIPv6AddressByPrefix

/-- Only the flag of the interface changes. -/
theorem setFlag {up : Bool} : r.Keeps
    { r with interfaces := Function.update r.interfaces k { r.interfaces k with ipv6Up := up } } := by
  have same : ∀ k', Router.memory { r with
      interfaces := Function.update r.interfaces k { r.interfaces k with ipv6Up := up } } k' = r.memory k' := by
    intro k'
    unfold Router.memory
    by_cases here : k' = k
    · subst here
      simp
    · simp [Function.update_of_ne here]
  refine ⟨fun k' => ?_, fun ipv6 member _ hop => .inr ⟨ipv6, member, hop⟩⟩
  rw [same]
  exact .refl _

theorem updateMulticastGroups {up : Bool} : r.Keeps (r.updateMulticastGroups multicast k up) := by
  unfold Router.updateMulticastGroups
  split_ifs
  · exact .refl r
  · exact .trans .joinMulticastGroup .joinMulticastGroup
  · exact .trans .leaveMulticastGroup .leaveMulticastGroup

theorem setIPv6Up {up : Bool} : r.Keeps (r.setIPv6Up multicast k up) := by
  have linkLocal : ∀ r : Router n, r.Keeps (if up then r.addLinkLocalAddress k else r) := by
    intro r
    split_ifs
    · exact .addLinkLocalAddress
    · exact .refl r
  have freed : ∀ r : Router n, r.Keeps (if !up && (r.interfaces k).ipv6Up then r.freeAll k .address else r) := by
    intro r
    split_ifs
    · exact .freeAddresses
    · exact .refl r
  exact (((updateMulticastGroups.trans (linkLocal _)).trans setupDestinationCache).trans (freed _)).trans setFlag

end Router.Keeps

/-! ### Expiry -/

theorem Intact.releaseOld (intact : Intact r advertiser)
    (releasable : ∀ i < (r.memory k).size,
      ((r.memory k).neighbourAt i).any (fun entry => entry.expireValue < NDPCacheEntry.expireRatePerMinute) →
        CacheState.Releasable (r.memory k) i) : Intact (r.releaseOldEntries k) advertiser := by
  -- the entries not yet visited are as they were, and addresses are only removed
  refine (visitFrom_keeps (P := fun next r' => Intact r' advertiser ∧
    (∀ i, next ≤ i → (r'.memory k).neighbourAt i = (r.memory k).neighbourAt i) ∧
    ∀ j e, (r'.memory k).addressAt j = some e → (r.memory k).addressAt j = some e)
    ⟨intact, fun _ _ => rfl, fun _ _ here => here⟩ ?_).1
  rintro r' next i ⟨intact', ahead, fewer⟩ after kind inside
  have same := ahead i after
  cases entry : (r'.memory k).neighbourAt i with
  | none => exact ⟨intact', fun i' later => ahead i' (by omega), fewer⟩
  | some e =>
    dsimp only
    split_ifs with old fixed
    · rw [entry] at same
      have before : i < (r.memory k).size := by
        refine inside_of_id ?_
        rw [Slot.neighbour?_eq_some.mp same.symm]
        nofun
      have free : CacheState.Releasable (r'.memory k) i := by
        rcases releasable i before (by rw [← same]; simpa using old) with flagged | none
        · exact .inl (by rw [entry, same]; exact flagged)
        · right
          intro j _
          cases there : (r'.memory k).addressAt j with
          | none => rfl
          | some a => exact decide_eq_false (none.ne (fewer j a there))
      refine ⟨intact'.free free, fun i' later => ?_, fun j a left => ?_⟩
      · rw [Router.neighbourAt_freeNDPCacheEntry, if_neg (by omega)]
        exact ahead i' (by omega)
      · exact fewer j a (Router.addressAt_freeNDPCacheEntry left).1
    · refine ⟨Router.Keeps.intact (.setMemory (.modifyNeighbour fun _ => rfl)) intact', fun i' later => ?_,
        fun j a left => ?_⟩
      · rw [Router.memory_setMemory, neighbourAt_modifyNeighbour, if_neg (by omega)]
        exact ahead i' (by omega)
      · rw [Router.memory_setMemory, addressAt_modifyNeighbour] at left
        exact fewer j a left
    · exact ⟨intact', fun i' later => ahead i' (by omega), fewer⟩

/-! ### Addresses attributed to a router -/

theorem AddressMemory.DistinctNeighbours.find {src : Ipv6Addr} {pos : Nat} {router : NDPCacheEntry}
    (distinct : m.DistinctNeighbours) (here : m.neighbourAt pos = some router) (mine : router.ipv6 = src) :
    m.ndpcacheFind src = some pos := by
  cases found : m.ndpcacheFind src with
  | none => exact absurd mine (ndpcacheFind_none found here)
  | some i =>
    obtain ⟨e, there, same⟩ := ndpcacheFind_some found
    rw [distinct i pos e router there here (same.trans mine.symm)]

theorem ne_entryUndefined {e : NDPCacheEntry} (here : m.neighbourAt i = some e) : i ≠ entryUndefined := by
  have inside : i < m.size := by
    refine inside_of_id ?_
    rw [Slot.neighbour?_eq_some.mp here]
    nofun
  have small : m.size ≤ 255 := m.small
  unfold entryUndefined
  omega

/-- A step that attributes addresses to the entry of a router, or to none. -/
theorem Intact.attributed {s : CacheState n} {src : Ipv6Addr} {pos : Nat} (intact : Intact r s.advertiser)
    (relinks : Relinks pos (r.memory k) m)
    (router : pos ≠ entryUndefined → ∃ e, (r.memory k).neighbourAt pos = some e ∧ e.ipv6 = src) :
    Intact (s.advertised (r.setMemory k m) k src).router (s.advertised (r.setMemory k m) k src).advertiser := by
  have linked := intact.caches k
  refine ⟨fun k' => ?_, fun ipv6 member p hop => ?_⟩
  · dsimp only [CacheState.advertised]
    by_cases here : k' = k
    · subst here
      rw [Router.memory_setMemory]
      refine relinks.linked linked (fun defined => ?_) (fun i e' there other => ?_)
      · obtain ⟨e, there, mine⟩ := router defined
        obtain ⟨e', there', same⟩ := relinks.kept there
        refine ⟨e, there, fun i a used attributed => ?_⟩
        have found := (relinks.distinct linked.distinct).find there' (same.trans mine)
        rw [if_pos ⟨rfl, by simp [used, found, attributed]⟩, mine]
      · split_ifs with already
        · rw [there] at already
          obtain ⟨e, entry, same⟩ := ndpcacheFind_some (of_decide_eq_true already.2)
          rcases relinks.addresses i e' there with undefined | mine | ⟨old, before, sameRouter⟩
          · exact absurd undefined (ne_entryUndefined entry)
          · exact absurd mine other
          · obtain ⟨e'', entry'', advertises⟩ := linked.routers i old before (sameRouter ▸ ne_entryUndefined entry)
            obtain ⟨e₃, entry₃, same'⟩ := relinks.before entry
            rw [sameRouter, entry₃] at entry''
            cases entry''
            rw [← advertises, same', same]
        · rfl
    · rw [Router.memory_setMemory_other here]
      simp only [here, false_and, if_false]
      exact intact.caches k'
  · have live := intact.nexthops ipv6 member p hop
    unfold Router.Live at live ⊢
    rw [← live]
    by_cases here : p.interface = k
    · rw [here]
      dsimp only [CacheState.advertised]
      rw [Router.memory_setMemory]
      exact relinks.neighbours p.position
    · dsimp only [CacheState.advertised]
      rw [Router.memory_setMemory_other here]

theorem Intact.unchanged {s : CacheState n} {src : Ipv6Addr} (intact : Intact r s.advertiser) :
    Intact (s.advertised r k src).router (s.advertised r k src).advertiser := by
  have step : Intact (s.advertised (r.setMemory k (r.memory k)) k src).router
      (s.advertised (r.setMemory k (r.memory k)) k src).advertiser := intact.attributed (.refl _) (absurd rfl)
  rwa [Router.setMemory_memory] at step

section RouterAdvertisement

open NDPRouterAdvertisement

variable {m' : AddressMemory} {interface : Ipv6Interface} {message : RouterAdvertisementMessage}
  {routerPosition fuel nextEntry : Nat} {option : Option Bytes} {payloadlen : BitVec 32}

theorem addPrefix_relinks (option : Bytes) :
    Relinks routerPosition m (addPrefix interface message routerPosition option m nextEntry).1 := by
  obtain ⟨later, -, ⟨-, same⟩ | ⟨i, e, -, written, -, mine, place⟩⟩ :=
    addPrefix_cases interface message routerPosition option m nextEntry
  · rw [same]
    exact .refl m
  · rw [written]
    have none : m.neighbourAt i = none := by
      rcases place with ⟨-, old, here, -⟩ | unused
      · exact Router.Keeps.neighbourAt_address (by rw [Slot.address?_eq_some.mp here]; rfl)
      · exact neighbourAt_free unused
    refine .write (by rw [none]; rfl) fun e' here => ?_
    cases here
    exact .inr (.inl mine)

theorem updatePrefixes_relinks
    (ended : updatePrefixes fuel interface message payloadlen routerPosition m = some m') : Relinks routerPosition m m' := by
  have flagged : Relinks routerPosition m (flagAll routerPosition m).1 := by
    refine .visit fun m i _ => .modifyAddress fun e => .inr ?_
    split_ifs <;> rfl
  obtain ⟨added, -, kept, rfl⟩ := updatePrefixes_keeps (P := fun m' _ => Relinks routerPosition m m') ended flagged
    fun option _ _ relinks => relinks.trans (addPrefix_relinks option)
  have removed : Relinks routerPosition added (removeFlagged routerPosition added) := by
    refine .visit fun m i kind => ?_
    split_ifs
    · exact .freeEntry (Router.Keeps.neighbourAt_address kind)
    · exact .refl m
  exact kept.trans removed

theorem refreshRouter_relinks {foundMac : Bool} :
    Relinks routerPosition m (refreshRouter message foundMac routerPosition m) := by
  rw [refreshRouter_eq]
  exact .modifyNeighbour fun _ => rfl

theorem Intact.routerAdvertisement {s : CacheState n} {src : Ipv6Addr} (intact : Intact s.router s.advertiser)
    (room : message.type = 134 ∧ message.code = 0 ∧ RouterAdvertisementMessage.size ≤ payloadlen →
      CacheState.RoomFor (s.router.memory k) src)
    (received : s.router.receiveRouterAdvertisement fuel k src message payloadlen = some r') :
    Intact (s.advertised r' k src).router (s.advertised r' k src).advertiser := by
  obtain ⟨-, rfl⟩ | ⟨⟨accepted, long⟩, foundMac, -, result⟩ := Router.receiveRouterAdvertisement_cases received
  · exact intact.unchanged
  have roomy := room ⟨accepted.1, accepted.2, BitVec.not_lt.mp long⟩
  -- the entry of the router, found or new
  have entry : Intact (s.router.advertisingRouter k src foundMac).1 s.advertiser ∧
      ∀ pos, (s.router.advertisingRouter k src foundMac).2 = some pos →
        ∃ e, ((s.router.advertisingRouter k src foundMac).1.memory k).neighbourAt pos = some e ∧ e.ipv6 = src := by
    unfold Router.advertisingRouter
    cases known : (s.router.memory k).ndpcacheFind src with
    | some i =>
      refine ⟨intact, fun pos found => ?_⟩
      cases found
      exact ndpcacheFind_some known
    | none => exact intact.add (if foundMac then .stale else .incomplete) roomy
  obtain ⟨intact₀, there⟩ := entry
  obtain ⟨-, rfl⟩ | ⟨pos, m', found, updated, rfl⟩ := result
  · exact intact₀.unchanged
  · exact intact₀.attributed (refreshRouter_relinks.trans (updatePrefixes_relinks updated)) fun _ => there pos found

end RouterAdvertisement

/-! ### Lookups -/

theorem withoutRouter_unattributed {m : AddressMemory} (none : CacheState.Unattributed m i) :
    withoutRouter i (m.getEntryAtPosition j) = m.getEntryAtPosition j := by
  cases here : m.getEntryAtPosition j with
  | address e => exact if_neg (none.ne (Slot.address?_eq_some.mpr here))
  | _ => rfl

/-- Nothing has to be cleared for an entry that nothing refers to. -/
theorem freeNDPCacheEntry_unlinked (unlinked : CacheState.Unlinked r k i) :
    r.freeNDPCacheEntry k i = r.setMemory k ((r.memory k).freeEntry i) := by
  have cleared : r.clearDestinationCacheEntry k i = r := by
    unfold Router.clearDestinationCacheEntry
    congr
    refine (List.map_congr_left fun ipv6 member => ?_).trans (List.map_id _)
    exact if_neg (by rw [unlinked.2 ipv6 member]; nofun)
  have kept : (if ((r.memory k).neighbourAt i).any (·.isRouter) then
      (visit id .address (fun m i' => if (m.addressAt i').any (·.routerEntryPosition = i) then m.freeEntry i' else m)
        (r.memory k)).1 else r.memory k) = r.memory k := by
    split_ifs
    · refine ext_slots (size_visit Router.removeRouter_inSlot) fun j => ?_
      rw [visit_entry Router.removeRouter_inSlot (by decide), withoutRouter_unattributed unlinked.1, ite_self]
    · rfl
  unfold Router.freeNDPCacheEntry
  rw [cleared]
  dsimp only
  rw [kept]

theorem Intact.endLookup (intact : Intact r advertiser)
    (unlinked : ((r.memory k).neighbourAt i).any (fun entry => entry.state ≠ .reachable) → CacheState.Unlinked r k i) :
    Intact (r.endLookup k i) advertiser := by
  unfold Router.endLookup
  split_ifs with reachable
  · exact intact
  · cases here : (r.memory k).neighbourAt i with
    | none => exact Router.Keeps.intact (.setMemory (.freeEntry here)) intact
    | some e =>
      rw [Slot.neighbour?_eq_some.mp here] at reachable
      have free := unlinked (by rw [here]; simpa [Router.readsReachable] using reachable)
      rw [← freeNDPCacheEntry_unlinked free]
      exact intact.free (.inr free.1)

/-! ### Runs -/

namespace CacheState

variable {s : CacheState n} {e : CacheEvent n}

theorem step_intact (intact : Intact s.router s.advertiser) (allowed : s.allowed e) (safe : s.safe e) :
    Intact (s.step multicast e).router (s.step multicast e).advertiser := by
  cases e with
  | neighborAdvertisement k message payloadlen => exact Router.Keeps.neighborAdvertisement.intact intact
  | neighborSolicitation k src options payloadlen =>
    dsimp only [step, Router.neighborSolicitation]
    split_ifs with known
    · split
      · exact intact
      · exact (intact.add .stale (safe known)).1
    · exact intact
  | routerAdvertisement fuel k src message payloadlen =>
    obtain ⟨r, received⟩ := Option.isSome_iff_exists.mp allowed
    dsimp only [step]
    rw [received]
    exact intact.routerAdvertisement safe received
  | redirect k target destination options payloadlen =>
    dsimp only [step, Router.redirect]
    generalize (if NDPMessages.getOptionLinklayerAddress .targetLinkLayer options payloadlen then
      NDPCacheState.reachable else .incomplete) = state
    obtain ⟨intact₀, new⟩ := intact.add state safe
    generalize s.router.addNDPCacheEntry k target state = added at intact₀ new ⊢
    obtain ⟨r, found⟩ := added
    cases found with
    | none => exact intact₀
    | some i =>
      obtain ⟨entry, there, mine⟩ := new i rfl
      refine Router.Keeps.intact (.setNexthops ?_) intact₀
      dsimp only [Router.Live]
      rw [there, ← mine]
      rfl
  | cacheIncoming k src =>
    dsimp only [step, Router.cacheIncoming]
    have intact₀ := (intact.add .reachable safe).1
    generalize s.router.addNDPCacheEntry k src .reachable = added at intact₀ ⊢
    obtain ⟨r, found⟩ := added
    cases found with
    | none => exact intact₀
    | some i => exact Router.Keeps.intact (.setMemory (.modifyNeighbour fun _ => rfl)) intact₀
  | addNDPCacheEntry k addr state => exact (intact.add state safe).1
  | freeNDPCacheEntry k i => exact intact.free safe
  | releaseEntryBelowImportance k importanceBelowValue => exact (intact.release safe).1
  | releaseOldEntries k => exact intact.releaseOld safe
  | updateImportance k i importanceLevel =>
    exact Router.Keeps.intact (.setMemory (.modifyNeighbour fun _ => rfl)) intact
  | suspectUnreachable k addr => exact Router.Keeps.suspectUnreachable.intact intact
  | beginLookup k addr =>
    dsimp only [step, Router.beginLookup]
    split
    · exact intact
    · exact (intact.add .incomplete safe).1
  | endLookup k i => exact intact.endLookup safe
  | makeAddress k ipv6Prefix prefixlen => exact Router.Keeps.makeIPv6AddressByPrefix.intact intact
  | staticRouterPrefix k ipv6Prefix prefixlen routeraddr =>
    dsimp only [step]
    cases known : (s.router.memory k).ndpcacheFind routeraddr with
    | none => exact intact
    | some position => exact intact.attributed .makeIPv6AddressByPrefix fun _ => ndpcacheFind_some known
  | refreshIPv6Addresses k => exact Router.Keeps.refreshIPv6Addresses.intact intact
  | joinMulticastGroup k addr => exact Router.Keeps.joinMulticastGroup.intact intact
  | leaveMulticastGroup k addr => exact Router.Keeps.leaveMulticastGroup.intact intact
  | setIPv6Up k up => exact Router.Keeps.setIPv6Up.intact intact
  | construct => exact Router.Keeps.construct.intact intact
  | destruct j => exact Router.Keeps.destruct.intact intact
  | setDstAddr j dst interface => exact Router.Keeps.setDstAddr.intact intact

theorem start_intact (size : Fin 256) (addresses : Fin n → Vector UInt8 6) :
    Intact (start size addresses).router (start size addresses).advertiser := by
  have free : ∀ k i, ((start size addresses).router.memory k).getEntryAtPosition i = .free := fun _ i =>
    List.getElem?_getD_replicate_default_eq Slot.free size i
  refine ⟨fun k => ⟨fun i j e e' here => ?_, fun i e here => ?_⟩, fun ipv6 member => absurd member List.not_mem_nil⟩
  · cases (free k i).symm.trans (Slot.neighbour?_eq_some.mp here)
  · cases (free k i).symm.trans (Slot.address?_eq_some.mp here)

end CacheState

/-- In every run whose events free only releasable entries, all links are intact in every state. -/
theorem links_run {size : Fin 256} {addresses : Fin n → Vector UInt8 6} {s : CacheState n}
    (reach : Reach (CacheState.step multicast) (fun s e => s.allowed e ∧ s.safe e) (.start size addresses) s) :
    Intact s.router s.advertiser :=
  reach.invariant (fun s => Intact s.router s.advertiser) (CacheState.start_intact size addresses)
    fun _ _ intact ok => CacheState.step_intact intact ok.1 ok.2

/-! ### A router that goes away -/

namespace CacheState

instance (m : AddressMemory) (i : Nat) : Decidable (Unattributed m i) := inferInstanceAs (Decidable (∀ j < m.size, _))

instance (m : AddressMemory) (i : Nat) : Decidable (Releasable m i) := inferInstanceAs (Decidable (_ ∨ _))

/-- Three slots and one interface. The router advertises a prefix. -/
def advertisedOnce : CacheState 1 :=
  [.routerAdvertisement 2 ⟨0, Nat.one_pos⟩ exampleRouterAddress onePrefix 48].foldl (step false)
    (start 3 fun _ => exampleInterfaceAddress)

def routerFlag : Router.NeighborAdvertisementMessage where
  flags := 0x80
  targetAddress := exampleRouterAddress
  options := []

end CacheState

open CacheState in
/-- The router of an address has sent no neighbour advertisement, so its entry is not flagged
when it expires in the fifth round, and the address stays attributed to the free slot. -/
theorem expiredRouter_dangles : ∃ s : CacheState 1,
    Reach (step false) allowed (start 3 fun _ => #v[2, 0, 0, 0, 0, 1]) s ∧ (s.router.memory 0).neighbourAt 0 = none ∧
      ((s.router.memory 0).addressAt 1).map (·.routerEntryPosition) = some 0 ∧ ¬Intact s.router s.advertiser := by
  obtain ⟨s, reached⟩ : ∃ s, s = (List.replicate 5 (.releaseOldEntries 0)).foldl (step false) advertisedOnce := ⟨_, rfl⟩
  have gone : (s.router.memory 0).neighbourAt 0 = none := by subst reached; decide +kernel
  have attributed : ((s.router.memory 0).addressAt 1).map (·.routerEntryPosition) = some 0 := by
    subst reached; decide +kernel
  have reach : Reach (step false) allowed (start 3 fun _ => #v[2, 0, 0, 0, 0, 1]) s := by
    subst reached
    exact (Reach.start.foldl (by decide +kernel)).foldl (by decide +kernel)
  refine ⟨s, reach, gone, attributed, fun intact => ?_⟩
  obtain ⟨e, here, position⟩ := Option.map_eq_some_iff.mp attributed
  obtain ⟨router, there, -⟩ := (intact.caches 0).routers 1 e here (by rw [position]; decide)
  rw [position, gone] at there
  cases there

open CacheState in
theorem links_run_routerFlag :
    Intact ([CacheEvent.neighborAdvertisement 0 routerFlag 0, .freeNDPCacheEntry 0 0].foldl (step false) advertisedOnce).router
      ([CacheEvent.neighborAdvertisement 0 routerFlag 0, .freeNDPCacheEntry 0 0].foldl (step false) advertisedOnce).advertiser := by
  have advertised : Follows (step false) (fun s e => s.allowed e ∧ s.safe e)
      (start 3 fun _ : Fin 1 => #v[2, 0, 0, 0, 0, 1]) [.routerAdvertisement 2 0 exampleRouterAddress onePrefix 48] :=
    ⟨⟨by decide +kernel, fun _ _ full => absurd full (by decide +kernel)⟩, trivial⟩
  have releasable : Releasable ((step false advertisedOnce (.neighborAdvertisement 0 routerFlag 0)).router.memory 0) 0 := by
    decide +kernel
  exact links_run ((Reach.start.foldl advertised).foldl ⟨⟨trivial, trivial⟩, ⟨by decide +kernel, releasable⟩, trivial⟩)

end IPStack
