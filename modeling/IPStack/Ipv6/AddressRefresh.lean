import IPStack.Ipv6.AdvertisedPrefixes
import IPStack.Ipv6.DestinationCache

/-! The refresh of the addresses of an interface, and which addresses a router advertisement
makes or renews from which of its prefix informations. -/

namespace IPStack

open AddressMemory NDPMessages NDPRouterAdvertisement

/-- What a refresh leaves of an address. -/
def AddressEntry.aged (entry : AddressEntry) : Option AddressEntry :=
  if entry.validTimeMinutes = noTimeExpire then some entry
  else if entry.validTimeMinutes ≤ Router.refreshInMinutes then none
  else some
    { entry with
      validTimeMinutes := entry.validTimeMinutes - Router.refreshInMinutes
      preferredTimeMinutes :=
        if entry.preferredTimeMinutes ≤ Router.refreshInMinutes then 0
        else entry.preferredTimeMinutes - Router.refreshInMinutes }

def AddressMemory.agedSlot : Slot → Slot
  | .address e => e.aged.elim .free .address
  | other => other

namespace NDPRouterAdvertisement

/-- The prefix information that each slot was last written from, along the loop of `addPrefixes`.
The program does not keep it. -/
def renewals (interface : Ipv6Interface) (message : RouterAdvertisementMessage) (routerPosition : Nat) :
    Nat → AddressMemory → Nat → Option Bytes → BitVec 32 → (Nat → Option Bytes) → Nat → Option Bytes
  | _, _, _, none, _, renewed => renewed
  | 0, _, _, some _, _, renewed => renewed
  | fuel + 1, m, nextEntry, some option, payloadlen, renewed =>
    let renewed := match renewedSlot routerPosition option m nextEntry with
      | some i => Function.update renewed i (some option)
      | none => renewed
    let (m, nextEntry) := addPrefix interface message routerPosition option m nextEntry
    let payloadlen := payloadlen - OptionPrefixInformation.size
    renewals interface message routerPosition fuel m nextEntry (getPrefixOption option payloadlen) payloadlen renewed

/-- The prefix informations for autoconfiguration that the loop comes to, whatever the memory is. -/
def prefixInformations : Nat → Option Bytes → BitVec 32 → List Bytes
  | fuel + 1, some option, payloadlen =>
    let payloadlen := payloadlen - OptionPrefixInformation.size
    let rest := prefixInformations fuel (getPrefixOption option payloadlen) payloadlen
    if OptionPrefixInformation.useForStatelessAddressConfiguration option then option :: rest else rest
  | _, _, _ => []

/-- The prefix informations that all three passes renew addresses from. -/
def renewedPrefixes (fuel : Nat) (interface : Ipv6Interface) (message : RouterAdvertisementMessage)
    (payloadlen : BitVec 32) (routerPosition : Nat) (m : AddressMemory) : Nat → Option Bytes :=
  let (m, nextEntry) := flagAll routerPosition m
  if message.routerIsShutingDown then fun _ => none
  else renewals interface message routerPosition fuel m nextEntry (getPrefixOption message.options payloadlen)
    payloadlen fun _ => none

end NDPRouterAdvertisement

namespace Router

variable {n : Nat}

/-- The prefix informations that the addresses of an interface are made or renewed from when
it receives an advertisement. -/
def renewedPrefixes (fuel : Nat) (r : Router n) (k : Fin n) (src : Ipv6Addr) (message : RouterAdvertisementMessage)
    (payloadlen : BitVec 32) : Nat → Option Bytes :=
  if ¬(message.type = 134 ∧ message.code = 0) then fun _ => none
  else if payloadlen < RouterAdvertisementMessage.size then fun _ => none
  else
    let payloadlen := payloadlen - RouterAdvertisementMessage.size
    let foundMac := NDPMessages.getOptionLinklayerAddress .sourceLinkLayer message.options payloadlen
    let (r, entry) := r.advertisingRouter k src foundMac
    match entry with
    | none => fun _ => none
    | some routerPosition =>
      NDPRouterAdvertisement.renewedPrefixes fuel (r.interfaces k) message payloadlen routerPosition
        (refreshRouter message foundMac routerPosition (r.memory k))

end Router

variable {n : Nat} {r r' : Router n} {k k' : Fin n} {src addr : Ipv6Addr} {message : RouterAdvertisementMessage}
  {payloadlen remaining : BitVec 32} {routerPosition fuel nextEntry i j : Nat} {m m' : AddressMemory}
  {interface : Ipv6Interface} {option : Bytes} {foundMac : Bool} {e : AddressEntry} {renewed : Nat → Option Bytes}
  {state : NDPCacheState}

/-! ### The refresh -/

namespace Router

theorem refreshAddress_inSlot (m : AddressMemory) (i : Nat) :
    refreshAddress m i = m.write i (agedSlot (m.getEntryAtPosition i)) := by
  unfold refreshAddress addressAt
  cases entry : m.getEntryAtPosition i with
  | address e =>
    dsimp only [Slot.address?, agedSlot, AddressEntry.aged]
    by_cases fixed : e.validTimeMinutes = AddressEntry.noTimeExpire
    · rw [if_pos fixed, if_pos fixed, Option.elim_some, ← entry, write_same]
    rw [if_neg fixed, if_neg fixed]
    by_cases expired : e.validTimeMinutes ≤ refreshInMinutes
    · rw [if_pos expired, if_pos expired]
      rfl
    · rw [if_neg expired, if_neg expired, modifyAddress, entry]
      rfl
  | free => simp [Slot.address?, agedSlot, ← entry]
  | neighbour e => simp [Slot.address?, agedSlot, ← entry]
  | multicast e => simp [Slot.address?, agedSlot, ← entry]

/-- A refresh takes every address of the interface one step down. -/
theorem addressAt_refreshIPv6Addresses :
    ((r.refreshIPv6Addresses k).memory k).addressAt j = ((r.memory k).addressAt j).bind AddressEntry.aged := by
  unfold refreshIPv6Addresses addressAt
  rw [memory_setMemory, visit_entry refreshAddress_inSlot (by decide)]
  cases (r.memory k).getEntryAtPosition j with
  | address e =>
    change (e.aged.elim .free .address : Slot).address? = e.aged
    cases e.aged <;> rfl
  | _ => rfl

theorem memory_refreshIPv6Addresses_other (other : k' ≠ k) :
    (r.refreshIPv6Addresses k).memory k' = r.memory k' := memory_setMemory_other other

end Router

/-! ### The addresses that an advertisement leaves -/

namespace NDPRouterAdvertisement

/-- A slot was written from the prefix information logged for it, and is as before otherwise. -/
theorem addPrefixes_slot {option : Option Bytes} (renewed : Nat → Option Bytes)
    (ended : addPrefixes interface message routerPosition fuel m nextEntry option remaining = some m') :
    (renewals interface message routerPosition fuel m nextEntry option remaining renewed j = renewed j ∧
      m'.getEntryAtPosition j = m.getEntryAtPosition j) ∨
    ∃ option' e, renewals interface message routerPosition fuel m nextEntry option remaining renewed j = some option' ∧
      e.routerEntryPosition = routerPosition ∧
      m'.getEntryAtPosition j = .address (refreshPrefix message option' e) := by
  induction fuel generalizing m nextEntry option remaining renewed with
  | zero =>
    cases option with
    | none =>
      cases ended
      exact .inl ⟨rfl, rfl⟩
    | some option => cases ended
  | succ fuel ih =>
    cases option with
    | none =>
      rw [addPrefixes_none] at ended
      cases ended
      exact .inl ⟨rfl, rfl⟩
    | some option =>
      have rest : addPrefixes interface message routerPosition fuel
          (addPrefix interface message routerPosition option m nextEntry).1
          (addPrefix interface message routerPosition option m nextEntry).2
          (getPrefixOption option (remaining - OptionPrefixInformation.size))
          (remaining - OptionPrefixInformation.size) = some m' := ended
      unfold renewals
      obtain ⟨later, -, ⟨slot, memory⟩ | ⟨i, e, slot, memory, inside, mine, -⟩⟩ :=
        addPrefix_cases interface message routerPosition option m nextEntry
      · rw [slot]
        obtain ⟨logged, same⟩ | again := ih renewed rest
        · rw [memory] at same
          exact .inl ⟨logged, same⟩
        · exact .inr again
      · rw [slot]
        obtain ⟨logged, same⟩ | again := ih (Function.update renewed i (some option)) rest
        · rw [memory, getEntryAtPosition_write] at same
          by_cases here : i = j
          · subst here
            rw [Function.update_self] at logged
            rw [if_pos ⟨rfl, inside⟩] at same
            exact .inr ⟨option, e, logged, mine, same⟩
          · rw [Function.update_of_ne (Ne.symm here)] at logged
            rw [if_neg fun both => here both.1] at same
            exact .inl ⟨logged, same⟩
        · exact .inr again

/-- An address is renewed from a prefix information of the message. -/
theorem mem_prefixInformations {option : Option Bytes} {option' : Bytes} (renewed : Nat → Option Bytes)
    (logged : renewals interface message routerPosition fuel m nextEntry option remaining renewed j = some option') :
    renewed j = some option' ∨ option' ∈ prefixInformations fuel option remaining := by
  induction fuel generalizing m nextEntry option remaining renewed with
  | zero => cases option <;> exact .inl logged
  | succ fuel ih =>
    cases option with
    | none => exact .inl logged
    | some option =>
      unfold renewals at logged
      unfold prefixInformations
      unfold renewedSlot at logged
      by_cases used : OptionPrefixInformation.useForStatelessAddressConfiguration option = true
      · rw [if_pos used]
        obtain before | later := ih _ logged
        · split at before
          · rename_i i slot
            by_cases here : j = i
            · rw [here, Function.update_self] at before
              cases before
              exact .inr List.mem_cons_self
            · rw [Function.update_of_ne here] at before
              exact .inl before
          · exact .inl before
        · exact .inr (List.mem_cons_of_mem _ later)
      · rw [Bool.eq_false_of_not_eq_true used] at logged ⊢
        exact ih _ logged

/-- The addresses after the three passes: those of other routers, which are as before, and
those that were made or renewed. -/
theorem updatePrefixes_address
    (ended : updatePrefixes fuel interface message remaining routerPosition m = some m')
    (left : m'.addressAt j = some e) :
    (renewedPrefixes fuel interface message remaining routerPosition m j = none ∧ m.addressAt j = some e ∧
      e.routerEntryPosition ≠ routerPosition) ∨
    ∃ option old, renewedPrefixes fuel interface message remaining routerPosition m j = some option ∧
      e.routerEntryPosition = routerPosition ∧ e = refreshPrefix message option old := by
  unfold updatePrefixes at ended
  obtain ⟨added, passed, rfl⟩ := Option.map_eq_some_iff.mp ended
  have kept := Slot.address?_eq_some.mp left
  rw [removeFlagged_entry] at kept
  -- a slot that no option wrote has its flag
  have untouched (same : added.getEntryAtPosition j = (flagAll routerPosition m).1.getEntryAtPosition j) :
      m.addressAt j = some e ∧ e.routerEntryPosition ≠ routerPosition := by
    rw [same, ← removeFlagged_entry, removeFlagged_flagAll] at kept
    have other := ne_of_withoutRouter kept
    refine ⟨?_, other⟩
    unfold addressAt
    cases old : m.getEntryAtPosition j with
    | address e' =>
      rw [old, withoutRouter] at kept
      split_ifs at kept
      exact congrArg Slot.address? kept
    | _ =>
      rw [old] at kept
      cases kept
  unfold renewedPrefixes
  dsimp only
  split_ifs at passed with shut
  · cases passed
    rw [if_pos shut]
    exact .inl ⟨rfl, untouched rfl⟩
  · rw [if_neg shut]
    obtain ⟨logged, same⟩ | ⟨option, old, logged, mine, written⟩ := addPrefixes_slot (fun _ => none) passed
    · exact .inl ⟨logged, untouched same⟩
    · rw [written, sweep, if_neg (fun flagged => Bool.noConfusion flagged.2)] at kept
      cases kept
      exact .inr ⟨option, old, logged, mine, rfl⟩

end NDPRouterAdvertisement

namespace Router

theorem addressAt_setMemory_modifyNeighbour {f : NDPCacheEntry → NDPCacheEntry} :
    ((r.setMemory k ((r.memory k).modifyNeighbour i f)).memory k').addressAt j = (r.memory k').addressAt j := by
  by_cases here : k' = k
  · subst here
    rw [memory_setMemory, addressAt_modifyNeighbour]
  · rw [memory_setMemory_other here]

theorem addressAt_reserveNDPCacheEntry
    (left : ((r.reserveNDPCacheEntry k i addr state).memory k').addressAt j = some e) :
    (r.memory k').addressAt j = some e := by
  unfold reserveNDPCacheEntry at left
  by_cases here : k' = k
  · subst here
    rw [memory_setMemory, addressAt_write] at left
    split_ifs at left
    · cases left
    · exact left
  · rwa [memory_setMemory_other here] at left

theorem addressAt_dropUnused (left : ((r.dropUnused k).memory k').addressAt j = some e) :
    (r.memory k').addressAt j = some e := by
  unfold dropUnused releaseEntryBelowImportance at left
  cases oldest : ((r.memory k).oldestEntry NDPCacheEntry.importanceGoodToKnow).1 with
  | none => rwa [oldest] at left
  | some i =>
    rw [oldest] at left
    by_cases here : k' = k
    · subst here
      exact (addressAt_freeNDPCacheEntry left).1
    · rwa [memory_freeNDPCacheEntry_other here] at left

/-- A new entry of the neighbour cache makes no address. It may take the place of a router, and
of the addresses of that router. -/
theorem addressAt_addNDPCacheEntry (left : ((r.addNDPCacheEntry k addr state).1.memory k').addressAt j = some e) :
    (r.memory k').addressAt j = some e := by
  unfold addNDPCacheEntry at left
  cases known : (r.memory k).ndpcacheFind addr with
  | some i =>
    rw [known] at left
    rwa [addressAt_setMemory_modifyNeighbour] at left
  | none =>
    rw [known] at left
    cases room : (r.memory k).findEntry .free 0 with
    | some i =>
      rw [room] at left
      exact addressAt_reserveNDPCacheEntry left
    | none =>
      rw [room] at left
      cases dropped : ((r.dropUnused k).memory k).findEntry .free 0 with
      | some i =>
        simp only [dropped] at left
        exact addressAt_dropUnused (addressAt_reserveNDPCacheEntry left)
      | none =>
        simp only [dropped] at left
        exact addressAt_dropUnused left

theorem addressAt_advertisingRouter
    (left : ((r.advertisingRouter k src foundMac).1.memory k').addressAt j = some e) :
    (r.memory k').addressAt j = some e := by
  unfold advertisingRouter at left
  cases known : (r.memory k).ndpcacheFind src with
  | some i => rwa [known] at left
  | none =>
    rw [known] at left
    exact addressAt_addNDPCacheEntry left

theorem renewedPrefixes_mem (logged : r.renewedPrefixes fuel k src message payloadlen j = some option) :
    option ∈ prefixInformations fuel
      (getPrefixOption message.options (payloadlen - RouterAdvertisementMessage.size))
      (payloadlen - RouterAdvertisementMessage.size) := by
  unfold renewedPrefixes at logged
  split_ifs at logged
  dsimp only at logged
  generalize getOptionLinklayerAddress .sourceLinkLayer message.options
    (payloadlen - RouterAdvertisementMessage.size) = foundMac at logged
  cases entry : (r.advertisingRouter k src foundMac).2 with
  | none =>
    rw [entry] at logged
    cases logged
  | some routerPosition =>
    rw [entry] at logged
    unfold NDPRouterAdvertisement.renewedPrefixes at logged
    dsimp only at logged
    split_ifs at logged
    obtain none | member := mem_prefixInformations (fun _ => none) logged
    · cases none
    · exact member

/-- The addresses after an advertisement: those that were there and are not renewed, and those
made or renewed from a prefix information. -/
theorem receiveRouterAdvertisement_address
    (received : r.receiveRouterAdvertisement fuel k src message payloadlen = some r')
    (left : (r'.memory k').addressAt j = some e) :
    ((k' = k → r.renewedPrefixes fuel k src message payloadlen j = none) ∧ (r.memory k').addressAt j = some e) ∨
    k' = k ∧ ∃ option, r.renewedPrefixes fuel k src message payloadlen j = some option ∧
      e.validTimeMinutes = OptionPrefixInformation.getValidLifetime option := by
  obtain ⟨ignored, rfl⟩ | ⟨⟨kind, long⟩, foundMac, mac, result⟩ := receiveRouterAdvertisement_cases received
  · refine .inl ⟨fun _ => ?_, left⟩
    unfold renewedPrefixes
    obtain other | short := ignored
    · rw [if_pos other]
    · rw [if_pos short, ite_self]
  unfold renewedPrefixes
  rw [if_neg (not_not.mpr kind), if_neg long, mac]
  dsimp only
  obtain ⟨entry, rfl⟩ | ⟨routerPosition, m', entry, updated, rfl⟩ := result
  · rw [entry]
    exact .inl ⟨fun _ => rfl, addressAt_advertisingRouter left⟩
  · rw [entry]
    by_cases here : k' = k
    · subst here
      rw [memory_setMemory] at left
      obtain ⟨logged, before, -⟩ | ⟨option, old, logged, -, rfl⟩ := updatePrefixes_address updated left
      · rw [refreshRouter_eq, addressAt_modifyNeighbour] at before
        exact .inl ⟨fun _ => logged, addressAt_advertisingRouter before⟩
      · exact .inr ⟨rfl, option, logged, rfl⟩
    · rw [memory_setMemory_other here] at left
      exact .inl ⟨fun same => absurd same here, addressAt_advertisingRouter left⟩

end Router

end IPStack
