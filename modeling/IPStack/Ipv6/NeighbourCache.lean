import IPStack.Ipv6.AddressMemory
import Mathlib.Logic.Function.Basic

/-! The neighbour cache of the interfaces, and the next-hop pointers of the IPv6 instances
into it. -/

namespace IPStack

namespace NDPCacheEntry

def importanceGoodToKnow : BitVec 8 := 50

def importanceSolicitationRenew : BitVec 8 := 70

def importanceRouter : BitVec 8 := 100

def importanceAlwaysKeep : BitVec 8 := 255

def expireRatePerMinute : BitVec 8 := 6

def tresholdRequireSolicitation : BitVec 8 := 18

/-- A new entry. It expires within two refresh cycles. -/
def new (addr : Ipv6Addr) (state : NDPCacheState) : NDPCacheEntry where
  ipv6 := addr
  state := state
  isRouter := false
  isRouting := false
  expireValue := tresholdRequireSolicitation + expireRatePerMinute

end NDPCacheEntry

structure Ipv6Interface where
  addressmemory : AddressMemory
  /-- The ethernet address. -/
  address : Vector UInt8 6
  ipv6Up : Bool

/-- A pointer to an entry of a neighbour cache. `entry` is the address the entry had when the
pointer was taken: the program does not keep it, and no function looks at it. -/
structure NDPCachePointer (n : Nat) where
  interface : Fin n
  position : Nat
  entry : Ipv6Addr
deriving DecidableEq

/-- The IPv6 part of a socket. -/
structure IPV6 (n : Nat) where
  interface : Option (Fin n)
  srcIpv6Addr : Ipv6Addr
  dstIpv6Addr : Ipv6Addr
  hoplimit : BitVec 8
  nexthopNDPCacheEntry : Option (NDPCachePointer n)
deriving DecidableEq

/-- The interfaces in the order of the list, and the IPv6 instances in the destination cache. -/
structure Router (n : Nat) where
  interfaces : Fin n → Ipv6Interface
  ipv6 : List (IPV6 n)

namespace AddressMemory

def ndpcacheFind (m : AddressMemory) (addr : Ipv6Addr) : Option Nat :=
  (List.range m.size).find? fun i => (m.neighbourAt i).any fun entry => entry.ipv6 = addr

def ndpcacheFindRouter (m : AddressMemory) : Option Nat :=
  (List.range m.size).find? fun i => (m.neighbourAt i).any fun entry => entry.isRouting

def updateImportance (m : AddressMemory) (i : Nat) (importanceLevel : BitVec 8) : AddressMemory :=
  m.modifyNeighbour i fun entry => { entry with expireValue := entry.expireValue ||| importanceLevel }

/-- The entry with the lowest expire value below the given one, the first of several. -/
def oldestEntry (m : AddressMemory) (importanceBelowValue : BitVec 8) : Option Nat × BitVec 8 :=
  (List.range m.size).foldl (fun (oldest, below) i =>
    match m.neighbourAt i with
    | some entry =>
      if entry.expireValue ≠ 255 ∧ entry.expireValue < below then (some i, entry.expireValue) else (oldest, below)
    | none => (oldest, below)) (none, importanceBelowValue)

end AddressMemory

namespace AddressMemory

/-- The neighbour cache is the same, slot by slot. -/
structure SameNeighbours (m m' : AddressMemory) : Prop where
  size : m'.size = m.size
  entry : ∀ i, m'.neighbourAt i = m.neighbourAt i

variable {m m' m'' : AddressMemory} {i : Nat} {s : Slot} {addr : Ipv6Addr}

theorem neighbourAt_write {j : Nat} :
    (m.write i s).neighbourAt j = if i = j ∧ i < m.size then s.neighbour? else m.neighbourAt j := by
  unfold neighbourAt
  rw [getEntryAtPosition_write]
  split_ifs <;> rfl

theorem addressAt_write {j : Nat} :
    (m.write i s).addressAt j = if i = j ∧ i < m.size then s.address? else m.addressAt j := by
  unfold addressAt
  rw [getEntryAtPosition_write]
  split_ifs <;> rfl

theorem neighbourAt_free (free : (m.getEntryAtPosition i).id = .free) : m.neighbourAt i = none := by
  unfold neighbourAt
  cases old : m.getEntryAtPosition i with
  | neighbour e =>
    rw [old] at free
    cases free
  | _ => rfl

theorem SameNeighbours.refl (m : AddressMemory) : m.SameNeighbours m := ⟨rfl, fun _ => rfl⟩

theorem SameNeighbours.trans (first : m.SameNeighbours m') (second : m'.SameNeighbours m'') : m.SameNeighbours m'' :=
  ⟨second.size.trans first.size, fun i => (second.entry i).trans (first.entry i)⟩

theorem SameNeighbours.write (same : s.neighbour? = m.neighbourAt i) : m.SameNeighbours (m.write i s) := by
  refine ⟨size_write, fun j => ?_⟩
  rw [neighbourAt_write]
  split_ifs with here
  · rw [same, here.1]
  · rfl

theorem SameNeighbours.write_unused (unused : (m.getEntryAtPosition i).id ≠ .neighbour)
    (plain : s.neighbour? = none) : m.SameNeighbours (m.write i s) := by
  refine .write (plain.trans ?_)
  unfold neighbourAt
  cases old : m.getEntryAtPosition i with
  | neighbour entry =>
    rw [old] at unused
    exact absurd rfl unused
  | _ => rfl

theorem SameNeighbours.modifyAddress {f : AddressEntry → AddressEntry} : m.SameNeighbours (m.modifyAddress i f) :=
  .write (by simp [neighbourAt])

theorem ndpcacheFind_congr (size : m'.size = m.size)
    (same : ∀ i, (m'.neighbourAt i).map (·.ipv6) = (m.neighbourAt i).map (·.ipv6)) :
    m'.ndpcacheFind addr = m.ndpcacheFind addr := by
  have any : ∀ found : Option NDPCacheEntry, (found.any fun entry => entry.ipv6 = addr) =
      (found.map (·.ipv6)).any fun ipv6 => ipv6 = addr := fun found => by cases found <;> rfl
  unfold ndpcacheFind
  rw [size]
  congr
  funext i
  rw [any, any, same]

theorem SameNeighbours.find (same : m.SameNeighbours m') : m'.ndpcacheFind addr = m.ndpcacheFind addr :=
  ndpcacheFind_congr same.size fun i => by rw [same.entry]

section Modify

variable {f g : NDPCacheEntry → NDPCacheEntry} {j : Nat}

theorem getEntryAtPosition_modifyNeighbour : (m.modifyNeighbour i f).getEntryAtPosition j =
    if i = j then (m.getEntryAtPosition j).mapNeighbour f else m.getEntryAtPosition j := by
  unfold modifyNeighbour
  rw [getEntryAtPosition_write]
  by_cases here : i = j
  · subst here
    rw [if_pos rfl]
    split_ifs with inside
    · rfl
    · rw [getEntryAtPosition_outside (by omega)]
      rfl
  · rw [if_neg here, if_neg fun both => here both.1]

theorem neighbourAt_modifyNeighbour :
    (m.modifyNeighbour i f).neighbourAt j = if i = j then (m.neighbourAt j).map f else m.neighbourAt j := by
  unfold neighbourAt
  rw [getEntryAtPosition_modifyNeighbour]
  split_ifs
  · exact Slot.neighbour?_mapNeighbour
  · rfl

theorem addressAt_modifyNeighbour : (m.modifyNeighbour i f).addressAt j = m.addressAt j := by
  unfold addressAt
  rw [getEntryAtPosition_modifyNeighbour]
  split_ifs
  · exact Slot.address?_mapNeighbour
  · rfl

theorem modifyNeighbour_modifyNeighbour :
    (m.modifyNeighbour i f).modifyNeighbour i g = m.modifyNeighbour i (g ∘ f) := by
  refine ext_slots (by simp [modifyNeighbour]) fun j => ?_
  rw [getEntryAtPosition_modifyNeighbour, getEntryAtPosition_modifyNeighbour, getEntryAtPosition_modifyNeighbour]
  split_ifs
  · cases m.getEntryAtPosition j <;> rfl
  · rfl

end Modify

theorem ndpcacheFind_some (found : m.ndpcacheFind addr = some i) : ∃ e, m.neighbourAt i = some e ∧ e.ipv6 = addr := by
  have kind := List.find?_some found
  cases entry : m.neighbourAt i with
  | none =>
    rw [entry] at kind
    cases kind
  | some e =>
    rw [entry] at kind
    exact ⟨e, rfl, by simpa using kind⟩

theorem ndpcacheFind_none (unknown : m.ndpcacheFind addr = none) {e : NDPCacheEntry}
    (here : m.neighbourAt i = some e) : e.ipv6 ≠ addr := by
  have inside : i < m.size := by
    refine inside_of_id ?_
    rw [Slot.neighbour?_eq_some.mp here]
    nofun
  have other := List.find?_eq_none.mp unknown i (List.mem_range.mpr inside)
  rw [here] at other
  simpa using other

end AddressMemory

/-- The slot without the addresses of a router. -/
def withoutRouter (routerPosition : Nat) : Slot → Slot
  | .address e => if e.routerEntryPosition = routerPosition then .free else .address e
  | other => other

theorem ne_of_withoutRouter {routerPosition : Nat} {s : Slot} {e : AddressEntry}
    (kept : withoutRouter routerPosition s = .address e) :
    e.routerEntryPosition ≠ routerPosition := by
  cases s with
  | address e' =>
    dsimp only [withoutRouter] at kept
    split_ifs at kept with mine
    cases kept
    exact mine
  | _ => cases kept

namespace Router

open AddressMemory

variable {n : Nat}

def memory (r : Router n) (k : Fin n) : AddressMemory := (r.interfaces k).addressmemory

def setMemory (r : Router n) (k : Fin n) (m : AddressMemory) : Router n :=
  { r with interfaces := Function.update r.interfaces k { r.interfaces k with addressmemory := m } }

def clearDestinationCacheEntry (r : Router n) (k : Fin n) (entry : Nat) : Router n :=
  { r with ipv6 := r.ipv6.map fun ipv6 =>
      if ipv6.nexthopNDPCacheEntry.any fun p => p.interface = k ∧ p.position = entry then
        { ipv6 with nexthopNDPCacheEntry := none }
      else ipv6 }

def freeNDPCacheEntry (r : Router n) (k : Fin n) (pos : Nat) : Router n :=
  let r := r.clearDestinationCacheEntry k pos
  let m := r.memory k
  let m :=
    if (m.neighbourAt pos).any (·.isRouter) then
      -- all address prefixes that belong to this router
      (AddressMemory.visit id .address (fun m i =>
        if (m.addressAt i).any (·.routerEntryPosition = pos) then m.freeEntry i else m) m).1
    else m
  r.setMemory k (m.freeEntry pos)

def releaseEntryBelowImportance (r : Router n) (k : Fin n) (importanceBelowValue : BitVec 8) : Router n :=
  match ((r.memory k).oldestEntry importanceBelowValue).1 with
  | some i => r.freeNDPCacheEntry k i
  | none => r

def releaseOldEntries (r : Router n) (k : Fin n) : Router n :=
  (AddressMemory.visit (·.memory k) .neighbour (fun r i =>
    match (r.memory k).neighbourAt i with
    | some entry =>
      if entry.expireValue < NDPCacheEntry.expireRatePerMinute then r.freeNDPCacheEntry k i
      else if entry.expireValue ≠ 255 then
        r.setMemory k <| (r.memory k).modifyNeighbour i fun entry =>
          { entry with expireValue := (entry.expireValue - NDPCacheEntry.expireRatePerMinute) ||| 1 }
      else r
    | none => r) r).1

def dropUnused (r : Router n) (k : Fin n) : Router n :=
  r.releaseEntryBelowImportance k NDPCacheEntry.importanceGoodToKnow

def reserveNDPCacheEntry (r : Router n) (k : Fin n) (i : Nat) (addr : Ipv6Addr) (state : NDPCacheState) : Router n :=
  r.setMemory k ((r.memory k).write i (.neighbour (.new addr state)))

/-- The entry of the address, or a new one. -/
def addNDPCacheEntry (r : Router n) (k : Fin n) (addr : Ipv6Addr) (state : NDPCacheState) : Router n × Option Nat :=
  match (r.memory k).ndpcacheFind addr with
  | some i => (r.setMemory k ((r.memory k).modifyNeighbour i fun entry => { entry with state := state }), some i)
  | none =>
    match (r.memory k).findEntry .free 0 with
    | some i => (r.reserveNDPCacheEntry k i addr state, some i)
    | none =>
      -- the memory is full: an unused entry is dropped
      let r := r.dropUnused k
      match (r.memory k).findEntry .free 0 with
      | some i => (r.reserveNDPCacheEntry k i addr state, some i)
      | none => (r, none)

/-! ### Memories -/

variable {r : Router n} {k k' : Fin n} {m : AddressMemory} {i : Nat} {addr : Ipv6Addr}

@[simp] theorem memory_setMemory : (r.setMemory k m).memory k = m := by
  simp [memory, setMemory]

theorem memory_setMemory_other (other : k' ≠ k) : (r.setMemory k m).memory k' = r.memory k' := by
  simp [memory, setMemory, Function.update_of_ne other]

@[simp] theorem setMemory_memory : r.setMemory k (r.memory k) = r := by
  simp [memory, setMemory]

@[simp] theorem memory_clearDestinationCacheEntry : (r.clearDestinationCacheEntry k i).memory k' = r.memory k' := rfl

theorem removeRouter_inSlot {pos : Nat} (m : AddressMemory) (i : Nat) :
    (if (m.addressAt i).any (·.routerEntryPosition = pos) then m.freeEntry i else m) =
      m.write i (withoutRouter pos (m.getEntryAtPosition i)) := by
  unfold addressAt
  cases entry : m.getEntryAtPosition i with
  | address e =>
    by_cases mine : e.routerEntryPosition = pos
    · simp [Slot.address?, withoutRouter, mine, freeEntry]
    · rw [withoutRouter, if_neg mine, ← entry, write_same, if_neg]
      simpa [Slot.address?, entry] using mine
  | free => simp [Slot.address?, withoutRouter, ← entry]
  | neighbour e => simp [Slot.address?, withoutRouter, ← entry]
  | multicast e => simp [Slot.address?, withoutRouter, ← entry]

/-- After an entry is freed, its slot is free; the addresses of a router are freed with it. -/
theorem freeNDPCacheEntry_entry {pos j : Nat} : ((r.freeNDPCacheEntry k pos).memory k).getEntryAtPosition j =
    if j = pos then .free
    else if ((r.memory k).neighbourAt pos).any (·.isRouter) then withoutRouter pos ((r.memory k).getEntryAtPosition j)
    else (r.memory k).getEntryAtPosition j := by
  unfold freeNDPCacheEntry
  rw [memory_setMemory, getEntryAtPosition_freeEntry, memory_clearDestinationCacheEntry]
  by_cases here : j = pos
  · rw [if_pos here, if_pos here]
  rw [if_neg here, if_neg here]
  by_cases router : ((r.memory k).neighbourAt pos).any (·.isRouter)
  · rw [if_pos router, if_pos router, visit_entry removeRouter_inSlot (by decide)]
    cases (r.memory k).getEntryAtPosition j <;> rfl
  · rw [if_neg router, if_neg router]

theorem memory_freeNDPCacheEntry_other {pos : Nat} (other : k' ≠ k) :
    (r.freeNDPCacheEntry k pos).memory k' = r.memory k' := memory_setMemory_other other

theorem neighbourAt_freeNDPCacheEntry {pos j : Nat} : ((r.freeNDPCacheEntry k pos).memory k).neighbourAt j =
    if j = pos then none else (r.memory k).neighbourAt j := by
  unfold neighbourAt
  rw [freeNDPCacheEntry_entry]
  split_ifs
  · rfl
  · cases (r.memory k).getEntryAtPosition j with
    | address e =>
      dsimp only [withoutRouter]
      split_ifs <;> rfl
    | _ => rfl
  · rfl

/-- An address that is left was there before, and is not of a router that is freed. -/
theorem addressAt_freeNDPCacheEntry {pos j : Nat} {e : AddressEntry}
    (left : ((r.freeNDPCacheEntry k pos).memory k).addressAt j = some e) : (r.memory k).addressAt j = some e ∧
      (((r.memory k).neighbourAt pos).any (·.isRouter) → e.routerEntryPosition ≠ pos) := by
  unfold addressAt at left ⊢
  rw [freeNDPCacheEntry_entry] at left
  split_ifs at left with here router
  · cases left
  · have kept := Slot.address?_eq_some.mp left
    refine ⟨?_, fun _ => ne_of_withoutRouter kept⟩
    cases old : (r.memory k).getEntryAtPosition j with
    | address e' =>
      rw [old] at kept
      dsimp only [withoutRouter] at kept
      split_ifs at kept
      cases kept
      rfl
    | _ =>
      rw [old] at kept
      cases kept
  · exact ⟨left, fun flagged => absurd flagged router⟩

end Router

end IPStack
