import Mathlib.Algebra.Group.Int.Defs
import Mathlib.Algebra.Group.Nat.Defs
import Mathlib.Data.List.GetD
import Mathlib.Data.List.Range
import Mathlib.Tactic.SplitIfs

/-! The address memory of an interface. One array of slots keeps its addresses, its neighbour
cache and its multicast groups; entries refer to each other by position. -/

namespace IPStack

abbrev Ipv6Addr := Vector UInt8 16

/-- `compare_ipv6_addr` on the bytes of both addresses, from some block on. -/
def comparePrefixBytes : List (UInt8 × UInt8) → UInt8 → Bool
  | [], _ => true
  | (addr, addrprefix) :: blocks, prefixlen =>
    if 8 ≤ prefixlen then
      if addr ≠ addrprefix then false
      else if prefixlen - 8 = 0 then true
      else comparePrefixBytes blocks (prefixlen - 8)
    else
      -- `^` is the exclusive or in the source, too
      let mask := ~~~((2 ^^^ (7 - prefixlen)) - 1)
      addr &&& mask == addrprefix &&& mask

def compareIpv6Addr (addr addrprefix : Ipv6Addr) (prefixlen : UInt8) : Bool :=
  comparePrefixBytes (addr.toList.zip addrprefix.toList) prefixlen

inductive AddressEntryState where
  | temporary
  | valid
deriving DecidableEq, Repr

/-- An address of the interface, and the prefix of a router it was made from. -/
structure AddressEntry where
  ipv6 : Ipv6Addr
  prefixlen : UInt8
  state : AddressEntryState
  isOnLink : Bool
  toBeRemoved : Bool
  routerEntryPosition : Nat
  hoplimit : BitVec 8
  validTimeMinutes : BitVec 32
  preferredTimeMinutes : BitVec 32
deriving DecidableEq

def AddressEntry.noTimeExpire : BitVec 32 := -1

inductive NDPCacheState where
  | incomplete
  | stale
  | delay
  | probe
  | reachable
deriving DecidableEq, Repr

structure NDPCacheEntry where
  ipv6 : Ipv6Addr
  state : NDPCacheState
  isRouter : Bool
  isRouting : Bool
  expireValue : BitVec 8
deriving DecidableEq

structure MulticastGroupEntry where
  ipv6 : Ipv6Addr
deriving DecidableEq

inductive Slot where
  | free
  | address (entry : AddressEntry)
  | neighbour (entry : NDPCacheEntry)
  | multicast (entry : MulticastGroupEntry)
deriving DecidableEq

/-- The first byte of a slot. -/
inductive EntryId where
  | free
  | address
  | neighbour
  | multicast
deriving DecidableEq

def Slot.id : Slot → EntryId
  | .free => .free
  | .address _ => .address
  | .neighbour _ => .neighbour
  | .multicast _ => .multicast

namespace Slot

def address? : Slot → Option AddressEntry
  | .address entry => some entry
  | _ => none

def neighbour? : Slot → Option NDPCacheEntry
  | .neighbour entry => some entry
  | _ => none

def mapAddress (f : AddressEntry → AddressEntry) : Slot → Slot
  | .address entry => .address (f entry)
  | other => other

def mapNeighbour (f : NDPCacheEntry → NDPCacheEntry) : Slot → Slot
  | .neighbour entry => .neighbour (f entry)
  | other => other

variable {s : Slot} {f : AddressEntry → AddressEntry} {g : NDPCacheEntry → NDPCacheEntry}

@[simp] theorem address?_mapAddress : (s.mapAddress f).address? = s.address?.map f := by cases s <;> rfl

@[simp] theorem neighbour?_mapAddress : (s.mapAddress f).neighbour? = s.neighbour? := by cases s <;> rfl

@[simp] theorem address?_mapNeighbour : (s.mapNeighbour g).address? = s.address? := by cases s <;> rfl

@[simp] theorem neighbour?_mapNeighbour : (s.mapNeighbour g).neighbour? = s.neighbour?.map g := by cases s <;> rfl

@[simp] theorem id_mapAddress : (s.mapAddress f).id = s.id := by cases s <;> rfl

@[simp] theorem id_mapNeighbour : (s.mapNeighbour g).id = s.id := by cases s <;> rfl

theorem address?_eq_some {e : AddressEntry} : s.address? = some e ↔ s = .address e := by
  cases s <;> simp [address?]

theorem neighbour?_eq_some {e : NDPCacheEntry} : s.neighbour? = some e ↔ s = .neighbour e := by
  cases s <;> simp [neighbour?]

end Slot

/-- The positions of all slots are bytes other than `EntryUndefined`. -/
structure AddressMemory where
  slots : List Slot
  small : slots.length ≤ 255
deriving DecidableEq

namespace AddressMemory

def entryUndefined : Nat := 255

/-- All slots are free. -/
def construct (size : Fin 256) : AddressMemory := ⟨.replicate size .free, by simpa using Nat.le_of_lt_succ size.isLt⟩

def size (m : AddressMemory) : Nat := m.slots.length

def getEntryAtPosition (m : AddressMemory) (i : Nat) : Slot := m.slots.getD i .free

def write (m : AddressMemory) (i : Nat) (s : Slot) : AddressMemory :=
  ⟨m.slots.set i s, by simpa using m.small⟩

def freeEntry (m : AddressMemory) (i : Nat) : AddressMemory := m.write i .free

/-- The first slot of the type from `startentry` on. -/
def findEntry (m : AddressMemory) (type : EntryId) (startentry : Nat) : Option Nat :=
  (List.range' startentry (m.size - startentry)).find? fun i => (m.getEntryAtPosition i).id = type

def addressAt (m : AddressMemory) (i : Nat) : Option AddressEntry := (m.getEntryAtPosition i).address?

def neighbourAt (m : AddressMemory) (i : Nat) : Option NDPCacheEntry := (m.getEntryAtPosition i).neighbour?

/-- Assignments to the entry a pointer refers to. -/
def modifyAddress (m : AddressMemory) (i : Nat) (f : AddressEntry → AddressEntry) : AddressMemory :=
  m.write i ((m.getEntryAtPosition i).mapAddress f)

def modifyNeighbour (m : AddressMemory) (i : Nat) (f : NDPCacheEntry → NDPCacheEntry) : AddressMemory :=
  m.write i ((m.getEntryAtPosition i).mapNeighbour f)

/-- The loop `while (entry = findEntry<type>(&nextEntry))` over a state with an address
memory in it, and `nextEntry` when it ends. A slot is visited once, so there are no more
rounds than slots. -/
def visitFrom {σ : Type} (memory : σ → AddressMemory) (type : EntryId) (body : σ → Nat → σ) :
    Nat → σ → Nat → σ × Nat
  | 0, state, nextEntry => (state, nextEntry)
  | rounds + 1, state, nextEntry =>
    match (memory state).findEntry type nextEntry with
    | none => (state, nextEntry)
    | some i => visitFrom memory type body rounds (body state i) (i + 1)

def visit {σ : Type} (memory : σ → AddressMemory) (type : EntryId) (body : σ → Nat → σ) (state : σ) : σ × Nat :=
  visitFrom memory type body (memory state).size state 0

/-! ### Slots -/

variable {m : AddressMemory} {type : EntryId} {i j startentry nextEntry rounds : Nat} {s : Slot}
  {body : AddressMemory → Nat → AddressMemory} {f : Slot → Slot}

@[simp] theorem size_write : (m.write i s).size = m.size := List.length_set

theorem getEntryAtPosition_write :
    (m.write i s).getEntryAtPosition j = if i = j ∧ i < m.size then s else m.getEntryAtPosition j := by
  unfold getEntryAtPosition write size
  simp only [List.getD_eq_getElem?_getD, List.getElem?_set]
  by_cases same : i = j
  · subst same
    by_cases inside : i < m.slots.length
    · simp [inside]
    · simp [inside]
  · simp [same]

theorem getEntryAtPosition_write_other (other : i ≠ j) :
    (m.write i s).getEntryAtPosition j = m.getEntryAtPosition j := by
  rw [getEntryAtPosition_write, if_neg fun both => other both.1]

theorem ext_slots {m' : AddressMemory} (length : m.size = m'.size)
    (same : ∀ i, m.getEntryAtPosition i = m'.getEntryAtPosition i) : m = m' := by
  obtain ⟨slots, small⟩ := m
  obtain ⟨slots', small'⟩ := m'
  congr
  apply List.ext_getElem length
  intro i inside inside'
  have equal := same i
  unfold getEntryAtPosition at equal
  rwa [List.getD_eq_getElem _ _ inside, List.getD_eq_getElem _ _ inside'] at equal

@[simp] theorem write_same : m.write i (m.getEntryAtPosition i) = m := by
  refine ext_slots size_write fun j => ?_
  rw [getEntryAtPosition_write]
  by_cases same : i = j
  · subst same
    exact ite_self _
  · exact if_neg fun both => same both.1

theorem getEntryAtPosition_outside (outside : m.size ≤ i) : m.getEntryAtPosition i = .free :=
  List.getD_eq_default _ _ outside

theorem getEntryAtPosition_freeEntry :
    (m.freeEntry i).getEntryAtPosition j = if j = i then .free else m.getEntryAtPosition j := by
  unfold freeEntry
  rw [getEntryAtPosition_write]
  by_cases here : i = j
  · subst here
    rw [if_pos rfl]
    split_ifs with inside
    · rfl
    · exact getEntryAtPosition_outside (by omega)
  · rw [if_neg fun both => here both.1, if_neg (Ne.symm here)]

@[simp] theorem write_write {s' : Slot} : (m.write i s).write i s' = m.write i s' := by
  simp [write]

theorem inside_of_id (used : (m.getEntryAtPosition i).id ≠ .free) : i < m.size := by
  by_contra outside
  apply used
  unfold getEntryAtPosition
  rw [List.getD_eq_default _ _ (Nat.le_of_not_lt outside)]
  rfl

theorem findEntry_some (found : m.findEntry type startentry = some i) :
    startentry ≤ i ∧ i < m.size ∧ (m.getEntryAtPosition i).id = type ∧
      ∀ j, startentry ≤ j → j < i → (m.getEntryAtPosition j).id ≠ type := by
  obtain ⟨kind, member, before⟩ := List.find?_range'_eq_some.mp found
  rw [List.mem_range'_1] at member
  refine ⟨member.1, by omega, by simpa using kind, fun j low high => ?_⟩
  simpa using before j low high

theorem findEntry_none : m.findEntry type startentry = none ↔
    ∀ j, startentry ≤ j → j < m.size → (m.getEntryAtPosition j).id ≠ type := by
  unfold findEntry
  rw [List.find?_eq_none]
  constructor
  · intro absent j low high
    simpa using absent j (List.mem_range'_1.mpr (by omega))
  · intro absent j member
    rw [List.mem_range'_1] at member
    simpa using absent j member.1 (by omega)

/-! ### Visiting all slots of a type -/

variable {σ : Type} {memory : σ → AddressMemory} {state : σ} {act : σ → Nat → σ}

theorem le_visitFrom : nextEntry ≤ (visitFrom memory type act rounds state nextEntry).2 := by
  induction rounds generalizing state nextEntry with
  | zero => exact le_refl _
  | succ rounds ih =>
    unfold visitFrom
    cases found : (memory state).findEntry type nextEntry with
    | none => exact le_refl _
    | some i =>
      have after := (findEntry_some found).1
      exact (by omega : nextEntry ≤ i + 1).trans ih

/-- What every round keeps, the loop keeps. It may depend on how far the loop has come. -/
theorem visitFrom_keeps {P : Nat → σ → Prop} (start : P nextEntry state)
    (round : ∀ s next i, P next s → next ≤ i → ((memory s).getEntryAtPosition i).id = type → i < (memory s).size →
      P (i + 1) (act s i)) :
    P (visitFrom memory type act rounds state nextEntry).2 (visitFrom memory type act rounds state nextEntry).1 := by
  induction rounds generalizing state nextEntry with
  | zero => exact start
  | succ rounds ih =>
    unfold visitFrom
    cases found : (memory state).findEntry type nextEntry with
    | none => exact start
    | some i =>
      obtain ⟨after, inside, kind, -⟩ := findEntry_some found
      exact ih (round state nextEntry i start after kind inside)

theorem visit_keeps {P : σ → Prop} (start : P state)
    (round : ∀ s i, P s → ((memory s).getEntryAtPosition i).id = type → i < (memory s).size → P (act s i)) :
    P (visit memory type act state).1 :=
  visitFrom_keeps (P := fun _ => P) start fun s _ i kept _ => round s i kept

section Local

/- A body that touches the visited slot only. -/
variable (inSlot : ∀ m i, body m i = m.write i (f (m.getEntryAtPosition i)))

include inSlot

theorem size_visit : (visit id type body m).1.size = m.size := by
  refine visit_keeps (P := fun m' : AddressMemory => m'.size = m.size) rfl fun m' i same _ _ => ?_
  rw [inSlot, size_write, same]

theorem visitFrom_entry (enough : m.size - nextEntry ≤ rounds) :
    (visitFrom id type body rounds m nextEntry).1.getEntryAtPosition j =
      if nextEntry ≤ j ∧ j < m.size ∧ (m.getEntryAtPosition j).id = type then f (m.getEntryAtPosition j)
      else m.getEntryAtPosition j := by
  induction rounds generalizing m nextEntry with
  | zero => exact (if_neg (by omega)).symm
  | succ rounds ih =>
    unfold visitFrom
    cases found : (id m).findEntry type nextEntry with
    | none =>
      rw [if_neg fun visited => findEntry_none.mp found j visited.1 visited.2.1 visited.2.2]
    | some i =>
      obtain ⟨low, inside, kind, before⟩ := findEntry_some found
      dsimp only
      rw [inSlot, ih (by rw [size_write]; omega), size_write]
      by_cases here : i = j
      · subst here
        rw [if_neg (by omega), getEntryAtPosition_write, if_pos ⟨rfl, inside⟩, if_pos ⟨low, inside, kind⟩]
      · rw [getEntryAtPosition_write_other here]
        refine if_congr ?_ rfl rfl
        constructor
        · intro visited
          exact ⟨by omega, visited.2⟩
        · intro visited
          refine ⟨?_, visited.2⟩
          by_contra skipped
          exact before j visited.1 (by omega) visited.2.2

theorem visit_entry (used : type ≠ .free) :
    (visit id type body m).1.getEntryAtPosition j =
      if (m.getEntryAtPosition j).id = type then f (m.getEntryAtPosition j) else m.getEntryAtPosition j := by
  rw [visit, id_eq, visitFrom_entry inSlot (Nat.sub_le ..)]
  refine if_congr ?_ rfl rfl
  constructor
  · intro visited
    exact visited.2.2
  · intro kind
    exact ⟨Nat.zero_le _, inside_of_id (kind ▸ used), kind⟩

/-- The loop leaves `nextEntry` behind every entry of the type. -/
theorem lt_visitFrom (enough : m.size - nextEntry ≤ rounds) (inside : j < m.size)
    (kind : (m.getEntryAtPosition j).id = type) : j < (visitFrom id type body rounds m nextEntry).2 := by
  induction rounds generalizing m nextEntry with
  | zero =>
    unfold visitFrom
    omega
  | succ rounds ih =>
    unfold visitFrom
    cases found : (id m).findEntry type nextEntry with
    | none =>
      by_contra skipped
      exact findEntry_none.mp found j (Nat.le_of_not_lt skipped) inside kind
    | some i =>
      dsimp only
      have after := (findEntry_some found).1
      by_cases here : j ≤ i
      · have later : i + 1 ≤ (visitFrom id type body rounds (body m i) (i + 1)).2 := le_visitFrom
        omega
      · rw [inSlot]
        refine ih ?_ ?_ ?_
        · rw [size_write]
          omega
        · rwa [size_write]
        · rwa [getEntryAtPosition_write_other (by omega)]

theorem lt_visit (used : type ≠ .free) (kind : (m.getEntryAtPosition j).id = type) : j < (visit id type body m).2 :=
  lt_visitFrom inSlot (Nat.sub_le ..) (inside_of_id (kind ▸ used)) kind

end Local

end AddressMemory

end IPStack
