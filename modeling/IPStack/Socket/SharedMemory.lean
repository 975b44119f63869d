import IPStack.Lib.Slots
import IPStack.Util.Mempool

/-! The memory that the management sockets share: a pool, and the list of the send buffers that
are allocated from it. -/

namespace IPStack

/-- The pool of the management memory with the static assertions about it, and the size of a send
buffer without its data. -/
structure SharedMemoryLayout extends MempoolLayout where
  sizeofSendBuffer : BitVec 32
  big_buf_cnt_assert : toMempoolSizes.countBig ≠ 0
  small_buf_cnt_assert : toMempoolSizes.countSmall ≠ 0
  big_buf_size_assert : 44 ≤ toMempoolSizes.sizeBig
  small_buf_size_assert : 40 ≤ toMempoolSizes.sizeSmall

namespace SharedMemoryLayout

variable (l : SharedMemoryLayout)

/-- `SLOTS`. -/
def slots : Nat := (l.tCOUNT_1 + l.tCOUNT_2).toNat

/-- There is a slot for each block. -/
theorem slots_eq : l.slots = l.countBig.toNat + l.countSmall.toNat := by
  have fits := l.fits
  have counts : l.countBig.toNat + l.countSmall.toNat = l.tCOUNT_1.toNat + l.tCOUNT_2.toNat := by
    unfold MempoolSizes.countBig MempoolSizes.countSmall
    split <;> split <;> bv_omega
  unfold PoolLayout.sizeof at fits
  rw [slots, BitVec.toNat_add, counts, Nat.mod_eq_of_lt (by omega)]

theorem blockSize_pos (k : PoolKind) : 0 < (l.pool k).blockSize := by
  cases k with
  | big =>
    have bound : 44 ≤ l.sizeBig.toNat := l.big_buf_size_assert
    exact show 0 < l.sizeBig.toNat by omega
  | small =>
    have bound : 40 ≤ l.sizeSmall.toNat := l.small_buf_size_assert
    exact show 0 < l.sizeSmall.toNat by omega

end SharedMemoryLayout

namespace SendBuffer

def invalidState : BitVec 8 := 0x00

def writingState : BitVec 8 := 0x01

def transmittedState : BitVec 8 := 0x04

end SendBuffer

/-- `SharedMemory`, with the `m_state` of the send buffer at an address. -/
structure SharedMemory (l : SharedMemoryLayout) where
  mempool : PlacedMempool l.toMempoolLayout
  allocatedMemories : Fin l.slots → Option Nat
  state : Nat → BitVec 8

namespace SharedMemory

variable {l : SharedMemoryLayout}

/-- The constructor, in memory with any content. -/
def new (l : SharedMemoryLayout) (state : Nat → BitVec 8) : SharedMemory l := ⟨.new _, fun _ => none, state⟩

def insert (m : SharedMemory l) (data : Nat) : Bool × SharedMemory l :=
  match Slots.find id m.allocatedMemories none with
  | some i => (true, { m with allocatedMemories := Function.update m.allocatedMemories i (some data) })
  | none => (false, m)

/-- The condition of `remove`. The driver tells whether a frame, which starts at the data of the
buffer, has been sent. -/
def unused (m : SharedMemory l) (hasBeenSent : Nat → Bool) (buffer : Nat) : Bool :=
  m.state buffer = SendBuffer.invalidState ||
    m.state buffer = SendBuffer.transmittedState && hasBeenSent (buffer + l.sizeofSendBuffer.toNat)

/-- `remove`. An empty slot holds the null pointer, which lies in no pool: nothing changes. -/
def remove (m : SharedMemory l) (index : Fin l.slots) (hasBeenSent : Nat → Bool) : Bool × SharedMemory l :=
  match m.allocatedMemories index with
  | none => (false, m)
  | some buffer =>
    if m.unused hasBeenSent buffer then
      (true, { m with
        mempool := m.mempool.free buffer
        allocatedMemories := Function.update m.allocatedMemories index none })
    else (false, m)

def freeAllUnused (m : SharedMemory l) (hasBeenSent : Nat → Bool) : SharedMemory l :=
  (List.finRange l.slots).foldl
    (fun m i => if (m.allocatedMemories i).isSome then (m.remove i hasBeenSent).2 else m) m

/-- `SendBuffer::createInstance` itself. -/
def construct (m : SharedMemory l) (requestedSize : BitVec 32) : Option Nat × SharedMemory l :=
  let allocated := m.mempool.alloc (requestedSize + l.sizeofSendBuffer)
  match allocated.1 with
  | none => (none, { m with mempool := allocated.2 })
  | some r => (some r, { m with mempool := allocated.2, state := Function.update m.state r SendBuffer.writingState })

/-- `SendBuffer::createInstance` on this pool with the advice before and after it. -/
def createInstance (m : SharedMemory l) (requestedSize : BitVec 32) (hasBeenSent : Nat → Bool) :
    Option Nat × SharedMemory l :=
  let created := (m.freeAllUnused hasBeenSent).construct requestedSize
  match created.1 with
  | none => created
  | some buffer => (some buffer, (created.2.insert buffer).2)

/-- What the management sockets do, with what the driver answers meanwhile. -/
inductive Call (l : SharedMemoryLayout)
  | createInstance (requestedSize : BitVec 32) (hasBeenSent : Nat → Bool)
  | setState (buffer : Nat) (s : BitVec 8)
  | freeAllUnused (hasBeenSent : Nat → Bool)
  | remove (index : Fin l.slots) (hasBeenSent : Nat → Bool)

def step (m : SharedMemory l) : Call l → SharedMemory l
  | .createInstance requestedSize hasBeenSent => (m.createInstance requestedSize hasBeenSent).2
  | .setState buffer s => { m with state := Function.update m.state buffer s }
  | .freeAllUnused hasBeenSent => m.freeAllUnused hasBeenSent
  | .remove index hasBeenSent => (m.remove index hasBeenSent).2

/-- What the driver answers during a call. -/
def Call.hasBeenSent : Call l → Nat → Bool
  | .createInstance _ hasBeenSent => hasBeenSent
  | .setState _ _ => fun _ => false
  | .freeAllUnused hasBeenSent => hasBeenSent
  | .remove _ hasBeenSent => hasBeenSent

/-! ### The slots -/

variable {m : SharedMemory l} {hasBeenSent : Nat → Bool} {buffer : Nat} {i j : Fin l.slots}

@[simp] theorem state_remove : (m.remove i hasBeenSent).2.state = m.state := by
  unfold remove
  split
  · simp only
  · split <;> simp only

/-- A slot is emptied exactly if its buffer is unused. -/
theorem allocatedMemories_remove :
    (m.remove i hasBeenSent).2.allocatedMemories =
      Function.update m.allocatedMemories i ((m.allocatedMemories i).filter fun b => !m.unused hasBeenSent b) := by
  unfold remove
  split
  · rename_i empty
    rw [empty, Option.filter_none, ← empty, Function.update_eq_self]
  · rename_i b used
    rw [used]
    split
    · rename_i free
      simp only [Option.filter_some, free, Bool.not_true, Bool.false_eq_true, if_false]
    · rename_i kept
      simp only [Option.filter_some, kept, Bool.not_false, if_true]
      rw [← used, Function.update_eq_self]

theorem removeUsed_eq :
    (if (m.allocatedMemories i).isSome then (m.remove i hasBeenSent).2 else m) = (m.remove i hasBeenSent).2 := by
  split
  · simp only
  · rename_i empty
    rw [remove, Option.not_isSome_iff_eq_none.mp empty]

theorem freeAllUnused_eq (m : SharedMemory l) (hasBeenSent : Nat → Bool) :
    m.freeAllUnused hasBeenSent = (List.finRange l.slots).foldl (fun m i => (m.remove i hasBeenSent).2) m := by
  simp only [freeAllUnused, removeUsed_eq]

theorem foldl_remove (indices : List (Fin l.slots)) (nodup : indices.Nodup) (m : SharedMemory l) :
    let m' := indices.foldl (fun m i => (m.remove i hasBeenSent).2) m
    m'.state = m.state ∧ ∀ j, m'.allocatedMemories j =
      if j ∈ indices then (m.allocatedMemories j).filter fun b => !m.unused hasBeenSent b else m.allocatedMemories j := by
  induction indices generalizing m with
  | nil => exact ⟨rfl, fun j => (if_neg List.not_mem_nil).symm⟩
  | cons i rest ih =>
    obtain ⟨absent, distinct⟩ := List.nodup_cons.mp nodup
    obtain ⟨state, slots⟩ := ih distinct (m.remove i hasBeenSent).2
    have same : (m.remove i hasBeenSent).2.unused hasBeenSent = m.unused hasBeenSent := by
      funext b
      rw [unused, unused, state_remove]
    refine ⟨state.trans state_remove, fun j => ?_⟩
    rw [List.foldl_cons, slots j, same, allocatedMemories_remove]
    rcases eq_or_ne j i with rfl | other
    · rw [if_neg absent, if_pos List.mem_cons_self, Function.update_self]
    · rw [Function.update_of_ne other]
      simp only [List.mem_cons, other, false_or]

theorem allocatedMemories_freeAllUnused (m : SharedMemory l) (hasBeenSent : Nat → Bool) (j : Fin l.slots) :
    (m.freeAllUnused hasBeenSent).allocatedMemories j =
      (m.allocatedMemories j).filter fun b => !m.unused hasBeenSent b := by
  rw [freeAllUnused_eq, (foldl_remove _ (List.nodup_finRange _) m).2 j, if_pos (List.mem_finRange j)]

/-! ### The invariant -/

/-- The slots hold the blocks in use, each once. -/
structure Accounts (m : SharedMemory l) (pools : (k : PoolKind) → BlockPool (l.pool k).count.toNat) : Prop where
  holds : m.mempool.Holds pools
  slots : (Slots.occupied m.allocatedMemories).Perm (PlacedMempool.addressesInUse pools)

variable {pools : (k : PoolKind) → BlockPool (l.pool k).count.toNat}

theorem Accounts.remove (accounts : m.Accounts pools) (i : Fin l.slots) (hasBeenSent : Nat → Bool) :
    ∃ pools, (m.remove i hasBeenSent).2.Accounts pools := by
  unfold SharedMemory.remove
  split
  · exact ⟨pools, accounts⟩
  · rename_i b used
    split
    · obtain ⟨k, n, taken, rfl⟩ :=
        PlacedMempool.mem_addressesInUse.mp (accounts.slots.mem_iff.mp (Slots.mem_occupied.mpr ⟨i, used⟩))
      have size : 0 < (l.pool k).blockSize.toNat := l.blockSize_pos k
      obtain ⟨holds, _, _⟩ := accounts.holds.free_used taken le_rfl (by omega)
      have left := (Slots.occupied_update_none used).symm.trans
        (accounts.slots.trans (PlacedMempool.addressesInUse_release taken))
      exact ⟨_, holds, left.cons_inv⟩
    · exact ⟨pools, accounts⟩

theorem Accounts.freeAllUnused (accounts : m.Accounts pools) (hasBeenSent : Nat → Bool) :
    ∃ pools, (m.freeAllUnused hasBeenSent).Accounts pools := by
  rw [freeAllUnused_eq]
  induction List.finRange l.slots generalizing m pools with
  | nil => exact ⟨pools, accounts⟩
  | cons i rest ih =>
    obtain ⟨_, next⟩ := accounts.remove i hasBeenSent
    exact ih next

theorem Accounts.length_add (accounts : m.Accounts pools) :
    (pools .big).free.length + (pools .small).free.length + (Slots.occupied m.allocatedMemories).length = l.slots := by
  have big : (pools .big).free.length + (pools .big).used.length = l.countBig.toNat := (pools .big).length_add
  have small : (pools .small).free.length + (pools .small).used.length = l.countSmall.toNat := (pools .small).length_add
  rw [accounts.slots.length_eq, l.slots_eq, PlacedMempool.addressesInUse, List.length_append, List.length_map, List.length_map]
  omega

/-- Where a block is allocated, a slot is empty and takes it. -/
theorem Accounts.insert (accounts : m.Accounts pools) {requestedSize : BitVec 32} {b : Nat}
    (created : (m.construct requestedSize).1 = some b) :
    ((m.construct requestedSize).2.insert b).1 = true ∧
    ∃ pools, ((m.construct requestedSize).2.insert b).2.Accounts pools := by
  rcases accounts.holds.alloc_cases (requestedSize + l.sizeofSendBuffer) with
    ⟨k, rest, n, top, served, _, holds, _⟩ | ⟨refused, _⟩
  · have block : (l.pool k).block n = b := by
      simp only [construct, served] at created
      exact Option.some.inj created
    have total := accounts.length_add
    have some_free : 0 < (pools k).free.length := by
      rw [top, List.length_append, List.length_singleton]
      exact Nat.succ_pos _
    have short : (Slots.occupied m.allocatedMemories).length < l.slots := by
      cases k with
      | big => omega
      | small => omega
    obtain ⟨i, found⟩ := Slots.exists_empty short
    have empty : m.allocatedMemories i = none := Slots.key_of_find found
    simp only [construct, served, SharedMemory.insert, found, true_and]
    refine ⟨_, holds, ?_⟩
    rw [← block]
    exact (Slots.occupied_update_some empty _).trans ((accounts.slots.cons _).trans (PlacedMempool.addressesInUse_take top).symm)
  · simp only [construct, refused] at created
    cases created

theorem Accounts.createInstance (accounts : m.Accounts pools) (requestedSize : BitVec 32) (hasBeenSent : Nat → Bool) :
    ∃ pools, (m.createInstance requestedSize hasBeenSent).2.Accounts pools := by
  obtain ⟨pools, freed⟩ := accounts.freeAllUnused hasBeenSent
  cases created : ((m.freeAllUnused hasBeenSent).construct requestedSize).1 with
  | none =>
    rcases freed.holds.alloc_cases (requestedSize + l.sizeofSendBuffer) with ⟨k, rest, n, top, served, _⟩ | ⟨refused, _⟩
    · simp only [construct, served] at created
      cases created
    · have same : (m.createInstance requestedSize hasBeenSent).2 = m.freeAllUnused hasBeenSent := by
        simp only [SharedMemory.createInstance, created]
        simp only [construct, refused]
      rw [same]
      exact ⟨pools, freed⟩
  | some b =>
    simp only [SharedMemory.createInstance, created]
    exact (freed.insert created).2

theorem Accounts.step (accounts : m.Accounts pools) (call : Call l) : ∃ pools, (m.step call).Accounts pools := by
  cases call with
  | createInstance requestedSize hasBeenSent => exact accounts.createInstance requestedSize hasBeenSent
  | setState buffer s => exact ⟨pools, accounts.holds, accounts.slots⟩
  | freeAllUnused hasBeenSent => exact accounts.freeAllUnused hasBeenSent
  | remove index hasBeenSent => exact accounts.remove index hasBeenSent

theorem accounts_run (accounts : m.Accounts pools) (calls : List (Call l)) : ∃ pools, (calls.foldl step m).Accounts pools := by
  induction calls generalizing m pools with
  | nil => exact ⟨pools, accounts⟩
  | cons call rest ih =>
    obtain ⟨_, next⟩ := accounts.step call
    exact ih next

/-! ### What holds in every state -/

theorem unused_eq_true : m.unused hasBeenSent buffer = true ↔ m.state buffer = SendBuffer.invalidState ∨
    m.state buffer = SendBuffer.transmittedState ∧ hasBeenSent (buffer + l.sizeofSendBuffer.toNat) = true := by
  rw [unused, Bool.or_eq_true, Bool.and_eq_true, decide_eq_true_iff, decide_eq_true_iff]

end SharedMemory

end IPStack
