import IPStack.Socket.SharedMemory

/-! Management memory whose buffers are all finished can be taken back. -/

namespace IPStack

namespace SharedMemory

variable {l : SharedMemoryLayout} {m : SharedMemory l} {pools : (k : PoolKind) → BlockPool (l.pool k).count.toNat}
  {hasBeenSent : Nat → Bool} {requestedSize : BitVec 32} {buffer : Nat}

/-- The states of a buffer that nobody writes any more. -/
def finished (s : BitVec 8) : Prop := s = SendBuffer.invalidState ∨ s = SendBuffer.transmittedState

/-- No buffer is being written. -/
def Settled (m : SharedMemory l) : Prop := ∀ j buffer, m.allocatedMemories j = some buffer → finished (m.state buffer)

/-- The call finishes a buffer or takes some back. -/
def Call.finishes : Call l → Prop
  | .createInstance _ _ => False
  | .setState _ s => finished s
  | .freeAllUnused _ => True
  | .remove _ _ => True

/-- Slots are emptied, and the states stay. -/
theorem Settled.of_slots {m' : SharedMemory l} (settled : m.Settled) (state : m'.state = m.state)
    (slots : ∀ j buffer, m'.allocatedMemories j = some buffer → m.allocatedMemories j = some buffer) : m'.Settled := by
  intro j buffer slot
  rw [state]
  exact settled j buffer (slots j buffer slot)

theorem Settled.remove (settled : m.Settled) (i : Fin l.slots) : (m.remove i hasBeenSent).2.Settled := by
  refine settled.of_slots state_remove fun j buffer slot => ?_
  rw [allocatedMemories_remove] at slot
  rcases eq_or_ne j i with rfl | other
  · rw [Function.update_self] at slot
    exact (Option.filter_eq_some_iff.mp slot).1
  · rwa [Function.update_of_ne other] at slot

theorem state_freeAllUnused (m : SharedMemory l) : (m.freeAllUnused hasBeenSent).state = m.state := by
  rw [freeAllUnused_eq]
  exact (foldl_remove _ (List.nodup_finRange _) m).1

theorem Settled.freeAllUnused (settled : m.Settled) (hasBeenSent : Nat → Bool) : (m.freeAllUnused hasBeenSent).Settled := by
  refine settled.of_slots (state_freeAllUnused m) fun j buffer slot => ?_
  rw [allocatedMemories_freeAllUnused] at slot
  exact (Option.filter_eq_some_iff.mp slot).1

theorem Settled.setState (settled : m.Settled) {s : BitVec 8} (done : finished s) (buffer : Nat) :
    (m.step (.setState buffer s)).Settled := by
  intro j other slot
  change finished (Function.update m.state buffer s other)
  rcases eq_or_ne other buffer with rfl | distinct
  · rw [Function.update_self]
    exact done
  · rw [Function.update_of_ne distinct]
    exact settled j other slot

theorem Settled.step (settled : m.Settled) {call : Call l} (finishes : call.finishes) : (m.step call).Settled := by
  cases call with
  | createInstance requestedSize hasBeenSent => exact finishes.elim
  | setState buffer s => exact settled.setState finishes buffer
  | freeAllUnused hasBeenSent => exact settled.freeAllUnused hasBeenSent
  | remove index hasBeenSent => exact settled.remove index

theorem mem_insert {data : Nat} {j : Fin l.slots} (slot : (m.insert data).2.allocatedMemories j = some buffer) :
    buffer = data ∨ m.allocatedMemories j = some buffer := by
  unfold insert at slot
  split at slot
  · rename_i i found
    dsimp only at slot
    rcases eq_or_ne j i with rfl | other
    · rw [Function.update_self] at slot
      cases slot
      exact .inl rfl
    · rw [Function.update_of_ne other] at slot
      exact .inr slot
  · exact .inr slot

theorem state_insert (m : SharedMemory l) (data : Nat) : (m.insert data).2.state = m.state := by
  unfold insert
  split <;> rfl

/-- A request that fails leaves nothing behind. -/
theorem Settled.createInstance_none (settled : m.Settled) (refused : (m.createInstance requestedSize hasBeenSent).1 = none) :
    (m.createInstance requestedSize hasBeenSent).2.Settled := by
  have before := settled.freeAllUnused hasBeenSent
  unfold createInstance construct at refused ⊢
  dsimp only at refused ⊢
  generalize (m.freeAllUnused hasBeenSent).mempool.alloc (requestedSize + l.sizeofSendBuffer) = allocated at refused ⊢
  cases ptr : allocated.1 with
  | none => exact before.of_slots rfl fun _ _ slot => slot
  | some r =>
    rw [ptr] at refused
    cases refused

/-- A buffer that is finished at once. -/
theorem Settled.createInstance_some (settled : m.Settled) (created : (m.createInstance requestedSize hasBeenSent).1 = some buffer)
    {s : BitVec 8} (done : finished s) :
    ((m.createInstance requestedSize hasBeenSent).2.step (.setState buffer s)).Settled := by
  have before := settled.freeAllUnused hasBeenSent
  intro j other slot
  change finished (Function.update (m.createInstance requestedSize hasBeenSent).2.state buffer s other)
  change (m.createInstance requestedSize hasBeenSent).2.allocatedMemories j = some other at slot
  rcases eq_or_ne other buffer with rfl | distinct
  · rw [Function.update_self]
    exact done
  · rw [Function.update_of_ne distinct]
    unfold createInstance construct at created slot ⊢
    dsimp only at created slot ⊢
    generalize (m.freeAllUnused hasBeenSent).mempool.alloc (requestedSize + l.sizeofSendBuffer) = allocated at created slot ⊢
    cases ptr : allocated.1 with
    | none =>
      rw [ptr] at created
      cases created
    | some r =>
      rw [ptr] at created slot
      obtain rfl : r = buffer := Option.some.inj created
      dsimp only at slot ⊢
      rw [state_insert]
      change finished (Function.update (m.freeAllUnused hasBeenSent).state r SendBuffer.writingState other)
      rw [Function.update_of_ne distinct]
      exact before j other ((mem_insert slot).resolve_left distinct)

/-- Finished buffers are all taken back as soon as the driver has sent them. -/
theorem Settled.emptied (settled : m.Settled) (sent : ∀ data, hasBeenSent data = true) (j : Fin l.slots) :
    (m.freeAllUnused hasBeenSent).allocatedMemories j = none := by
  rw [allocatedMemories_freeAllUnused, Option.filter_eq_none_iff]
  intro buffer slot
  have unused : m.unused hasBeenSent buffer = true :=
    unused_eq_true.mpr ((settled j buffer slot).imp_right fun transmitted => ⟨transmitted, sent _⟩)
  rw [unused]
  exact Bool.false_ne_true

/-- Then there is a buffer for every request that is not larger than a block. -/
theorem Settled.granted (settled : m.Settled) (accounts : m.Accounts pools) (sent : ∀ data, hasBeenSent data = true)
    (fits : requestedSize + l.sizeofSendBuffer ≤ l.sizeBig) : (m.createInstance requestedSize hasBeenSent).1.isSome := by
  obtain ⟨pools, accounts⟩ := accounts.freeAllUnused hasBeenSent
  have empty : Slots.occupied (m.freeAllUnused hasBeenSent).allocatedMemories = [] :=
    List.filterMap_eq_nil_iff.mpr fun j _ => settled.emptied sent j
  have all := accounts.length_add
  rw [empty, List.length_nil, l.slots_eq] at all
  have big := (pools .big).length_add
  have small := (pools .small).length_add
  have count : (l.pool .big).count.toNat = l.countBig.toNat := rfl
  have count' : (l.pool .small).count.toNat = l.countSmall.toNat := rfl
  have positive : l.countBig.toNat ≠ 0 := fun zero => l.big_buf_cnt_assert (BitVec.eq_of_toNat_eq zero)
  have free : (pools .big).free ≠ [] := by
    intro none
    rw [none, List.length_nil] at all
    omega
  have space : (m.freeAllUnused hasBeenSent).mempool.mempoolBig.hasSpace = true :=
    (accounts.holds .big).hasSpace_iff.mpr free
  have largest : (m.freeAllUnused hasBeenSent).mempool.getMaxFreeBlockSize = l.sizeBig := by
    rw [PlacedMempool.getMaxFreeBlockSize, if_pos space]
  have allocated := (accounts.holds.alloc_isSome_iff (requestedSize + l.sizeofSendBuffer)).mpr
    ⟨⟨.big, free⟩, fits.trans_eq largest.symm⟩
  obtain ⟨ptr, allocated⟩ := Option.isSome_iff_exists.mp allocated
  unfold createInstance construct
  dsimp only
  rw [allocated]
  rfl

end SharedMemory

end IPStack
