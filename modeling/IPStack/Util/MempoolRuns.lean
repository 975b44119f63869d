import IPStack.Util.Mempool

/-! The live blocks of a memory pool over any sequence of allocations and frees. -/

namespace IPStack

/-- A block that is in use, and the size that was asked for. -/
structure LiveBlock where
  start : Nat
  requested : BitVec 32
deriving DecidableEq

/-- A memory pool with the blocks that its callers hold, those of each pool apart. -/
structure MempoolRun (l : MempoolLayout) where
  mempool : PlacedMempool l
  live : PoolKind → List LiveBlock

inductive MempoolCall
  | alloc (size : BitVec 32)
  | free (mem : Nat)

namespace MempoolRun

variable {l : MempoolLayout}

/-- The address lies inside the block. -/
def Inside (l : MempoolLayout) (k : PoolKind) (mem : Nat) (b : LiveBlock) : Prop :=
  b.start ≤ mem ∧ mem < b.start + (l.pool k).blockSize.toNat

instance (k : PoolKind) (mem : Nat) (b : LiveBlock) : Decidable (Inside l k mem b) :=
  inferInstanceAs (Decidable (_ ∧ _))

def start (l : MempoolLayout) : MempoolRun l := ⟨.new l, fun _ => []⟩

def step (s : MempoolRun l) : MempoolCall → MempoolRun l
  | .alloc size =>
    match (s.mempool.alloc size).1 with
    | some ptr =>
      let k := l.kindOf ptr
      ⟨(s.mempool.alloc size).2, Function.update s.live k (⟨ptr, size⟩ :: s.live k)⟩
    | none => { s with mempool := (s.mempool.alloc size).2 }
  | .free mem =>
    let k := l.kindOf mem
    ⟨s.mempool.free mem, Function.update s.live k ((s.live k).eraseP fun b => decide (Inside l k mem b))⟩

/-- What is freed is an address inside a live block. -/
def Allowed (s : MempoolRun l) : MempoolCall → Prop
  | .alloc _ => True
  | .free mem => (∃ b ∈ s.live .big, Inside l .big mem b) ∨ ∃ b ∈ s.live .small, Inside l .small mem b

instance (s : MempoolRun l) : (call : MempoolCall) → Decidable (s.Allowed call)
  | .alloc _ => inferInstanceAs (Decidable True)
  | .free _ => inferInstanceAs (Decidable (_ ∨ _))

/-! ### The invariant -/

/-- The live blocks are those in use, and none is smaller than it was asked for. -/
structure Accounts (s : MempoolRun l) (pools : (k : PoolKind) → BlockPool (l.pool k).count.toNat) : Prop where
  holds : s.mempool.Holds pools
  live : ∀ k, ((s.live k).map LiveBlock.start).Perm ((pools k).used.map (l.pool k).block)
  large : ∀ k, ∀ b ∈ s.live k, b.requested ≤ (l.pool k).blockSize

variable {s : MempoolRun l} {pools : (k : PoolKind) → BlockPool (l.pool k).count.toNat}

theorem start_accounts (l : MempoolLayout) : (start l).Accounts fun _ => .fresh _ := by
  refine ⟨PlacedMempool.new_holds l, fun k => ?_, fun k b member => absurd member List.not_mem_nil⟩
  simp only [start, BlockPool.fresh, List.map_nil, List.Perm.refl]

/-- The number of a live block. -/
theorem Accounts.number (accounts : s.Accounts pools) {k : PoolKind} {b : LiveBlock} (member : b ∈ s.live k) :
    ∃ i ∈ (pools k).used, (l.pool k).block i = b.start :=
  List.mem_map.mp ((accounts.live k).mem_iff.mp (List.mem_map_of_mem member))

theorem Accounts.kindOf_inside (accounts : s.Accounts pools) {k : PoolKind} {b : LiveBlock} (member : b ∈ s.live k) {mem : Nat}
    (inside : Inside l k mem b) : l.kindOf mem = k := by
  obtain ⟨i, used, start⟩ := accounts.number member
  exact MempoolLayout.kindOf_block ((pools k).mem_iff.mp (.inr used)) (start ▸ inside.1) (start ▸ inside.2.le)

theorem Accounts.exists_inside (accounts : s.Accounts pools) {mem : Nat} (allowed : s.Allowed (.free mem)) :
    ∃ b ∈ s.live (l.kindOf mem), Inside l (l.kindOf mem) mem b := by
  rcases allowed with ⟨b, member, inside⟩ | ⟨b, member, inside⟩
  · rw [accounts.kindOf_inside member inside]
    exact ⟨b, member, inside⟩
  · rw [accounts.kindOf_inside member inside]
    exact ⟨b, member, inside⟩

/-- The blocks of one pool change. -/
theorem Accounts.update (accounts : s.Accounts pools) {k : PoolKind} {m : PlacedMempool l} {p : BlockPool (l.pool k).count.toNat}
    {live : List LiveBlock} (holds : m.Holds (Function.update pools k p))
    (same : (live.map LiveBlock.start).Perm (p.used.map (l.pool k).block))
    (large : ∀ b ∈ live, b.requested ≤ (l.pool k).blockSize) :
    Accounts ⟨m, Function.update s.live k live⟩ (Function.update pools k p) := by
  refine ⟨holds, fun other => ?_, fun other => ?_⟩ <;> dsimp only
  · rcases eq_or_ne other k with rfl | apart
    · rw [Function.update_self, Function.update_self]
      exact same
    · rw [Function.update_of_ne apart, Function.update_of_ne apart]
      exact accounts.live other
  · rcases eq_or_ne other k with rfl | apart
    · rw [Function.update_self]
      exact large
    · rw [Function.update_of_ne apart]
      exact accounts.large other

theorem Accounts.alloc (accounts : s.Accounts pools) (size : BitVec 32) :
    ∃ pools, (s.step (.alloc size)).Accounts pools := by
  rcases accounts.holds.alloc_cases size with ⟨k, rest, i, top, served, fits, holds, _⟩ | ⟨refused, _⟩
  · have below : i < (l.pool k).count.toNat := (pools k).mem_iff.mp (.inl (by rw [top]; exact List.mem_concat_self))
    have kind : l.kindOf ((l.pool k).block i) = k := MempoolLayout.kindOf_block below le_rfl (Nat.le_add_right _ _)
    simp only [step, served, kind]
    refine ⟨_, accounts.update holds ((accounts.live k).cons _) fun b member => ?_⟩
    rcases List.mem_cons.mp member with rfl | old
    · exact fits
    · exact accounts.large k b old
  · have same : s.step (.alloc size) = s := by rw [step, refused]
    rw [same]
    exact ⟨pools, accounts⟩

/-- The block around an address, and what is left of the list without it. -/
theorem Accounts.free_cases (accounts : s.Accounts pools) {mem : Nat} (allowed : s.Allowed (.free mem)) :
    ∃ k b before after, l.kindOf mem = k ∧ s.live k = before ++ b :: after ∧ Inside l k mem b ∧
      s.step (.free mem) = ⟨s.mempool.free mem, Function.update s.live k (before ++ after)⟩ := by
  obtain ⟨c, there, around⟩ := accounts.exists_inside allowed
  obtain ⟨b, before, after, _, found, split, erased⟩ :=
    List.exists_of_eraseP (p := fun b => decide (Inside l (l.kindOf mem) mem b)) there (decide_eq_true around)
  refine ⟨_, b, before, after, rfl, split, of_decide_eq_true found, ?_⟩
  rw [step, erased]

theorem Accounts.free (accounts : s.Accounts pools) {mem : Nat} (allowed : s.Allowed (.free mem)) :
    ∃ pools, (s.step (.free mem)).Accounts pools := by
  obtain ⟨k, b, before, after, kind, split, inside, result⟩ := accounts.free_cases allowed
  have member : b ∈ s.live k := by simp [split]
  obtain ⟨i, taken, block⟩ := accounts.number member
  obtain ⟨holds, _, _⟩ := accounts.holds.free_used taken (block ▸ inside.1) (block ▸ inside.2)
  have live := accounts.live k
  rw [split, List.map_append, List.map_cons, ← block] at live
  have used := (List.perm_cons_erase taken).map (l.pool k).block
  rw [List.map_cons] at used
  have rest := (List.perm_middle.symm.trans (live.trans used)).cons_inv
  rw [← List.map_append] at rest
  rw [result]
  refine ⟨_, accounts.update holds rest fun c left => accounts.large k c ?_⟩
  rw [split]
  exact List.mem_append.mpr ((List.mem_append.mp left).imp_right (List.mem_cons_of_mem b))

theorem accounts_run {calls : List MempoolCall} (follows : Transition.Follows step Allowed s calls)
    (accounts : s.Accounts pools) : ∃ pools, (calls.foldl step s).Accounts pools := by
  induction calls generalizing s pools with
  | nil => exact ⟨pools, accounts⟩
  | cons call rest ih =>
    obtain ⟨next, kept⟩ : ∃ pools, (s.step call).Accounts pools := by
      cases call with
      | alloc size => exact accounts.alloc size
      | free mem => exact accounts.free follows.1
    exact ih follows.2 kept

/-! ### What holds in every state -/

/-- All live blocks, each with its size. -/
def blocks (s : MempoolRun l) : List (Nat × Nat) :=
  (s.live .big).map (fun b => (b.start, (l.pool .big).blockSize.toNat)) ++
    (s.live .small).map fun b => (b.start, (l.pool .small).blockSize.toNat)

def Apart (a b : Nat × Nat) : Prop := a.1 + a.2 ≤ b.1 ∨ b.1 + b.2 ≤ a.1

theorem apart_blocks {p : PoolLayout} {i j : Nat} (apart : i ≠ j) :
    Apart (p.block i, p.blockSize.toNat) (p.block j, p.blockSize.toNat) := by
  unfold Apart PoolLayout.block
  dsimp only
  rcases Nat.lt_or_gt_of_ne apart with before | behind
  · have := Nat.mul_le_mul_right p.blockSize.toNat before
    rw [Nat.succ_mul] at this
    omega
  · have := Nat.mul_le_mul_right p.blockSize.toNat behind
    rw [Nat.succ_mul] at this
    omega

theorem Accounts.pairwise_pool (accounts : s.Accounts pools) (k : PoolKind) :
    ((s.live k).map fun b => (b.start, (l.pool k).blockSize.toNat)).Pairwise Apart := by
  have used : ((pools k).used.map fun i => ((l.pool k).block i, (l.pool k).blockSize.toNat)).Pairwise Apart :=
    List.pairwise_map.mpr ((pools k).nodup_used.imp apart_blocks)
  have same := (accounts.live k).map fun start => (start, (l.pool k).blockSize.toNat)
  rw [List.map_map, List.map_map] at same
  exact (same.pairwise_iff Or.symm).mpr used

theorem Accounts.pairwise (accounts : s.Accounts pools) : s.blocks.Pairwise Apart := by
  refine List.pairwise_append.mpr ⟨accounts.pairwise_pool .big, accounts.pairwise_pool .small, ?_⟩
  intro a big b small
  obtain ⟨c, c_live, rfl⟩ := List.mem_map.mp big
  obtain ⟨d, d_live, rfl⟩ := List.mem_map.mp small
  obtain ⟨i, i_used, i_start⟩ := accounts.number c_live
  obtain ⟨j, _, j_start⟩ := accounts.number d_live
  have before := MempoolLayout.block_big_lt_small (j := j) ((pools .big).mem_iff.mp (.inr i_used))
  left
  dsimp only
  omega

/-- In every state of a run in which only addresses inside live blocks are freed: the live blocks
are disjoint and as large as requested; of the blocks of each pool, numbered from its start, those
on the stack and those that are live make up all of them, each once, and the head lies within the
stack; what is freed goes back on the stack it came from; and a request is served exactly if some
block is free and `getMaxFreeBlockSize` covers it. -/
theorem mempool_correct (l : MempoolLayout) (calls : List MempoolCall)
    (follows : Transition.Follows step Allowed (start l) calls) :
    let s := calls.foldl step (start l)
    s.blocks.Pairwise Apart ∧
    (∀ k, ∀ b ∈ s.live k, b.requested ≤ (l.pool k).blockSize) ∧
    (∀ k, ∃ free used : List Nat, (free ++ used).Perm (List.range (l.pool k).count.toNat) ∧
      (s.mempool.single k).stack = free.map (l.pool k).block ∧
      (0 < (l.pool k).blockSize → (s.mempool.single k).stack.Nodup) ∧
      ((s.live k).map LiveBlock.start).Perm (used.map (l.pool k).block)) ∧
    (∀ k, (s.mempool.single k).freelist.length = (l.pool k).count.toNat ∧
      -1 ≤ (s.mempool.single k).head ∧ (s.mempool.single k).head < (l.pool k).count.toNat) ∧
    (∀ k mem, ∀ b ∈ s.live k, Inside l k mem b →
      ((s.mempool.free mem).single k).stack = (s.mempool.single k).stack ++ [b.start] ∧
      ∀ other, other ≠ k → (s.mempool.free mem).single other = s.mempool.single other) ∧
    ∀ size, (s.mempool.alloc size).1.isSome = true ↔
      (∃ k, (s.mempool.single k).stack ≠ []) ∧ size ≤ s.mempool.getMaxFreeBlockSize := by
  obtain ⟨pools, accounts⟩ := accounts_run follows (start_accounts l)
  refine ⟨accounts.pairwise, accounts.large, fun k => ?_, fun k => ?_, fun k mem b member inside => ?_, fun size => ?_⟩
  · have stack := (accounts.holds k).stack
    refine ⟨(pools k).free, (pools k).used, (pools k).partition, stack, fun positive => ?_, accounts.live k⟩
    rw [stack]
    exact PoolLayout.nodup_blocks positive (List.nodup_append.mp (pools k).nodup).1
  · exact ⟨(accounts.holds k).length, (accounts.holds k).head_bounds⟩
  · obtain ⟨i, taken, block⟩ := accounts.number member
    rw [← block]
    exact (accounts.holds.free_used taken (block ▸ inside.1) (block ▸ inside.2)).2
  · have nonempty : (∃ k, ((calls.foldl step (start l)).mempool.single k).stack ≠ []) ↔ ∃ k, (pools k).free ≠ [] :=
      exists_congr fun k => by rw [(accounts.holds k).stack, Ne, List.map_eq_nil_iff]
    rw [nonempty]
    exact accounts.holds.alloc_isSome_iff size

/-- One big block of 16 bytes and two small ones of eight. -/
def threeBlocks : MempoolLayout := ⟨⟨16, 1, 8, 2⟩, 4096, by decide⟩

/-- The second small block, which is allocated first, lies at 4128. -/
theorem mempool_correct_threeBlocks :
    let calls := [.alloc 8, .alloc 12, .free 4135, .alloc 4]
    Transition.Follows step Allowed (start threeBlocks) calls ∧ (calls.foldl step (start threeBlocks)).blocks.Pairwise Apart :=
  have allowed : Transition.Follows step Allowed (start threeBlocks) [.alloc 8, .alloc 12, .free 4135, .alloc 4] := by decide
  ⟨allowed, (mempool_correct threeBlocks _ allowed).1⟩

end MempoolRun

end IPStack
