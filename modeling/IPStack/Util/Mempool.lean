import IPStack.Lib.BlockPool
import IPStack.Lib.Reach
import IPStack.Socket.SendBuffers
import Mathlib.Data.List.Pairwise

/-! The memory pools as they lie in the memory of a 32-bit machine. -/

namespace IPStack

/-- The template arguments of a `SingleMempool`, and the address of its array `pool`. -/
structure PoolLayout where
  blockSize : BitVec 32
  count : BitVec 32
  pool : Nat
  /-- The array is an object in the address space. -/
  pool_lt : pool + count.toNat * blockSize.toNat < 2 ^ 32

namespace PoolLayout

/-- Where the `i`-th block starts. -/
def block (l : PoolLayout) (i : Nat) : Nat := l.pool + i * l.blockSize.toNat

theorem nodup_blocks {l : PoolLayout} (positive : 0 < l.blockSize) {numbers : List Nat} (nodup : numbers.Nodup) :
    (numbers.map l.block).Nodup := by
  refine nodup.map fun i j same => ?_
  have step : 0 < l.blockSize.toNat := positive
  exact Nat.eq_of_mul_eq_mul_right step (Nat.add_left_cancel same)

/-- `sizeof(SingleMempool<BLOCKSIZE, COUNT>)`: the array, the stack of pointers aligned to four
bytes, and its head. -/
def sizeof (blockSize count : BitVec 32) : Nat := (count.toNat * blockSize.toNat + 3) / 4 * 4 + 4 * count.toNat + 4

end PoolLayout

/-- `SingleMempool`. The pointer `head` is its distance from `freelist`. -/
structure SingleMempool (l : PoolLayout) where
  freelist : List Nat
  head : Int

namespace SingleMempool

variable {l : PoolLayout}

/-- The constructor. -/
def new (l : PoolLayout) : SingleMempool l where
  freelist := (List.range l.count.toNat).map fun i => l.pool + (BitVec.ofNat 32 i * l.blockSize).toNat
  head := (l.count.toNat : Int) - 1

def alloc (m : SingleMempool l) : Option Nat × SingleMempool l :=
  if m.head < 0 then (none, m) else (m.freelist[m.head.toNat]?, { m with head := m.head - 1 })

def free (m : SingleMempool l) (mem : Nat) : Bool × SingleMempool l :=
  if mem < l.pool ∨ l.pool + (l.count * l.blockSize).toNat < mem then (false, m)
  else
    -- the distance to the start of the block
    let rest := (BitVec.ofNat 32 (mem - l.pool) % l.blockSize).toNat
    (true, { freelist := m.freelist.set (m.head + 1).toNat (mem - rest), head := m.head + 1 })

def hasSpace (m : SingleMempool l) : Bool := decide (0 ≤ m.head)

/-- The pointers on the stack, the head last. -/
def stack (m : SingleMempool l) : List Nat := m.freelist.take (m.head + 1).toNat

/-! ### The blocks on the stack -/

/-- The stack holds the free blocks. -/
structure Holds (m : SingleMempool l) (p : BlockPool l.count.toNat) : Prop where
  length : m.freelist.length = l.count.toNat
  head : m.head = (p.free.length : Int) - 1
  stack : m.stack = p.free.map l.block

variable {m : SingleMempool l} {p : BlockPool l.count.toNat}

theorem Holds.head_bounds (holds : m.Holds p) : -1 ≤ m.head ∧ m.head < l.count.toNat := by
  have total := p.length_add
  have head := holds.head
  omega

theorem Holds.take_eq (holds : m.Holds p) : m.freelist.take p.free.length = p.free.map l.block := by
  have stack := holds.stack
  rw [SingleMempool.stack, holds.head, Int.sub_add_cancel, Int.toNat_natCast] at stack
  exact stack

theorem new_holds (l : PoolLayout) : (new l).Holds (.fresh _) := by
  have fits := l.pool_lt
  have entries : (new l).freelist = (List.range l.count.toNat).map l.block := by
    refine List.map_congr_left fun i member => ?_
    have below := List.mem_range.mp member
    have inside : i * l.blockSize.toNat ≤ l.count.toNat * l.blockSize.toNat := Nat.mul_le_mul_right _ below.le
    have small := l.count.isLt
    rw [PoolLayout.block, BitVec.toNat_mul, BitVec.toNat_ofNat, Nat.mod_eq_of_lt (by omega : i < 2 ^ 32),
      Nat.mod_eq_of_lt (by omega)]
  refine ⟨?_, ?_, ?_⟩
  · rw [entries, List.length_map, List.length_range]
  · simp only [new, BlockPool.fresh, List.length_range]
  · rw [stack, entries, new, BlockPool.fresh, Int.sub_add_cancel, Int.toNat_natCast]
    exact List.take_of_length_le (by rw [List.length_map, List.length_range])

theorem Holds.hasSpace_iff (holds : m.Holds p) : m.hasSpace = true ↔ p.free ≠ [] := by
  have head := holds.head
  rw [hasSpace, decide_eq_true_iff, ← List.length_pos_iff]
  omega

theorem Holds.hasSpace_iff_stack (holds : m.Holds p) : m.hasSpace = true ↔ 0 < m.stack.length := by
  rw [holds.hasSpace_iff, holds.stack, List.length_map, List.length_pos_iff]

theorem Holds.alloc_none (holds : m.Holds p) (empty : p.free = []) : m.alloc = (none, m) := by
  have head := holds.head
  rw [empty, List.length_nil] at head
  rw [alloc, if_pos (by omega)]

/-- What is allocated is the free block on top of the stack. -/
theorem Holds.alloc_some (holds : m.Holds p) {rest : List Nat} {i : Nat} (top : p.free = rest ++ [i]) :
    m.alloc.1 = some (l.block i) ∧ m.alloc.2.Holds (BlockPool.take top) := by
  have head := holds.head
  have entries := holds.take_eq
  rw [top, List.length_append, List.length_singleton] at head
  rw [top, List.length_append, List.length_singleton, List.map_append, List.map_singleton] at entries
  have index : m.head.toNat = rest.length := by omega
  rw [alloc, if_neg (by omega), index]
  refine ⟨?_, holds.length, ?_, ?_⟩
  · have at_top := congrArg (fun entries => entries[rest.length]?) entries
    simpa [List.getElem?_take] using at_top
  · simp only [BlockPool.take]
    omega
  · have below := congrArg (fun entries => entries.take rest.length) entries
    rw [SingleMempool.stack]
    dsimp only
    rw [Int.sub_add_cancel, index]
    simpa [List.take_take, BlockPool.take] using below

theorem Holds.alloc_cases (holds : m.Holds p) :
    (p.free = [] ∧ m.alloc = (none, m)) ∨ ∃ rest i, ∃ top : p.free = rest ++ [i],
      m.alloc.1 = some (l.block i) ∧ m.alloc.2.Holds (BlockPool.take top) := by
  rcases p.free.eq_nil_or_concat with empty | ⟨rest, i, top⟩
  · exact .inl ⟨empty, holds.alloc_none empty⟩
  · rw [List.concat_eq_append] at top
    exact .inr ⟨rest, i, top, holds.alloc_some top⟩

/-- The start of a block is found from every address inside. -/
theorem block_of_inside {i mem : Nat} (below : i < l.count.toNat) (lower : l.block i ≤ mem)
    (upper : mem < l.block i + l.blockSize.toNat) :
    l.pool ≤ mem ∧ mem < l.pool + (l.count * l.blockSize).toNat ∧
      mem - (BitVec.ofNat 32 (mem - l.pool) % l.blockSize).toNat = l.block i := by
  have fits := l.pool_lt
  have inside : (i + 1) * l.blockSize.toNat ≤ l.count.toNat * l.blockSize.toNat := Nat.mul_le_mul_right _ below
  rw [Nat.succ_mul] at inside
  unfold PoolLayout.block at lower upper ⊢
  have size : (l.count * l.blockSize).toNat = l.count.toNat * l.blockSize.toNat := by
    rw [BitVec.toNat_mul, Nat.mod_eq_of_lt (by omega)]
  refine ⟨by omega, by omega, ?_⟩
  have distance : mem - l.pool = mem - (l.pool + i * l.blockSize.toNat) + l.blockSize.toNat * i := by
    rw [Nat.mul_comm l.blockSize.toNat i]
    omega
  have small : mem - l.pool < 2 ^ 32 := by omega
  have rest : (BitVec.ofNat 32 (mem - l.pool) % l.blockSize).toNat = mem - (l.pool + i * l.blockSize.toNat) := by
    rw [BitVec.toNat_umod, BitVec.toNat_ofNat, Nat.mod_eq_of_lt small, distance, Nat.add_mul_mod_self_left,
      Nat.mod_eq_of_lt (by omega)]
  omega

theorem Holds.free_used (holds : m.Holds p) {i mem : Nat} (taken : i ∈ p.used) (lower : l.block i ≤ mem)
    (upper : mem < l.block i + l.blockSize.toNat) :
    (m.free mem).1 = true ∧ (m.free mem).2.Holds (BlockPool.release taken) ∧
      (m.free mem).2.stack = m.stack ++ [l.block i] := by
  have below := p.mem_iff.mp (.inr taken)
  obtain ⟨start, stop, found⟩ := block_of_inside below lower upper
  have room := BlockPool.length_free_lt taken
  have head := holds.head
  have index : (m.head + 1).toNat = p.free.length := by omega
  have pushed : (m.freelist.set p.free.length (l.block i)).take (p.free.length + 1) = m.stack ++ [l.block i] := by
    rw [holds.stack, ← holds.take_eq]
    have inside : p.free.length < (m.freelist.set p.free.length (l.block i)).length := by
      rw [List.length_set, holds.length]
      exact room
    rw [List.take_succ_eq_append_getElem inside, List.getElem_set_self, List.take_set_of_le le_rfl]
  unfold free
  dsimp only
  rw [if_neg (by omega), found, index]
  have stack : SingleMempool.stack (l := l) ⟨m.freelist.set p.free.length (l.block i), m.head + 1⟩ =
      m.stack ++ [l.block i] := by
    rw [SingleMempool.stack, ← pushed]
    dsimp only
    congr 1
    omega
  refine ⟨by simp only, ⟨?_, ?_, ?_⟩, stack⟩
  · rw [List.length_set, holds.length]
  · simp only [BlockPool.release, List.length_append, List.length_singleton]
    omega
  · rw [stack, holds.stack, BlockPool.release, List.map_append, List.map_singleton]

/-- An address below the array is not taken back. -/
theorem free_below {mem : Nat} (below : mem < l.pool) : m.free mem = (false, m) := by
  rw [free, if_pos (.inl below)]

end SingleMempool

/-- The template arguments of `BasicMempool`. -/
structure MempoolSizes where
  tBLOCKSIZE_1 : BitVec 32
  tCOUNT_1 : BitVec 32
  tBLOCKSIZE_2 : BitVec 32
  tCOUNT_2 : BitVec 32

namespace MempoolSizes

def sizeBig (s : MempoolSizes) : BitVec 32 := if s.tBLOCKSIZE_2 ≤ s.tBLOCKSIZE_1 then s.tBLOCKSIZE_1 else s.tBLOCKSIZE_2

def sizeSmall (s : MempoolSizes) : BitVec 32 := if s.tBLOCKSIZE_1 < s.tBLOCKSIZE_2 then s.tBLOCKSIZE_1 else s.tBLOCKSIZE_2

def countBig (s : MempoolSizes) : BitVec 32 := if s.tBLOCKSIZE_2 ≤ s.tBLOCKSIZE_1 then s.tCOUNT_1 else s.tCOUNT_2

def countSmall (s : MempoolSizes) : BitVec 32 := if s.tBLOCKSIZE_1 < s.tBLOCKSIZE_2 then s.tCOUNT_1 else s.tCOUNT_2

theorem small_le_big (s : MempoolSizes) : s.sizeSmall ≤ s.sizeBig := by
  unfold sizeSmall sizeBig
  split <;> split <;> bv_omega

end MempoolSizes

/-- A `BasicMempool` in the address space: its two pools follow the base class. -/
structure MempoolLayout extends MempoolSizes where
  address : Nat
  fits : address + PoolLayout.sizeof toMempoolSizes.sizeBig toMempoolSizes.countBig +
    PoolLayout.sizeof toMempoolSizes.sizeSmall toMempoolSizes.countSmall < 2 ^ 32

inductive PoolKind
  | big
  | small
deriving DecidableEq

namespace MempoolLayout

/-- `mempool_big` and, behind it, `mempool_small`. -/
def pool (l : MempoolLayout) : PoolKind → PoolLayout
  | .big => ⟨l.sizeBig, l.countBig, l.address, by have := l.fits; unfold PoolLayout.sizeof at this; omega⟩
  | .small => ⟨l.sizeSmall, l.countSmall, l.address + PoolLayout.sizeof l.sizeBig l.countBig, by
      have := l.fits; unfold PoolLayout.sizeof at this ⊢; omega⟩

/-- The pool that an address belongs to. -/
def kindOf (l : MempoolLayout) (mem : Nat) : PoolKind := if (l.pool .small).pool ≤ mem then .small else .big

variable {l : MempoolLayout}

/-- The blocks of the big pool end in front of those of the small one. -/
theorem block_big_lt {i : Nat} (below : i < (l.pool .big).count.toNat) :
    (l.pool .big).block i + (l.pool .big).blockSize.toNat < (l.pool .small).pool := by
  have inside : (i + 1) * l.sizeBig.toNat ≤ l.countBig.toNat * l.sizeBig.toNat := Nat.mul_le_mul_right _ below
  rw [Nat.succ_mul] at inside
  simp only [pool, PoolLayout.block, PoolLayout.sizeof]
  omega

/-- The blocks of the big pool end before those of the small one begin. -/
theorem block_big_lt_small {i j : Nat} (below : i < (l.pool .big).count.toNat) :
    (l.pool .big).block i + (l.pool .big).blockSize.toNat < (l.pool .small).block j :=
  (block_big_lt below).trans_le (Nat.le_add_right _ _)

theorem kindOf_block {k : PoolKind} {i mem : Nat} (below : i < (l.pool k).count.toNat) (lower : (l.pool k).block i ≤ mem)
    (upper : mem ≤ (l.pool k).block i + (l.pool k).blockSize.toNat) : l.kindOf mem = k := by
  cases k with
  | big =>
    have before := block_big_lt below
    rw [kindOf, if_neg (by omega)]
  | small =>
    have start : (l.pool .small).pool ≤ (l.pool .small).block i := Nat.le_add_right _ _
    rw [kindOf, if_pos (by omega)]

end MempoolLayout

/-- `BasicMempool` at its place. -/
structure PlacedMempool (l : MempoolLayout) where
  mempoolBig : SingleMempool (l.pool .big)
  mempoolSmall : SingleMempool (l.pool .small)

namespace PlacedMempool

variable {l : MempoolLayout}

def new (l : MempoolLayout) : PlacedMempool l := ⟨.new _, .new _⟩

def getMaxFreeBlockSize (m : PlacedMempool l) : BitVec 32 :=
  if m.mempoolBig.hasSpace then l.sizeBig
  else if m.mempoolSmall.hasSpace then l.sizeSmall
  else 0

def alloc (m : PlacedMempool l) (size : BitVec 32) : Option Nat × PlacedMempool l :=
  -- the smaller pool is tried first
  let tried := if size ≤ l.sizeSmall then m.mempoolSmall.alloc else (none, m.mempoolSmall)
  match tried.1 with
  | some ptr => (some ptr, { m with mempoolSmall := tried.2 })
  | none =>
    if size ≤ l.sizeBig then (m.mempoolBig.alloc.1, ⟨m.mempoolBig.alloc.2, tried.2⟩)
    else (none, { m with mempoolSmall := tried.2 })

def free (m : PlacedMempool l) (chunk : Nat) : PlacedMempool l :=
  if (m.mempoolSmall.free chunk).1 = false then ⟨(m.mempoolBig.free chunk).2, (m.mempoolSmall.free chunk).2⟩
  else { m with mempoolSmall := (m.mempoolSmall.free chunk).2 }

def single (m : PlacedMempool l) : (k : PoolKind) → SingleMempool (l.pool k)
  | .big => m.mempoolBig
  | .small => m.mempoolSmall

/-! ### What a call does to the blocks -/

/-- Both stacks hold the free blocks of their pools. -/
def Holds (m : PlacedMempool l) (pools : (k : PoolKind) → BlockPool (l.pool k).count.toNat) : Prop :=
  ∀ k, (m.single k).Holds (pools k)

variable {m : PlacedMempool l} {pools : (k : PoolKind) → BlockPool (l.pool k).count.toNat} {size : BitVec 32}

theorem new_holds (l : MempoolLayout) : (new l).Holds fun _ => .fresh _ := by
  intro k
  cases k with
  | big => exact SingleMempool.new_holds _
  | small => exact SingleMempool.new_holds _

theorem Holds.update_big (holds : m.Holds pools) {big : SingleMempool (l.pool .big)}
    {p : BlockPool (l.pool .big).count.toNat} (changed : big.Holds p) :
    Holds ⟨big, m.mempoolSmall⟩ (Function.update pools .big p) := by
  intro k
  cases k with
  | big =>
    rw [Function.update_self]
    exact changed
  | small =>
    have other : PoolKind.small ≠ .big := nofun
    rw [Function.update_of_ne other]
    exact holds .small

theorem Holds.update_small (holds : m.Holds pools) {small : SingleMempool (l.pool .small)}
    {p : BlockPool (l.pool .small).count.toNat} (changed : small.Holds p) :
    Holds ⟨m.mempoolBig, small⟩ (Function.update pools .small p) := by
  intro k
  cases k with
  | big =>
    have other : PoolKind.big ≠ .small := nofun
    rw [Function.update_of_ne other]
    exact holds .big
  | small =>
    rw [Function.update_self]
    exact changed

/-- An allocation takes the top of a stack, the one of the small pool if that can serve it. -/
def Served (m : PlacedMempool l) (pools : (k : PoolKind) → BlockPool (l.pool k).count.toNat) (size : BitVec 32) : Prop :=
  ∃ k rest i, ∃ top : (pools k).free = rest ++ [i],
    (m.alloc size).1 = some ((l.pool k).block i) ∧ size ≤ (l.pool k).blockSize ∧
    (m.alloc size).2.Holds (Function.update pools k (BlockPool.take top)) ∧
    (k = .big → size ≤ l.sizeSmall → (pools .small).free = [])

/-- No pool with large enough blocks has a free one. -/
def Refused (m : PlacedMempool l) (pools : (k : PoolKind) → BlockPool (l.pool k).count.toNat) (size : BitVec 32) : Prop :=
  m.alloc size = (none, m) ∧ ∀ k, size ≤ (l.pool k).blockSize → (pools k).free = []

/-- A request that the small pool does not serve. -/
theorem Holds.alloc_big_cases (holds : m.Holds pools)
    (unserved : (if size ≤ l.sizeSmall then m.mempoolSmall.alloc else (none, m.mempoolSmall)) = (none, m.mempoolSmall))
    (useless : size ≤ l.sizeSmall → (pools .small).free = []) : m.Served pools size ∨ m.Refused pools size := by
  by_cases fits : size ≤ l.sizeBig
  · rcases (holds .big).alloc_cases with ⟨empty, stays⟩ | ⟨rest, i, top, ptr, taken⟩
    · change m.mempoolBig.alloc = (none, m.mempoolBig) at stays
      refine .inr ⟨by simp only [alloc, unserved, if_pos fits, stays], fun k below => ?_⟩
      cases k with
      | big => exact empty
      | small => exact useless below
    · refine .inl ⟨.big, rest, i, top, ?_, fits, ?_, fun _ => useless⟩
      · simp only [alloc, unserved, if_pos fits]
        exact ptr
      · simp only [alloc, unserved, if_pos fits]
        exact holds.update_big taken
  · refine .inr ⟨by simp only [alloc, unserved, if_neg fits], fun k below => ?_⟩
    cases k with
    | big => exact absurd below fits
    | small => exact useless below

theorem Holds.alloc_cases (holds : m.Holds pools) (size : BitVec 32) : m.Served pools size ∨ m.Refused pools size := by
  by_cases fits : size ≤ l.sizeSmall
  · rcases (holds .small).alloc_cases with ⟨empty, stays⟩ | ⟨rest, i, top, ptr, taken⟩
    · exact holds.alloc_big_cases ((if_pos fits).trans stays) fun _ => empty
    · change m.mempoolSmall.alloc.1 = _ at ptr
      refine .inl ⟨.small, rest, i, top, ?_, fits, ?_, fun other => nomatch other⟩
      · simp only [alloc, if_pos fits, ptr]
      · simp only [alloc, if_pos fits, ptr]
        exact holds.update_small taken
  · exact holds.alloc_big_cases (if_neg fits) fun below => absurd below fits

/-- A block is given back to the pool it is from; the other pool stays as it is. -/
theorem Holds.free_used (holds : m.Holds pools) {k : PoolKind} {i mem : Nat} (taken : i ∈ (pools k).used)
    (lower : (l.pool k).block i ≤ mem) (upper : mem < (l.pool k).block i + (l.pool k).blockSize.toNat) :
    (m.free mem).Holds (Function.update pools k (BlockPool.release taken)) ∧
    ((m.free mem).single k).stack = (m.single k).stack ++ [(l.pool k).block i] ∧
    ∀ other, other ≠ k → (m.free mem).single other = m.single other := by
  obtain ⟨accepted, released, stack⟩ := (holds k).free_used taken lower upper
  cases k with
  | big =>
    have before := MempoolLayout.block_big_lt ((pools .big).mem_iff.mp (.inr taken))
    have refused : m.mempoolSmall.free mem = (false, m.mempoolSmall) := SingleMempool.free_below (by omega)
    have result : m.free mem = ⟨(m.mempoolBig.free mem).2, m.mempoolSmall⟩ := by rw [free, refused, if_pos rfl]
    rw [result]
    refine ⟨holds.update_big released, stack, fun other apart => ?_⟩
    cases other with
    | big => exact absurd rfl apart
    | small => simp only [single]
  | small =>
    change (m.mempoolSmall.free mem).1 = true at accepted
    have result : m.free mem = ⟨m.mempoolBig, (m.mempoolSmall.free mem).2⟩ := by
      rw [free, accepted, if_neg Bool.true_eq_false.mp]
    rw [result]
    refine ⟨holds.update_small released, stack, fun other apart => ?_⟩
    cases other with
    | big => simp only [single]
    | small => exact absurd rfl apart

/-- `getMaxFreeBlockSize` tells exactly which requests are served. -/
theorem Holds.alloc_isSome_iff (holds : m.Holds pools) (size : BitVec 32) :
    (m.alloc size).1.isSome = true ↔ (∃ k, (pools k).free ≠ []) ∧ size ≤ m.getMaxFreeBlockSize := by
  have big : m.mempoolBig.hasSpace = true ↔ (pools .big).free ≠ [] := (holds .big).hasSpace_iff
  have small : m.mempoolSmall.hasSpace = true ↔ (pools .small).free ≠ [] := (holds .small).hasSpace_iff
  have order := l.small_le_big
  rcases holds.alloc_cases size with ⟨k, rest, i, top, served, fits, _, _⟩ | ⟨refused, useless⟩
  · have nonempty : (pools k).free ≠ [] := by
      rw [top]
      exact List.concat_ne_nil i rest
    refine iff_of_true (by rw [served, Option.isSome_some]) ⟨⟨k, nonempty⟩, ?_⟩
    unfold getMaxFreeBlockSize
    cases k with
    | big =>
      rw [if_pos (big.mpr nonempty)]
      exact fits
    | small =>
      split
      · exact BitVec.le_trans fits order
      · rw [if_pos (small.mpr nonempty)]
        exact fits
  · refine iff_of_false (by rw [refused, Option.isSome_none]; exact Bool.false_ne_true) fun ⟨some_free, below⟩ => ?_
    unfold getMaxFreeBlockSize at below
    split at below
    · rename_i space
      exact big.mp space (useless .big below)
    · rename_i no_space
      split at below
      · rename_i space
        exact small.mp space (useless .small below)
      · rename_i none_left
        obtain ⟨k, nonempty⟩ := some_free
        cases k with
        | big => exact no_space (big.mpr nonempty)
        | small => exact none_left (small.mpr nonempty)

/-! ### The addresses of the blocks in use -/

def addressesInUse (pools : (k : PoolKind) → BlockPool (l.pool k).count.toNat) : List Nat :=
  (pools .big).used.map (l.pool .big).block ++ (pools .small).used.map (l.pool .small).block

theorem mem_addressesInUse {ptr : Nat} :
    ptr ∈ addressesInUse pools ↔ ∃ k, ∃ i ∈ (pools k).used, (l.pool k).block i = ptr := by
  simp only [addressesInUse, List.mem_append, List.mem_map]
  constructor
  · rintro (big | small)
    · exact ⟨.big, big⟩
    · exact ⟨.small, small⟩
  · rintro ⟨k, used⟩
    cases k with
    | big => exact .inl used
    | small => exact .inr used

theorem addressesInUse_take {k : PoolKind} {rest : List Nat} {i : Nat} (top : (pools k).free = rest ++ [i]) :
    (addressesInUse (Function.update pools k (BlockPool.take top))).Perm ((l.pool k).block i :: addressesInUse pools) := by
  cases k with
  | big =>
    have other : PoolKind.small ≠ .big := nofun
    rw [addressesInUse, Function.update_self, Function.update_of_ne other, BlockPool.take, List.map_cons, List.cons_append,
      addressesInUse]
  | small =>
    have other : PoolKind.big ≠ .small := nofun
    rw [addressesInUse, Function.update_self, Function.update_of_ne other, BlockPool.take, List.map_cons]
    exact List.perm_middle

theorem addressesInUse_release {k : PoolKind} {i : Nat} (taken : i ∈ (pools k).used) :
    (addressesInUse pools).Perm
      ((l.pool k).block i :: addressesInUse (Function.update pools k (BlockPool.release taken))) := by
  have without := (List.perm_cons_erase taken).map (l.pool k).block
  rw [List.map_cons] at without
  cases k with
  | big =>
    have other : PoolKind.small ≠ .big := nofun
    rw [addressesInUse, addressesInUse, Function.update_self, Function.update_of_ne other, BlockPool.release]
    exact without.append_right _
  | small =>
    have other : PoolKind.big ≠ .small := nofun
    rw [addressesInUse, addressesInUse, Function.update_self, Function.update_of_ne other, BlockPool.release]
    exact (without.append_left _).trans List.perm_middle

/-! ### The pool as the sockets see it -/

/-- How many blocks are free. -/
def counts (m : PlacedMempool l) : BasicMempool where
  sizeBig := l.sizeBig
  sizeSmall := l.sizeSmall
  small_le_big := l.small_le_big
  freeBig := m.mempoolBig.stack.length
  freeSmall := m.mempoolSmall.stack.length

theorem Holds.counts_getMaxFreeBlockSize (holds : m.Holds pools) : m.counts.getMaxFreeBlockSize = m.getMaxFreeBlockSize := by
  have big := (holds .big).hasSpace_iff_stack
  have small := (holds .small).hasSpace_iff_stack
  unfold BasicMempool.getMaxFreeBlockSize getMaxFreeBlockSize
  exact if_congr big.symm rfl (if_congr small.symm rfl rfl)

theorem Holds.counts_eq (holds : m.Holds pools) :
    m.counts = ⟨l.sizeBig, l.sizeSmall, l.small_le_big, (pools .big).free.length, (pools .small).free.length⟩ := by
  have big : m.mempoolBig.stack = _ := (holds .big).stack
  have small : m.mempoolSmall.stack = _ := (holds .small).stack
  rw [counts, big, small, List.length_map, List.length_map]

/-- An allocation by count is one by address: it returns a block of the same size and leaves as
many free. -/
theorem Holds.counts_alloc (holds : m.Holds pools) (size : BitVec 32) :
    m.counts.alloc size =
      ((m.alloc size).1.map fun ptr => (l.pool (l.kindOf ptr)).blockSize, (m.alloc size).2.counts) := by
  rcases holds.alloc_cases size with ⟨k, rest, i, top, served, fits, taken, prefers⟩ | ⟨refused, useless⟩
  · have below : i < (l.pool k).count.toNat := (pools k).mem_iff.mp (.inl (by rw [top]; exact List.mem_concat_self))
    have kind : l.kindOf ((l.pool k).block i) = k := MempoolLayout.kindOf_block below le_rfl (Nat.le_add_right _ _)
    have some_free : (pools k).free.length = rest.length + 1 := by rw [top, List.length_append, List.length_singleton]
    rw [served, Option.map_some, kind, holds.counts_eq, taken.counts_eq]
    cases k with
    | big =>
      have other : PoolKind.small ≠ .big := nofun
      have unserved : ¬(size ≤ l.sizeSmall ∧ 0 < (pools .small).free.length) := by
        rintro ⟨small, left⟩
        rw [prefers rfl small] at left
        exact Nat.lt_irrefl 0 left
      rw [Function.update_self, Function.update_of_ne other, BasicMempool.alloc]
      dsimp only
      rw [if_neg unserved, if_pos ⟨fits, by omega⟩, some_free]
      rfl
    | small =>
      have other : PoolKind.big ≠ .small := nofun
      rw [Function.update_self, Function.update_of_ne other, BasicMempool.alloc]
      dsimp only
      rw [if_pos ⟨fits, by omega⟩, some_free]
      rfl
  · have none_free (k : PoolKind) : ¬(size ≤ (l.pool k).blockSize ∧ 0 < (pools k).free.length) := by
      rintro ⟨below, left⟩
      rw [useless k below] at left
      exact Nat.lt_irrefl 0 left
    rw [refused, Option.map_none, holds.counts_eq, BasicMempool.alloc]
    dsimp only
    have no_small : ¬(size ≤ l.sizeSmall ∧ 0 < (pools .small).free.length) := none_free .small
    have no_big : ¬(size ≤ l.sizeBig ∧ 0 < (pools .big).free.length) := none_free .big
    rw [if_neg no_small, if_neg no_big]

end PlacedMempool

end IPStack
