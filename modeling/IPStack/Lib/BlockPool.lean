import Mathlib.Data.List.Perm.Basic
import Mathlib.Data.List.Nodup
import Mathlib.Data.List.Range

/-! Pools of numbered blocks, each of them either free or in use. Free blocks are taken last in,
first out. -/

/-- The free blocks of a pool of `n` blocks, the next one last, and those in use. -/
structure BlockPool (n : Nat) where
  free : List Nat
  used : List Nat
  partition : (free ++ used).Perm (List.range n)

namespace BlockPool

variable {n : Nat}

/-- All blocks are free. -/
def fresh (n : Nat) : BlockPool n := ⟨List.range n, [], by rw [List.append_nil]⟩

variable (p : BlockPool n)

theorem nodup : (p.free ++ p.used).Nodup := p.partition.nodup_iff.mpr List.nodup_range

theorem nodup_used : p.used.Nodup := (List.nodup_append.mp p.nodup).2.1

theorem mem_iff {i : Nat} : i ∈ p.free ∨ i ∈ p.used ↔ i < n := by
  rw [← List.mem_append, p.partition.mem_iff, List.mem_range]

theorem length_add : p.free.length + p.used.length = n := by
  rw [← List.length_append, p.partition.length_eq, List.length_range]

variable {p}

/-- The last free block is taken. -/
def take {rest : List Nat} {i : Nat} (top : p.free = rest ++ [i]) : BlockPool n where
  free := rest
  used := i :: p.used
  partition := by
    have before := p.partition
    rw [top, List.append_assoc, List.singleton_append] at before
    exact before

/-- A block in use is given back. -/
def release {i : Nat} (taken : i ∈ p.used) : BlockPool n where
  free := p.free ++ [i]
  used := p.used.erase i
  partition := by
    rw [List.append_assoc, List.singleton_append]
    exact ((List.perm_cons_erase taken).symm.append_left p.free).trans p.partition

/-- While a block is in use, not all are free. -/
theorem length_free_lt {i : Nat} (taken : i ∈ p.used) : p.free.length < n := by
  have positive := List.length_pos_of_mem taken
  have total := p.length_add
  omega

end BlockPool
