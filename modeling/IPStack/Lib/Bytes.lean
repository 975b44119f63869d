import Mathlib.Algebra.Group.Int.Defs
import Mathlib.Algebra.Group.Nat.Defs
import Mathlib.Data.List.GetD
import Mathlib.Tactic.IntervalCases
import Mathlib.Tactic.SplitIfs

/-! Bytes in memory, and bit sets kept in bytes. -/

namespace IPStack

/-- The bytes from a pointer on. Behind the end of the list every byte reads as 0. -/
abbrev Bytes := List UInt8

namespace Bytes

def byte (p : Bytes) (i : Nat) : BitVec 8 := (p.getD i 0).toBitVec

/-- A 16-bit member as the machine reads it, the low byte first. -/
def short (p : Bytes) (i : Nat) : BitVec 16 := p.byte (i + 1) ++ p.byte i

def long (p : Bytes) (i : Nat) : BitVec 32 := p.short (i + 2) ++ p.short i

/-- A member in network byte order. -/
def netShort (p : Bytes) (i : Nat) : BitVec 16 := p.byte i ++ p.byte (i + 1)

def netLong (p : Bytes) (i : Nat) : BitVec 32 := p.netShort i ++ p.netShort (i + 2)

/-- `memcpy(&dest[start], src, n)` inside `dest`. -/
def memcpy (dest : Bytes) (start : Nat) (src : Bytes) (n : Nat) : Bytes :=
  dest.take start ++ ((List.range n).map (fun i => src.getD i 0) ++ dest.drop (start + n))

variable {dest src : Bytes} {start n : Nat}

theorem length_memcpy (fits : start + n ≤ dest.length) : (dest.memcpy start src n).length = dest.length := by
  simp only [memcpy, List.length_append, List.length_take, List.length_map, List.length_range, List.length_drop]
  omega

theorem getD_memcpy (fits : start + n ≤ dest.length) (i : Nat) :
    (dest.memcpy start src n).getD i 0 =
      if start ≤ i ∧ i < start + n then src.getD (i - start) 0 else dest.getD i 0 := by
  have head : (dest.take start).length = start := by
    rw [List.length_take]
    omega
  have middle : ((List.range n).map fun i => src.getD i 0).length = n := by simp
  unfold memcpy
  rcases Nat.lt_or_ge i start with before | behind
  · rw [List.getD_append _ _ _ _ (by omega), if_neg (by omega)]
    simp only [List.getD_eq_getElem?_getD, List.getElem?_take_of_lt before]
  rw [List.getD_append_right _ _ _ _ (by omega), head]
  rcases Nat.lt_or_ge i (start + n) with inside | after
  · rw [List.getD_append _ _ _ _ (by omega), if_pos ⟨behind, inside⟩]
    simp only [List.getD_eq_getElem?_getD, List.getElem?_map, List.getElem?_range (by omega : i - start < n)]
    rfl
  · rw [List.getD_append_right _ _ _ _ (by omega), middle, if_neg (by omega)]
    simp only [List.getD_eq_getElem?_getD, List.getElem?_drop]
    congr 2
    omega

theorem byte_memcpy (fits : start + n ≤ dest.length) (i : Nat) :
    (dest.memcpy start src n).byte i = if start ≤ i ∧ i < start + n then src.byte (i - start) else dest.byte i := by
  unfold byte
  rw [getD_memcpy fits]
  split_ifs <;> rfl

theorem append_eq_allOnes {v w : Nat} {a : BitVec v} {b : BitVec w} :
    a ++ b = BitVec.allOnes (v + w) ↔ a = BitVec.allOnes v ∧ b = BitVec.allOnes w := by
  have full : BitVec.allOnes (v + w) = BitVec.allOnes v ++ BitVec.allOnes w := by
    ext i inside
    simp [BitVec.getElem_append]
  rw [full]
  constructor
  · intro same
    constructor
    · rw [← BitVec.extractLsb'_append_eq_left (a := a) (b := b), same, BitVec.extractLsb'_append_eq_left]
    · rw [← BitVec.extractLsb'_append_eq_right (a := a) (b := b), same, BitVec.extractLsb'_append_eq_right]
  · rintro ⟨rfl, rfl⟩
    rfl

/-- A member with all bits set has them in either byte order. -/
theorem long_eq_allOnes {p : Bytes} {i : Nat} : p.long i = BitVec.allOnes 32 ↔ p.netLong i = BitVec.allOnes 32 := by
  unfold long netLong short netShort
  rw [append_eq_allOnes (v := 16) (w := 16), append_eq_allOnes (v := 8) (w := 8), append_eq_allOnes (v := 8) (w := 8),
    append_eq_allOnes (v := 16) (w := 16), append_eq_allOnes (v := 8) (w := 8), append_eq_allOnes (v := 8) (w := 8)]
  constructor
  · rintro ⟨⟨last, third⟩, second, first⟩
    exact ⟨⟨first, second⟩, third, last⟩
  · rintro ⟨⟨first, second⟩, third, last⟩
    exact ⟨⟨last, third⟩, second, first⟩

end Bytes

/-! ### Bit sets -/

/-- Bit `b % 8` of byte `b / 8`. -/
def marked (cells : List (BitVec 8)) (b : Nat) : Prop := (cells.getD (b / 8) 0).getLsbD (b % 8) = true

instance (cells : List (BitVec 8)) (b : Nat) : Decidable (marked cells b) := inferInstanceAs (Decidable (_ = true))

def mark (cells : List (BitVec 8)) (b : Nat) : List (BitVec 8) :=
  cells.modify (b / 8) (· ||| 1#8 <<< (b % 8))

variable {cells : List (BitVec 8)} {b b' : Nat}

theorem length_mark : (mark cells b).length = cells.length := List.length_modify ..

theorem marked_mark (inside : b / 8 < cells.length) : marked (mark cells b) b' ↔ b' = b ∨ marked cells b' := by
  unfold marked mark
  rw [List.getD_eq_getElem?_getD, List.getElem?_modify, List.getD_eq_getElem?_getD]
  by_cases same : b / 8 = b' / 8
  · rw [← same, List.getElem?_eq_getElem inside]
    simp only [Option.map_eq_map, Option.map_some, if_true, Option.getD_some, BitVec.getLsbD_or, Bool.or_eq_true,
      BitVec.getLsbD_shiftLeft]
    constructor
    · rintro (before | bit)
      · exact .inr before
      · left
        by_contra other
        simp at bit
        omega
    · rintro (rfl | before)
      · right
        simp
        omega
      · exact .inl before
  · have other : b' ≠ b := fun equal => same (by rw [equal])
    simp [same, other]

theorem marked_of_full (full : cells.getD (b / 8) 0 = 0xFF#8) : marked cells b := by
  unfold marked
  rw [full]
  have bit : b % 8 < 8 := Nat.mod_lt _ (by decide)
  generalize b % 8 = i at bit
  interval_cases i <;> rfl

end IPStack
