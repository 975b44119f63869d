import Mathlib.Algebra.Group.Int.Defs
import Mathlib.Algebra.Group.Nat.Defs
import Mathlib.Data.List.Basic

/-! Serial numbers: unsigned machine words that count modulo a power of two and are compared
by the sign of their difference. -/

namespace Serial

variable {w : Nat}

/-- The number of steps from `a` up to `b`. -/
def gap (a b : BitVec w) : Nat := (b - a).toNat

theorem gap_eq (a b : BitVec w) :
    gap a b = if a.toNat ≤ b.toNat then b.toNat - a.toNat else 2 ^ w + b.toNat - a.toNat := by
  have ha := a.isLt
  have hb := b.isLt
  unfold gap
  rw [BitVec.toNat_sub]
  split
  · rename_i le
    rw [show 2 ^ w - a.toNat + b.toNat = 2 ^ w + (b.toNat - a.toNat) by omega, Nat.add_mod_left,
      Nat.mod_eq_of_lt (by omega)]
  · rw [Nat.mod_eq_of_lt (by omega)]
    omega

@[simp] theorem gap_self (a : BitVec w) : gap a a = 0 := by simp [gap]

theorem gap_eq_zero {a b : BitVec w} : gap a b = 0 ↔ a = b := by
  constructor
  · intro zero
    have := gap_eq a b
    have := a.isLt
    have := b.isLt
    apply BitVec.eq_of_toNat_eq
    split_ifs at * <;> omega
  · rintro rfl
    exact gap_self a

theorem gap_trans {a b c : BitVec w} (within : gap a b + gap b c < 2 ^ w) : gap a c = gap a b + gap b c := by
  have := gap_eq a b
  have := gap_eq b c
  have := gap_eq a c
  have := a.isLt
  have := b.isLt
  have := c.isLt
  split_ifs at * <;> omega

/-- Two positions below a common top are as far apart as their distances to it differ. -/
theorem gap_of_le (a b top : BitVec w) (below : gap b top ≤ gap a top) : gap a b = gap a top - gap b top := by
  have := gap_eq a b
  have := gap_eq b top
  have := gap_eq a top
  have := a.isLt
  have := b.isLt
  have := top.isLt
  split_ifs at * <;> omega

/-- A position that is no further from `a` than `b` lies between them. -/
theorem gap_split {a x b : BitVec w} (inside : gap a x ≤ gap a b) : gap a b = gap a x + gap x b := by
  have := gap_eq a x
  have := gap_eq x b
  have := gap_eq a b
  have := a.isLt
  have := b.isLt
  have := x.isLt
  split_ifs at * <;> omega

theorem gap_add_right (a b : BitVec w) {n : Nat} (within : gap a b + n < 2 ^ w) :
    gap a (b + BitVec.ofNat w n) = gap a b + n := by
  have step : gap b (b + BitVec.ofNat w n) = n := by
    unfold gap
    rw [BitVec.add_comm, BitVec.add_sub_cancel, BitVec.toNat_ofNat, Nat.mod_eq_of_lt (by omega)]
  rw [gap_trans (by rwa [step]), step]

theorem gap_add_ofNat (a : BitVec w) {n : Nat} (room : n < 2 ^ w) : gap a (a + BitVec.ofNat w n) = n := by
  rw [gap_add_right a a (by simpa using room), gap_self, Nat.zero_add]

theorem add_gap (a b : BitVec w) : a + BitVec.ofNat w (gap a b) = b := by
  apply BitVec.eq_of_toNat_eq
  have := gap_eq a b
  have ha := a.isLt
  have hb := b.isLt
  rw [BitVec.toNat_add, BitVec.toNat_ofNat, Nat.add_mod_mod]
  split_ifs at this
  · rw [this, Nat.mod_eq_of_lt (by omega)]
    omega
  · rw [this, show a.toNat + (2 ^ w + b.toNat - a.toNat) = 2 ^ w + b.toNat by omega, Nat.add_mod_left,
      Nat.mod_eq_of_lt hb]

theorem gap_inj (base a b : BitVec w) : gap base a = gap base b ↔ a = b :=
  ⟨fun equal => by rw [← add_gap base a, equal, add_gap], fun equal => by rw [equal]⟩

/-- The sign of a difference, as a distance. -/
theorem toInt_sub_neg (a b : BitVec w) : (a - b).toInt < 0 ↔ 2 ^ w ≤ 2 * gap b a :=
  BitVec.toInt_neg_iff

/-- Less than half the range below a common top, the sign of the difference orders
positions as their distances to the top do. -/
theorem lt_iff_of_below (a b top : BitVec w) (ha : 2 * gap a top < 2 ^ w) (hb : 2 * gap b top < 2 ^ w) :
    (a - b).toInt < 0 ↔ gap b top < gap a top := by
  rw [toInt_sub_neg]
  have := gap_eq b a
  have := gap_eq b top
  have := gap_eq a top
  have := a.isLt
  have := b.isLt
  have := top.isLt
  split_ifs at * <;> omega

/-- Less than half the range above a common base, the sign of the difference orders positions
as their distances from the base do. -/
theorem lt_iff_of_above (a b base : BitVec w) (ha : 2 * gap base a < 2 ^ w) (hb : 2 * gap base b < 2 ^ w) :
    (a - b).toInt < 0 ↔ gap base a < gap base b := by
  rw [toInt_sub_neg]
  have := gap_eq b a
  have := gap_eq base b
  have := gap_eq base a
  have := a.isLt
  have := b.isLt
  have := base.isLt
  split_ifs at * <;> omega

theorem toInt_sub_nonpos (a b : BitVec w) : (a - b).toInt ≤ 0 ↔ a = b ∨ 2 ^ w ≤ 2 * gap b a := by
  rw [← toInt_sub_neg, ← gap_eq_zero]
  have zero : (a - b).toInt = 0 ↔ gap b a = 0 := by
    rw [gap_eq_zero, ← BitVec.toInt_zero (w := w), BitVec.toInt_inj]
    constructor
    · intro same
      exact (gap_eq_zero.mp (by unfold gap; rw [same]; simp)).symm ▸ rfl
    · rintro rfl
      simp
  have symm : gap a b = 0 ↔ gap b a = 0 := by rw [gap_eq_zero, gap_eq_zero, eq_comm]
  omega

/-- A position after `a` and not after the top is closer to the top. -/
theorem gap_lt_of_between {a b top : BitVec w} (after : 0 < gap a b) (near : 2 * gap a b < 2 ^ w)
    (half : 2 * gap a top < 2 ^ w) (before : b = top ∨ 2 ^ w ≤ 2 * gap top b) : gap b top < gap a top := by
  have := gap_eq a b
  have := gap_eq a top
  have := gap_eq b top
  have := gap_eq top b
  have := a.isLt
  have := b.isLt
  have := top.isLt
  rcases before with rfl | far
  · rw [gap_self]
    exact after
  · split_ifs at * <;> omega

theorem le_iff_of_below (a b top : BitVec w) (ha : 2 * gap a top < 2 ^ w) (hb : 2 * gap b top < 2 ^ w) :
    (a - b).toInt ≤ 0 ↔ gap b top ≤ gap a top := by
  rw [toInt_sub_nonpos]
  constructor
  · rintro (rfl | far)
    · exact Nat.le_refl _
    · by_cases below : gap a top ≤ gap b top
      · have := gap_of_le b a top below
        omega
      · omega
  · intro le
    have between := gap_of_le a b top le
    by_cases same : gap a b = 0
    · exact .inl (gap_eq_zero.mp same)
    · have := gap_eq a b
      have := gap_eq b a
      have := a.isLt
      have := b.isLt
      split_ifs at * <;> omega

/-! ### Positions that do not wrap -/

/-- The difference of the serial numbers of two positions is the distance of the positions,
if that is in the range of the signed word. -/
theorem toInt_sub_ofNat {p q : Nat} (above : -(2 ^ w : Nat) ≤ ((p : Int) - q) * 2) (below : ((p : Int) - q) * 2 < (2 ^ w : Nat)) :
    (BitVec.ofNat w p - BitVec.ofNat w q).toInt = p - q := by
  rw [BitVec.toInt_sub, BitVec.toInt_ofNat', BitVec.toInt_ofNat', Int.bmod_sub_bmod, Int.sub_bmod_bmod]
  exact Int.bmod_eq_of_le_mul_two above below

/-- Positions with the same serial number are the same or far apart. -/
theorem ofNat_inj {p q : Nat} (same : BitVec.ofNat w p = BitVec.ofNat w q) (above : q < p + 2 ^ w) (below : p < q + 2 ^ w) :
    p = q := by
  have rests : p % 2 ^ w = q % 2 ^ w := by simpa using congrArg BitVec.toNat same
  rcases Nat.le_total p q with le | le
  · have whole := Nat.sub_mod_eq_zero_of_mod_eq rests.symm
    rw [Nat.mod_eq_of_lt (by omega)] at whole
    omega
  · have whole := Nat.sub_mod_eq_zero_of_mod_eq rests
    rw [Nat.mod_eq_of_lt (by omega)] at whole
    omega

end Serial
