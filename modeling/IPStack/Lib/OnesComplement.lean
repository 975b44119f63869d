import Mathlib.Algebra.Group.Int.Defs
import Mathlib.Algebra.Group.Nat.Defs
import Mathlib.Data.Nat.ModEq
import Mathlib.Tactic.SplitIfs

/-! One's complement arithmetic on the numbers up to `m`: a carry is added back at the end. -/

namespace OnesComplement

variable {m a b s : Nat}

def add (m a b : Nat) : Nat := if a + b ≤ m then a + b else a + b - m

def sum (m : Nat) (words : List Nat) : Nat := words.foldl (add m) 0

/-- The number up to `m` that stands for `s`. Zero stands for itself only. -/
def fold (m s : Nat) : Nat := if s = 0 then 0 else (s - 1) % m + 1

@[simp] theorem fold_zero : fold m 0 = 0 := rfl

theorem fold_pos (some : 0 < s) : 0 < fold m s := by
  unfold fold
  rw [if_neg (Nat.ne_of_gt some)]
  exact Nat.succ_pos _

theorem fold_le (pos : 0 < m) (s : Nat) : fold m s ≤ m := by
  unfold fold
  split_ifs
  · exact Nat.zero_le m
  · exact Nat.mod_lt _ pos

theorem fold_modEq (m s : Nat) : fold m s ≡ s [MOD m] := by
  unfold fold
  split_ifs with zero
  · rw [zero]
  · have stepped : (s - 1) % m + 1 ≡ s - 1 + 1 [MOD m] := (Nat.mod_modEq (s - 1) m).add_right 1
    rwa [Nat.sub_add_cancel (Nat.pos_of_ne_zero zero)] at stepped

/-- A positive number up to `m` is the only one of its class. -/
theorem fold_eq (pos : 0 < a) (small : a ≤ m) (same : a ≡ s [MOD m]) (some : 0 < s) : fold m s = a := by
  have near : a - 1 ≡ s - 1 [MOD m] := by
    refine Nat.ModEq.add_right_cancel' 1 ?_
    rwa [Nat.sub_add_cancel pos, Nat.sub_add_cancel some]
  unfold fold
  rw [if_neg (Nat.ne_of_gt some), ← near, Nat.mod_eq_of_lt (by omega)]
  omega

theorem fold_of_le (small : s ≤ m) : fold m s = s := by
  rcases Nat.eq_zero_or_pos s with rfl | pos
  · rfl
  · exact fold_eq pos small rfl pos

theorem fold_congr (pos : 0 < m) (same : a ≡ b [MOD m]) (zero : a = 0 ↔ b = 0) : fold m a = fold m b := by
  rcases Nat.eq_zero_or_pos b with rfl | some
  · rw [zero.mpr rfl]
  · exact (fold_eq (fold_pos some) (fold_le pos b) ((fold_modEq m b).trans same.symm) (by omega))

theorem fold_add_fold (pos : 0 < m) (a b : Nat) : fold m (fold m a + b) = fold m (a + b) := by
  refine fold_congr pos ((fold_modEq m a).add_right b) ?_
  rcases Nat.eq_zero_or_pos a with rfl | some
  · rfl
  · have := fold_pos (m := m) some
    omega

theorem add_eq_fold (pos : 0 < m) (left : a ≤ m) (right : b ≤ m) : add m a b = fold m (a + b) := by
  unfold add
  split_ifs with small
  · exact (fold_of_le small).symm
  · refine (fold_eq (by omega) (by omega) ?_ (by omega)).symm
    exact (Nat.modEq_of_dvd' (by omega) ⟨1, by omega⟩)

/-- Adding words one after the other gives the number that stands for their sum. -/
theorem sum_eq_fold (pos : 0 < m) {words : List Nat} (small : ∀ word ∈ words, word ≤ m) :
    sum m words = fold m words.sum := by
  have general : ∀ start ≤ m, words.foldl (add m) start = fold m (start + words.sum) := by
    induction words with
    | nil => exact fun start le => (fold_of_le le).symm
    | cons word rest ih =>
      intro start le
      have first := add_eq_fold pos le (small word List.mem_cons_self)
      rw [List.foldl_cons, first, ih (fun w member => small w (List.mem_cons_of_mem _ member)) _ (fold_le pos _),
        fold_add_fold pos, List.sum_cons, Nat.add_assoc]
  unfold sum
  rw [general 0 (Nat.zero_le m), Nat.zero_add]

/-- Adding the part above the word to the word keeps the number that is stood for. -/
theorem fold_carry (pos : 0 < m) (s : Nat) : fold m (s % (m + 1) + s / (m + 1)) = fold m s := by
  have whole := Nat.mod_add_div s (m + 1)
  have multiple : s = s % (m + 1) + s / (m + 1) + m * (s / (m + 1)) := by
    rw [Nat.succ_mul] at whole
    omega
  have same : s % (m + 1) + s / (m + 1) ≡ s [MOD m] := by
    rw [Nat.modEq_iff_dvd' (by omega)]
    exact ⟨s / (m + 1), by omega⟩
  refine fold_congr pos same ⟨fun none => ?_, ?_⟩
  · obtain ⟨low, high⟩ := Nat.add_eq_zero_iff.mp none
    rw [low, high] at whole
    exact whole.symm
  · rintro rfl
    simp

/-- With its complement, a sum becomes all ones. -/
theorem fold_add_complement (pos : 0 < m) (s : Nat) : fold m (s + (m - fold m s)) = m := by
  have le := fold_le pos s
  have all : fold m s + (m - fold m s) = m := by omega
  rw [← fold_add_fold pos, all]
  exact fold_of_le (Nat.le_refl m)

theorem fold_eq_top_iff (pos : 0 < m) : fold m s = m ↔ s ≠ 0 ∧ m ∣ s := by
  constructor
  · intro top
    refine ⟨?_, ?_⟩
    · rintro rfl
      exact Nat.ne_of_gt pos top.symm
    · have same := fold_modEq m s
      rw [top] at same
      exact (Nat.modEq_zero_iff_dvd.mp (same.symm.trans (Nat.modEq_zero_iff_dvd.mpr (Nat.dvd_refl m))))
  · rintro ⟨some, multiple⟩
    refine fold_eq pos (Nat.le_refl m) ?_ (Nat.pos_of_ne_zero some)
    exact (Nat.modEq_zero_iff_dvd.mpr (Nat.dvd_refl m)).trans (Nat.modEq_zero_iff_dvd.mpr multiple).symm

end OnesComplement
