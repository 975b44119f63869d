import Mathlib.Algebra.GroupWithZero.Nat
import IPStack.Lib.Serial

/-! Ranges of serial numbers, and queues of ranges that join up to a top, newest first. -/

namespace Serial

variable {w : Nat}

/-- `len` numbers from `first` on. -/
structure Range (w : Nat) where
  first : BitVec w
  len : Nat
deriving DecidableEq

def Range.Covers (r : Range w) (x : BitVec w) : Prop := gap r.first x < r.len

/-- The position lies behind the first number of the range and before its end. -/
def Range.Splits (r : Range w) (x : BitVec w) : Prop := 0 < gap r.first x ∧ gap r.first x < r.len

instance (r : Range w) (x : BitVec w) : Decidable (r.Splits x) := inferInstanceAs (Decidable (_ ∧ _))

def total (l : List (Range w)) : Nat := (l.map Range.len).sum

@[simp] theorem total_nil : total ([] : List (Range w)) = 0 := rfl

@[simp] theorem total_cons (r : Range w) (l : List (Range w)) : total (r :: l) = r.len + total l := by simp [total]

theorem total_le (l : List (Range w)) (bound : Nat) (small : ∀ r ∈ l, r.len ≤ bound) : total l ≤ l.length * bound := by
  induction l with
  | nil => simp
  | cons r rest ih =>
    have first := small r (List.mem_cons_self ..)
    have later := ih (fun r member => small r (List.mem_cons_of_mem _ member))
    rw [total_cons, List.length_cons, Nat.succ_mul]
    omega

/-- Each range ends where the one before it in the list starts, the first one at `top`. -/
def Joined : BitVec w → List (Range w) → Prop
  | _, [] => True
  | top, r :: rest => r.first + BitVec.ofNat w r.len = top ∧ Joined r.first rest

namespace Joined

variable {top bottom : BitVec w} {l : List (Range w)} {r : Range w}

theorem gap_first (end_eq : r.first + BitVec.ofNat w r.len = top) (fits : r.len < 2 ^ w) : gap r.first top = r.len := by
  rw [← end_eq]
  exact gap_add_ofNat r.first fits

/-- The distance of a range's start from the top, in terms of its own end. -/
theorem gap_first_top (next : BitVec w) (end_eq : r.first + BitVec.ofNat w r.len = top)
    (fits : r.len + gap top next < 2 ^ w) : gap r.first next = r.len + gap top next := by
  have own := gap_first end_eq (by omega)
  rw [gap_trans (by rwa [own]), own]

/-- Every number less than `total` before the top is covered. -/
theorem covers (joined : Joined top l) {x : BitVec w} (fits : total l < 2 ^ w) (before : 0 < gap x top)
    (inside : gap x top ≤ total l) : ∃ r ∈ l, r.Covers x := by
  induction l generalizing top with
  | nil => simp at inside; omega
  | cons r rest ih =>
    rw [total_cons] at fits inside
    have own := gap_first joined.1 (by omega)
    by_cases here : gap x top ≤ r.len
    · refine ⟨r, List.mem_cons_self .., ?_⟩
      have := gap_of_le r.first x top (by omega)
      unfold Range.Covers
      omega
    · have := gap_of_le x r.first top (by omega)
      obtain ⟨r', member, holds⟩ := ih joined.2 (by omega) (by omega) (by omega)
      exact ⟨r', List.mem_cons_of_mem _ member, holds⟩

/-- A position in the queue that splits no range is the end of one, so that the ranges
behind it are as long as it is far from the top. -/
theorem total_filter (joined : Joined top l) (x next : BitVec w) (fits : total l + gap top next < 2 ^ w) {slack : Nat}
    (covered : gap x next ≤ total l + gap top next + slack)
    (whole : ∀ r ∈ l, r.Splits x → r.len ≤ slack) :
    gap x next ≤ total (l.filter (fun r => gap r.first next ≤ gap x next)) + gap top next + slack := by
  induction l generalizing top with
  | nil => exact covered
  | cons r rest ih =>
    rw [total_cons] at fits covered
    have own := gap_first_top next joined.1 (by omega)
    by_cases keep : gap r.first next ≤ gap x next
    · rw [List.filter_cons_of_pos (by simpa using keep), total_cons]
      have later := ih joined.2 (by omega) (by omega) (fun r member => whole r (List.mem_cons_of_mem _ member))
      omega
    · have first := gap_of_le r.first x next (by omega)
      by_cases past : gap x next ≤ gap top next
      · omega
      · have := whole r (List.mem_cons_self ..) ⟨by omega, by omega⟩
        omega

theorem gap_le (joined : Joined top l) (next : BitVec w) (fits : total l + gap top next < 2 ^ w) (member : r ∈ l) :
    gap top next ≤ gap r.first next := by
  induction l generalizing top with
  | nil => simp at member
  | cons r' rest ih =>
    rw [total_cons] at fits
    have own := gap_first_top next joined.1 (by omega)
    rcases List.mem_cons.mp member with rfl | later
    · omega
    · have := ih joined.2 (by omega) later
      omega

theorem gap_le_total (joined : Joined top l) (next : BitVec w) (fits : total l + gap top next < 2 ^ w) (member : r ∈ l) :
    gap r.first next ≤ total l + gap top next := by
  induction l generalizing top with
  | nil => simp at member
  | cons r' rest ih =>
    rw [total_cons] at fits ⊢
    have own := gap_first_top next joined.1 (by omega)
    rcases List.mem_cons.mp member with rfl | later
    · omega
    · have := ih joined.2 (by omega) later
      omega

theorem len_le (joined : Joined top l) (next : BitVec w) (fits : total l + gap top next < 2 ^ w) (member : r ∈ l) :
    r.len ≤ gap r.first next := by
  induction l generalizing top with
  | nil => simp at member
  | cons r' rest ih =>
    rw [total_cons] at fits
    have own := gap_first_top next joined.1 (by omega)
    rcases List.mem_cons.mp member with rfl | later
    · omega
    · exact ih joined.2 (by omega) later

/-- Dropping the ranges that start before a position leaves the front of the queue. -/
theorem filter (joined : Joined top l) (x next : BitVec w) (fits : total l + gap top next < 2 ^ w) :
    Joined top (l.filter (fun r => gap r.first next ≤ gap x next)) := by
  induction l generalizing top with
  | nil => trivial
  | cons r rest ih =>
    rw [total_cons] at fits
    have own := gap_first_top next joined.1 (by omega)
    by_cases keep : gap r.first next ≤ gap x next
    · rw [List.filter_cons_of_pos (by simpa using keep)]
      exact ⟨joined.1, ih joined.2 (by omega)⟩
    · rw [List.filter_cons_of_neg (by simpa using keep)]
      have none : rest.filter (fun r => gap r.first next ≤ gap x next) = [] := by
        rw [List.filter_eq_nil_iff]
        intro r' member
        have := gap_le joined.2 next (by omega) member
        simp only [decide_eq_true_eq]
        omega
      rw [none]
      trivial

end Joined

end Serial
