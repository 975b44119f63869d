import Mathlib.Data.List.GetD
import Mathlib.Data.List.TakeWhile

/-! Strings of C, and the groups and hexadecimal numbers in them. -/

namespace CString

def nul : Char := .ofNat 0

end CString

/-- The characters in front of the terminating NUL. -/
structure CString where
  chars : List Char
  nonzero : CString.nul ∉ chars

namespace CString

/-- The characters and the NUL behind them. -/
def charAt (s : CString) (position : Nat) : Char := s.chars.getD position nul

/-- The characters are in a memory from a position on, with a NUL behind them. What follows the
NUL is arbitrary. -/
def HeldFrom (memory : Nat → Char) : Nat → List Char → Prop
  | position, [] => memory position = nul
  | position, c :: rest => memory position = c ∧ HeldFrom memory (position + 1) rest

def HeldBy (s : CString) (memory : Nat → Char) : Prop := HeldFrom memory 0 s.chars

def IsHexDigit (c : Char) : Prop := ('0' ≤ c ∧ c ≤ '9') ∨ ('a' ≤ c ∧ c ≤ 'f') ∨ ('A' ≤ c ∧ c ≤ 'F')

instance (c : Char) : Decidable (IsHexDigit c) := inferInstanceAs (Decidable (_ ∨ _))

def hexValue (c : Char) : Nat :=
  if c ≤ '9' then c.toNat - 48 else if c ≤ 'F' then c.toNat - 55 else c.toNat - 87

def hexNumber (digits : List Char) : Nat := digits.foldl (fun n c => 16 * n + hexValue c) 0

/-! ### Positions -/

variable {s : CString} {position : Nat} {c : Char} {g rest : List Char}

theorem charAt_drop (here : s.chars.drop position = c :: rest) : s.charAt position = c := by
  have first := congrArg List.head? here
  rw [List.head?_drop] at first
  rw [charAt, List.getD_eq_getElem?_getD, first]
  rfl

theorem drop_succ (here : s.chars.drop position = c :: rest) : s.chars.drop (position + 1) = rest := by
  rw [← List.tail_drop, here]
  rfl

theorem drop_group_succ (here : s.chars.drop position = g ++ c :: rest) :
    s.chars.drop (position + g.length + 1) = rest := by
  rw [Nat.add_assoc, ← List.drop_drop, here, ← List.drop_drop, List.drop_left]
  rfl

theorem heldFrom_charAt (here : s.chars.drop position = rest) : HeldFrom s.charAt position rest := by
  induction rest generalizing position with
  | nil => exact List.getD_eq_default _ _ (List.drop_eq_nil_iff.mp here)
  | cons c rest ih => exact ⟨charAt_drop here, ih (drop_succ here)⟩

theorem heldBy_charAt (s : CString) : s.HeldBy s.charAt := heldFrom_charAt rfl

/-! ### Groups -/

/-- A group ends with the string or with the character between the groups. -/
theorem exists_group (separator : Char) (remaining : List Char) : ∃ g, separator ∉ g ∧
    (remaining = g ∧ remaining.splitOn separator = [g] ∨
      ∃ rest, remaining = g ++ separator :: rest ∧ remaining.splitOn separator = g :: rest.splitOn separator) := by
  induction remaining with
  | nil => exact ⟨[], List.not_mem_nil, .inl ⟨rfl, rfl⟩⟩
  | cons c remaining ih =>
    by_cases ends : c = separator
    · subst ends
      exact ⟨[], List.not_mem_nil,
        .inr ⟨remaining, rfl, List.splitOn_append_cons_self_of_not_mem List.not_mem_nil remaining⟩⟩
    obtain ⟨g, plain, next⟩ := ih
    have plain' : separator ∉ c :: g := fun member => (List.mem_cons.mp member).elim (fun eq => ends eq.symm) plain
    refine ⟨c :: g, plain', ?_⟩
    obtain last | ⟨rest, split, -⟩ := next
    · exact .inl ⟨by rw [last.1], by rw [last.1, List.splitOn_eq_singleton plain']⟩
    · refine .inr ⟨rest, by rw [split]; rfl, ?_⟩
      rw [split]
      exact List.splitOn_append_cons_self_of_not_mem plain' rest

end CString
