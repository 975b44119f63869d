import Mathlib.Data.List.FinRange
import Mathlib.Logic.Function.Basic

/-! Tables of slots that are searched for a key from the first slot on. One key marks the
slots that are free. -/

universe u v

namespace Slots

variable {n : Nat} {ε : Type u} {κ : Type v} [DecidableEq κ] {key : ε → κ} {free k : κ} {slots : Fin n → ε}
  {i : Fin n} {e : ε}

/-- The first slot with a key. -/
def find (key : ε → κ) (slots : Fin n → ε) (k : κ) : Option (Fin n) :=
  (List.finRange n).find? fun i => decide (key (slots i) = k)

theorem find_eq_none_iff : find key slots k = none ↔ ∀ i, key (slots i) ≠ k := by
  simp only [find, List.find?_eq_none, List.mem_finRange, decide_eq_true_eq, forall_const]

theorem key_of_find (found : find key slots k = some i) : key (slots i) = k := by
  have there := List.find?_some found
  simpa only [decide_eq_true_eq] using there

theorem exists_find (there : key (slots i) = k) : ∃ j, find key slots k = some j := by
  cases found : find key slots k with
  | none => exact absurd there (find_eq_none_iff.mp found i)
  | some j => exact ⟨j, rfl⟩

/-- No two slots have the same key, but for the one of free slots. -/
def Unique (key : ε → κ) (free : κ) (slots : Fin n → ε) : Prop :=
  ∀ i j, key (slots i) = key (slots j) → key (slots i) ≠ free → i = j

theorem Unique.find_eq_some_iff (unique : Unique key free slots) (proper : k ≠ free) :
    find key slots k = some i ↔ key (slots i) = k := by
  refine ⟨key_of_find, fun there => ?_⟩
  obtain ⟨j, found⟩ := exists_find there
  have same : j = i := unique j i ((key_of_find found).trans there.symm) (by rwa [key_of_find found])
  rw [found, same]

omit [DecidableEq κ] in
theorem Unique.update (unique : Unique key free slots) (absent : ∀ j, j ≠ i → key (slots j) = key e → key e = free) :
    Unique key free (Function.update slots i e) := by
  intro a b same proper
  rcases eq_or_ne a i with rfl | other
  · rcases eq_or_ne b a with rfl | apart
    · rfl
    · rw [Function.update_self, Function.update_of_ne apart] at same
      rw [Function.update_self] at proper
      exact absurd (absent b apart same.symm) proper
  · rw [Function.update_of_ne other] at same proper
    rcases eq_or_ne b i with rfl | apart
    · rw [Function.update_self] at same
      exact absurd (same.trans (absent a other same)) proper
    · rw [Function.update_of_ne apart] at same
      exact unique a b same proper

/-- What is found after a slot is overwritten: a key other than the new one is lost only if the
slot had it. -/
theorem Unique.find_update_of_ne (unique : Unique key free slots) (proper : k ≠ free) (other : key e ≠ k) :
    find key (Function.update slots i e) k = if key (slots i) = k then none else find key slots k := by
  split
  · rename_i had
    refine find_eq_none_iff.mpr fun j there => ?_
    rcases eq_or_ne j i with rfl | apart
    · rw [Function.update_self] at there
      exact other there
    · rw [Function.update_of_ne apart] at there
      exact apart (unique j i (there.trans had.symm) (by rwa [there]))
  · rename_i had
    unfold find
    congr 1
    funext j
    rcases eq_or_ne j i with rfl | apart
    · rw [Function.update_self, decide_eq_false other, decide_eq_false had]
    · rw [Function.update_of_ne apart]

/-! ### What is in the slots -/

section Content

variable {α : Type u} {content : Fin n → Option α} {a b : α} {j : Fin n}

/-- The content of the slots that are not empty, in their order. -/
def occupied (content : Fin n → Option α) : List α := (List.finRange n).filterMap content

theorem mem_occupied : a ∈ occupied content ↔ ∃ i, content i = some a := by
  simp only [occupied, List.mem_filterMap, List.mem_finRange, true_and]

theorem occupied_update_some (empty : content i = none) (a : α) :
    (occupied (Function.update content i (some a))).Perm (a :: occupied content) := by
  obtain ⟨before, after, split⟩ := List.append_of_mem (List.mem_finRange i)
  have distinct := List.nodup_finRange n
  rw [split] at distinct
  obtain ⟨_, behind, apart⟩ := List.nodup_append.mp distinct
  have unchanged (l : List (Fin n)) (absent : i ∉ l) :
      l.filterMap (Function.update content i (some a)) = l.filterMap content :=
    List.filterMap_congr fun j member => Function.update_of_ne (fun equal : j = i => absent (equal ▸ member)) _ _
  have left : i ∉ before := fun member => apart i member i List.mem_cons_self rfl
  unfold occupied
  rw [split, List.filterMap_append, List.filterMap_append, unchanged before left,
    List.filterMap_cons_some (by rw [Function.update_self]), List.filterMap_cons_none empty,
    unchanged after (List.nodup_cons.mp behind).1]
  exact List.perm_middle

theorem occupied_update_none (full : content i = some a) :
    (occupied content).Perm (a :: occupied (Function.update content i none)) := by
  have empty : Function.update content i none i = none := Function.update_self ..
  have back := occupied_update_some empty a
  rw [Function.update_idem, ← full, Function.update_eq_self] at back
  exact back

/-- A table that has not as many elements as slots has an empty one. -/
theorem exists_empty [DecidableEq α] (short : (occupied content).length < n) : ∃ i, find id content none = some i := by
  cases found : find id content none with
  | some i => exact ⟨i, rfl⟩
  | none =>
    have full := find_eq_none_iff.mp found
    have all : (List.finRange n).countP (fun i => (content i).isSome) = (List.finRange n).length :=
      List.countP_eq_length.mpr fun i _ => Option.isSome_iff_ne_none.mpr (full i)
    rw [occupied, List.length_filterMap_eq_countP, all, List.length_finRange] at short
    exact absurd short (Nat.lt_irrefl n)

end Content

end Slots
