import Mathlib.Data.List.Basic

/-! Queues of bounded capacity, and lists laid out in a circular array. -/

universe u

/-- A first-in first-out queue of at most `capacity` elements. -/
structure BoundedQueue (α : Type u) (capacity : Nat) where
  elements : List α
  length_le : elements.length ≤ capacity

/-- What is asked of a queue. -/
inductive QueueCall (α : Type u)
  | put (a : α)
  | get
  | isFull

/-- What a queue answers. -/
inductive QueueAnswer (α : Type u)
  | done
  | element (a : Option α)
  | full (b : Bool)
deriving DecidableEq

namespace BoundedQueue

variable {α : Type u} {capacity : Nat}

def empty : BoundedQueue α capacity := ⟨[], Nat.zero_le _⟩

def isFull (q : BoundedQueue α capacity) : Bool := decide (q.elements.length = capacity)

/-- A full queue ignores what is put into it. -/
def put (q : BoundedQueue α capacity) (a : α) : BoundedQueue α capacity :=
  if room : q.elements.length < capacity then ⟨q.elements ++ [a], by rwa [List.length_append, List.length_singleton]⟩
  else q

/-- The oldest element, if there is one, and the queue without it. -/
def get (q : BoundedQueue α capacity) : Option α × BoundedQueue α capacity :=
  (q.elements.head?, ⟨q.elements.tail, by
    have bound := q.length_le
    rw [List.length_tail]
    omega⟩)

def step (q : BoundedQueue α capacity) : QueueCall α → QueueAnswer α × BoundedQueue α capacity
  | .put a => (.done, q.put a)
  | .get => (.element q.get.1, q.get.2)
  | .isFull => (.full q.isFull, q)

end BoundedQueue

namespace Circular

variable {β : Type u} {cell cell' : Nat → β} {size start n k : Nat}

/-- The `n` cells of a circular array of `size` cells from `start` on. -/
def window (cell : Nat → β) (size start : Nat) : Nat → List β
  | 0 => []
  | n + 1 => window cell size start n ++ [cell ((start + n) % size)]

@[simp] theorem length_window : (window cell size start n).length = n := by
  induction n with
  | zero => simp only [window, List.length_nil]
  | succ n ih => simp only [window, List.length_append, ih, List.length_singleton]

theorem window_congr (same : ∀ k, k < n → cell' ((start + k) % size) = cell ((start + k) % size)) :
    window cell' size start n = window cell size start n := by
  induction n with
  | zero => simp only [window]
  | succ n ih => simp only [window, ih fun k below => same k (by omega), same n (by omega)]

/-- The first cell of a window, and the window behind it. -/
theorem window_succ (inside : start < size) :
    window cell size start (n + 1) = cell start :: window cell size ((start + 1) % size) n := by
  induction n with
  | zero => simp only [window, Nat.add_zero, Nat.mod_eq_of_lt inside, List.nil_append]
  | succ n ih =>
    rw [window, ih]
    have shift : (start + (n + 1)) % size = ((start + 1) % size + n) % size := by
      rw [Nat.mod_add_mod, Nat.add_assoc, Nat.add_comm 1 n]
    rw [shift, window, List.cons_append]

/-- A turn of less than the whole array does not come back to the start. -/
theorem add_mod_eq_self_iff (inside : start < size) (below : n < size) : (start + n) % size = start ↔ n = 0 := by
  rcases Nat.lt_or_ge (start + n) size with short | wraps
  · rw [Nat.mod_eq_of_lt short]
    omega
  · rw [Nat.mod_eq_sub_mod wraps, Nat.mod_eq_of_lt (by omega)]
    omega

theorem succ_mod_eq_self_iff (inside : start < size) (below : n < size) :
    (start + n + 1) % size = start ↔ n + 1 = size := by
  rcases Nat.lt_or_ge (n + 1) size with short | whole
  · rw [Nat.add_assoc, add_mod_eq_self_iff inside short]
    omega
  · have full : n + 1 = size := by omega
    rw [Nat.add_assoc, full, Nat.add_mod_right, Nat.mod_eq_of_lt inside]
    simp only

theorem add_mod_ne (before : k < n) (below : n < size) :
    (start + k) % size ≠ (start + n) % size := by
  intro equal
  have there : (start + k) % size < size := Nat.mod_lt _ (by omega)
  have turn : ((start + k) % size + (n - k)) % size = (start + k) % size := by
    rw [Nat.mod_add_mod, Nat.add_assoc, Nat.add_sub_of_le (Nat.le_of_lt before), equal]
  have none_left := (add_mod_eq_self_iff there (by omega)).mp turn
  omega

end Circular
