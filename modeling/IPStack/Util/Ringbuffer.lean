import IPStack.Lib.BoundedQueue
import IPStack.Lib.Simulation

/-! The ring buffer of pointers, and the queue it stands for. -/

universe u

namespace IPStack

/-- `BUFFERSIZE`: the template size, limited to 2..255. -/
def bufferSize (tBUFFERSIZE : Nat) : Nat :=
  if tBUFFERSIZE < 2 then 2 else if 255 < tBUFFERSIZE then 255 else tBUFFERSIZE

theorem two_le_bufferSize (n : Nat) : 2 ≤ bufferSize n := by
  unfold bufferSize
  split
  · omega
  · split <;> omega

theorem bufferSize_le (n : Nat) : bufferSize n ≤ 255 := by
  unfold bufferSize
  split
  · omega
  · split <;> omega

/-- `BasicRingbuffer`, a buffer of pointers to `α` with `none` for the null pointer. -/
structure BasicRingbuffer (α : Type u) (tBUFFERSIZE : Nat) where
  buffer : Vector (Option α) (bufferSize tBUFFERSIZE)
  inpos : BitVec 8
  outpos : BitVec 8
  inpos_lt : inpos.toNat < bufferSize tBUFFERSIZE
  outpos_lt : outpos.toNat < bufferSize tBUFFERSIZE

namespace BasicRingbuffer

variable {α : Type u} {n : Nat}

/-- `(pos + 1) % BUFFERSIZE`, computed as an `int`. -/
def next (n : Nat) (pos : BitVec 8) : Nat := (pos.toNat + 1) % bufferSize n

theorem next_lt (pos : BitVec 8) : next n pos < bufferSize n := Nat.mod_lt _ (by have := two_le_bufferSize n; omega)

/-- What is stored in a `uint8_t` is the position itself. -/
theorem toNat_next (pos : BitVec 8) : (BitVec.ofNat 8 (next n pos)).toNat = next n pos := by
  have below := next_lt (n := n) pos
  have bound := bufferSize_le n
  rw [BitVec.toNat_ofNat, Nat.mod_eq_of_lt (by omega)]

theorem stored_lt (pos : BitVec 8) : (BitVec.ofNat 8 (next n pos)).toNat < bufferSize n := by
  rw [toNat_next]
  exact next_lt pos

/-- The constructor; it leaves the buffer as the memory was. -/
def new (memory : Vector (Option α) (bufferSize n)) : BasicRingbuffer α n where
  buffer := memory
  inpos := 0#8
  outpos := 0#8
  inpos_lt := Nat.lt_of_lt_of_le Nat.zero_lt_two (two_le_bufferSize n)
  outpos_lt := Nat.lt_of_lt_of_le Nat.zero_lt_two (two_le_bufferSize n)

def put (r : BasicRingbuffer α n) (val : Option α) : BasicRingbuffer α n :=
  if next n r.inpos ≠ r.outpos.toNat then
    { r with
      buffer := r.buffer.set r.inpos.toNat val r.inpos_lt
      inpos := BitVec.ofNat 8 (next n r.inpos)
      inpos_lt := stored_lt r.inpos }
  else r

def get (r : BasicRingbuffer α n) : Option α × BasicRingbuffer α n :=
  if r.outpos ≠ r.inpos then
    (r.buffer.get ⟨r.outpos.toNat, r.outpos_lt⟩,
      { r with
        outpos := BitVec.ofNat 8 (next n r.outpos)
        outpos_lt := stored_lt r.outpos })
  else (none, r)

def isFull (r : BasicRingbuffer α n) : Bool := if next n r.inpos ≠ r.outpos.toNat then false else true

/-- A call on the buffer; what is put is a pointer to something. -/
def step (r : BasicRingbuffer α n) : QueueCall α → QueueAnswer α × BasicRingbuffer α n
  | .put val => (.done, r.put (some val))
  | .get => (.element r.get.1, r.get.2)
  | .isFull => (.full r.isFull, r)

/-! ### The queue in the buffer -/

def cell (r : BasicRingbuffer α n) (i : Nat) : Option α := (r.buffer[i]?).join

/-- The elements of the queue lie from `outpos` up to `inpos`. -/
structure Holds (r : BasicRingbuffer α n) (q : BoundedQueue α (bufferSize n - 1)) : Prop where
  window : Circular.window r.cell (bufferSize n) r.outpos.toNat q.elements.length = q.elements.map some
  inpos : (r.outpos.toNat + q.elements.length) % bufferSize n = r.inpos.toNat

variable {r : BasicRingbuffer α n} {q : BoundedQueue α (bufferSize n - 1)}

theorem Holds.length_lt (_ : r.Holds q) : q.elements.length < bufferSize n := by
  have bound := q.length_le
  have positive := two_le_bufferSize n
  omega

theorem new_holds (memory : Vector (Option α) (bufferSize n)) : (new memory).Holds .empty := by
  refine ⟨by simp only [BoundedQueue.empty, List.length_nil, Circular.window, List.map_nil], ?_⟩
  simp only [BoundedQueue.empty, List.length_nil, new, BitVec.toNat_zero, Nat.add_zero, Nat.zero_mod]

theorem Holds.full_iff (holds : r.Holds q) : next n r.inpos = r.outpos.toNat ↔ q.elements.length = bufferSize n - 1 := by
  have positive := two_le_bufferSize n
  have wraps := Circular.succ_mod_eq_self_iff r.outpos_lt holds.length_lt
  rw [next, ← holds.inpos, Nat.mod_add_mod, wraps]
  omega

theorem Holds.isFull (holds : r.Holds q) : r.isFull = q.isFull := by
  unfold BasicRingbuffer.isFull BoundedQueue.isFull
  by_cases full : next n r.inpos = r.outpos.toNat
  · rw [if_neg (not_not.mpr full), decide_eq_true (holds.full_iff.mp full)]
  · rw [if_pos full, decide_eq_false (mt holds.full_iff.mpr full)]

/-- The buffer is empty where its positions meet. -/
theorem Holds.empty_iff (holds : r.Holds q) : r.outpos = r.inpos ↔ q.elements.length = 0 := by
  rw [← Circular.add_mod_eq_self_iff r.outpos_lt holds.length_lt, holds.inpos, BitVec.toNat_inj]
  exact eq_comm

theorem cell_put (r : BasicRingbuffer α n) (room : next n r.inpos ≠ r.outpos.toNat) (val : Option α) (i : Nat) :
    (r.put val).cell i = if r.inpos.toNat = i then val else r.cell i := by
  unfold put cell
  rw [if_pos room]
  dsimp only
  rw [Vector.getElem?_set]
  split
  · simp
  · simp only

theorem Holds.put (holds : r.Holds q) (val : α) : (r.put (some val)).Holds (q.put val) := by
  have short := holds.length_lt
  by_cases full : next n r.inpos = r.outpos.toNat
  · have whole := holds.full_iff.mp full
    rw [BasicRingbuffer.put, if_neg (not_not.mpr full), BoundedQueue.put, dif_neg (by omega)]
    exact holds
  · have partly := mt holds.full_iff.mpr full
    have room : q.elements.length < bufferSize n - 1 := by
      have := q.length_le
      omega
    have elements : (q.put val).elements = q.elements ++ [val] := by rw [BoundedQueue.put, dif_pos room]
    have outpos : (r.put (some val)).outpos = r.outpos := by rw [BasicRingbuffer.put, if_pos full]
    have inpos : (r.put (some val)).inpos.toNat = next n r.inpos := by
      rw [BasicRingbuffer.put, if_pos full]
      exact toNat_next r.inpos
    refine ⟨?_, ?_⟩
    · rw [elements, outpos, List.length_append, List.length_singleton, Circular.window, List.map_append, ← holds.window,
        holds.inpos, cell_put r full, if_pos rfl, List.map_singleton]
      congr 1
      refine Circular.window_congr fun k before => ?_
      rw [cell_put r full, if_neg]
      rw [← holds.inpos]
      exact (Circular.add_mod_ne before short).symm
    · rw [elements, outpos, inpos, List.length_append, List.length_singleton, next, ← holds.inpos, Nat.mod_add_mod,
        Nat.add_assoc]

theorem Holds.get (holds : r.Holds q) : r.get.1 = q.get.1 ∧ r.get.2.Holds q.get.2 := by
  obtain ⟨elements, bound⟩ := q
  have window := holds.window
  have inpos := holds.inpos
  cases elements with
  | nil =>
    have empty : r.outpos = r.inpos := holds.empty_iff.mpr List.length_nil
    rw [BasicRingbuffer.get, if_neg (not_not.mpr empty)]
    exact ⟨List.head?_nil.symm, window, inpos⟩
  | cons a rest =>
    have some_left : r.outpos ≠ r.inpos := by
      intro empty
      have none_left := holds.empty_iff.mp empty
      simp only [List.length_cons] at none_left
      omega
    simp only [List.length_cons, Circular.window_succ r.outpos_lt, List.map_cons, List.cons.injEq] at window inpos
    rw [BasicRingbuffer.get, if_pos some_left, BoundedQueue.get]
    refine ⟨?_, ?_, ?_⟩
    · have oldest := window.1
      rw [cell, Vector.getElem?_eq_getElem r.outpos_lt, Option.join_some] at oldest
      exact oldest
    · rw [toNat_next]
      exact window.2
    · dsimp only
      rw [toNat_next, next, Nat.mod_add_mod, List.tail_cons, ← inpos]
      congr 1
      omega

theorem holds_simulates : Simulation.Simulates (step (α := α) (n := n)) BoundedQueue.step Holds := by
  intro r q call holds
  cases call with
  | put val => exact ⟨by simp only [step, BoundedQueue.step], holds.put val⟩
  | get => exact ⟨by simp only [step, BoundedQueue.step, holds.get.1], holds.get.2⟩
  | isFull => exact ⟨by simp only [step, BoundedQueue.step, holds.isFull], holds⟩

/-- A ring buffer answers as a queue of one element less than the buffer has cells, whatever was
in the memory it is made in. -/
theorem refines_queue (tBUFFERSIZE : Nat) (memory : Vector (Option α) (bufferSize tBUFFERSIZE)) (calls : List (QueueCall α)) :
    (2 ≤ bufferSize tBUFFERSIZE ∧ bufferSize tBUFFERSIZE ≤ 255) ∧
    Simulation.outputs step (new memory) calls =
      Simulation.outputs BoundedQueue.step (.empty : BoundedQueue α (bufferSize tBUFFERSIZE - 1)) calls ∧
    ((Simulation.final step (new memory) calls).isFull = true ↔
      (Simulation.final BoundedQueue.step (.empty : BoundedQueue α (bufferSize tBUFFERSIZE - 1)) calls).elements.length =
        bufferSize tBUFFERSIZE - 1) := by
  have holds := new_holds memory
  refine ⟨⟨two_le_bufferSize _, bufferSize_le _⟩, holds_simulates.outputs_eq holds calls, ?_⟩
  rw [(holds_simulates.final holds calls).isFull, BoundedQueue.isFull, decide_eq_true_iff]

end BasicRingbuffer

end IPStack
