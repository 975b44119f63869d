import Mathlib.Algebra.Group.Int.Defs
import Mathlib.Algebra.Group.Nat.Defs
import Mathlib.Data.List.Basic

/-! Computations that may run for ever and leave a trace of what they do. -/

universe u

/-- The events of a computation and its result; `none` if it has not returned. -/
@[ext] structure Traced (ε : Type u) (α : Type u) where
  events : List ε
  result : Option α
deriving DecidableEq

namespace Traced

variable {ε α β σ ρ : Type u}

@[simps] def emit (e : ε) (a : α) : Traced ε α := ⟨[e], some a⟩

/-- A computation that does not return. -/
@[simps] def running : Traced ε α := ⟨[], none⟩

protected def bind (t : Traced ε α) (f : α → Traced ε β) : Traced ε β :=
  match t.result with
  | none => ⟨t.events, none⟩
  | some a => ⟨t.events ++ (f a).events, (f a).result⟩

instance : Monad (Traced ε) where
  pure a := ⟨[], some a⟩
  bind := Traced.bind

@[simp] theorem events_pure (a : α) : (pure a : Traced ε α).events = [] := rfl

@[simp] theorem result_pure (a : α) : (pure a : Traced ε α).result = some a := rfl

variable {t : Traced ε α} {f : α → Traced ε β} {a : α} {b : β}

theorem bind_of_result (returned : t.result = some a) : t >>= f = ⟨t.events ++ (f a).events, (f a).result⟩ := by
  change Traced.bind t f = _
  rw [Traced.bind, returned]

theorem bind_of_running (runs : t.result = none) : t >>= f = ⟨t.events, none⟩ := by
  change Traced.bind t f = _
  rw [Traced.bind, runs]

theorem result_bind : (t >>= f).result = t.result.bind (fun a => (f a).result) := by
  cases returned : t.result with
  | none => rw [bind_of_running returned]; rfl
  | some a => rw [bind_of_result returned]; rfl

instance : LawfulMonad (Traced ε) := LawfulMonad.mk' (Traced ε)
  (fun t => by
    change t >>= pure = t
    cases returned : t.result with
    | none => rw [bind_of_running returned, ← returned]
    | some a => rw [bind_of_result returned, events_pure, List.append_nil, result_pure, ← returned])
  (fun _ _ => rfl)
  (fun t f g => by
    cases returned : t.result with
    | none =>
      rw [bind_of_running returned, bind_of_running returned]
      exact bind_of_running rfl
    | some a =>
      rw [bind_of_result returned, bind_of_result returned]
      cases next : (f a).result with
      | none =>
        rw [bind_of_running next]
        exact bind_of_running rfl
      | some b =>
        rw [bind_of_result next]
        exact (bind_of_result rfl).trans (by rw [List.append_assoc]))

theorem emit_bind (e : ε) (a : α) (f : α → Traced ε β) : emit e a >>= f = emit e a >>= fun _ => f a := rfl

theorem result_bind_eq_some : (t >>= f).result = some b ↔ ∃ a, t.result = some a ∧ (f a).result = some b := by
  rw [result_bind, Option.bind_eq_some_iff]

theorem mem_events_bind {e : ε} :
    e ∈ (t >>= f).events ↔ e ∈ t.events ∨ ∃ a, t.result = some a ∧ e ∈ (f a).events := by
  cases returned : t.result with
  | none =>
    rw [bind_of_running returned]
    simp
  | some a =>
    rw [bind_of_result returned]
    simp

/-- Every event satisfies a condition. -/
def All (P : ε → Prop) (t : Traced ε α) : Prop := ∀ e ∈ t.events, P e

theorem all_bind {P : ε → Prop} : (t >>= f).All P ↔ t.All P ∧ ∀ a, t.result = some a → (f a).All P := by
  constructor
  · intro all
    exact ⟨fun e member => all e (mem_events_bind.mpr (.inl member)),
      fun a returned e member => all e (mem_events_bind.mpr (.inr ⟨a, returned, member⟩))⟩
  · rintro ⟨first, later⟩ e member
    rcases mem_events_bind.mp member with before | ⟨a, returned, after⟩
    · exact first e before
    · exact later a returned e after

@[simp] theorem all_pure {P : ε → Prop} (a : α) : (pure a : Traced ε α).All P := fun _ member => absurd member List.not_mem_nil

@[simp] theorem all_running {P : ε → Prop} : (running : Traced ε α).All P := fun _ member => absurd member List.not_mem_nil

@[simp] theorem all_emit {P : ε → Prop} {e : ε} : (emit e a).All P ↔ P e := by simp [All]

/-- Every event satisfies a condition, and so does the result if there is one. -/
structure Ensures (P : ε → Prop) (Q : α → Prop) (t : Traced ε α) : Prop where
  all : t.All P
  returns : ∀ a, t.result = some a → Q a

variable {P : ε → Prop} {Q : β → Prop} {R : α → Prop}

theorem ensures_bind : (t >>= f).Ensures P Q ↔ t.Ensures P fun a => (f a).Ensures P Q := by
  constructor
  · rintro ⟨all, returns⟩
    rw [all_bind] at all
    exact ⟨all.1, fun a returned => ⟨all.2 a returned, fun b later => returns b (result_bind_eq_some.mpr ⟨a, returned, later⟩)⟩⟩
  · rintro ⟨all, returns⟩
    refine ⟨all_bind.mpr ⟨all, fun a returned => (returns a returned).all⟩, fun b returned => ?_⟩
    obtain ⟨a, first, later⟩ := result_bind_eq_some.mp returned
    exact (returns a first).returns b later

@[simp] theorem ensures_pure : (pure a : Traced ε α).Ensures P R ↔ R a :=
  ⟨fun ensures => ensures.returns a rfl, fun holds => ⟨all_pure a, fun _ returned => Option.some.inj returned ▸ holds⟩⟩

@[simp] theorem ensures_running : (running : Traced ε α).Ensures P R := ⟨all_running, fun _ returned => nomatch returned⟩

@[simp] theorem ensures_emit {e : ε} : (emit e a).Ensures P R ↔ P e ∧ R a :=
  ⟨fun ensures => ⟨all_emit.mp ensures.all, ensures.returns a rfl⟩,
    fun holds => ⟨all_emit.mpr holds.1, fun _ returned => Option.some.inj returned ▸ holds.2⟩⟩

theorem ensures_congr {R' : α → Prop} (same : ∀ a, R a ↔ R' a) : t.Ensures P R ↔ t.Ensures P R' :=
  ⟨fun ensures => ⟨ensures.all, fun a returned => (same a).mp (ensures.returns a returned)⟩,
    fun ensures => ⟨ensures.all, fun a returned => (same a).mpr (ensures.returns a returned)⟩⟩

/-! ### Loops -/

/-- At most `fuel` rounds of a loop. A round ends with the state of the next one or with the
result of the loop. -/
def loop (round : σ → Traced ε (σ ⊕ ρ)) : Nat → σ → Traced ε ρ
  | 0, _ => running
  | fuel + 1, s => do
    match ← round s with
    | .inl s' => loop round fuel s'
    | .inr r => pure r

theorem loop_succ (round : σ → Traced ε (σ ⊕ ρ)) (fuel : Nat) (s : σ) : loop round (fuel + 1) s =
    round s >>= fun next => match next with
      | .inl s' => loop round fuel s'
      | .inr r => pure r := rfl

end Traced
