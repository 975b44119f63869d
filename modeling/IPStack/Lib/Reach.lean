import Mathlib.Algebra.Group.Int.Defs
import Mathlib.Algebra.Group.Nat.Defs
import Mathlib.Data.List.Basic

/-! Runs of a deterministic step function whose steps all meet a condition. -/

namespace Transition

variable {σ α : Type*}

/-- The states reached from `init` by steps that meet `ok`, a condition on the state
before the step and on the step's input. -/
inductive Reach (step : σ → α → σ) (ok : σ → α → Prop) (init : σ) : σ → Prop
  | start : Reach step ok init init
  | next {s : σ} {a : α} : Reach step ok init s → ok s a → Reach step ok init (step s a)

variable {step : σ → α → σ} {ok ok' : σ → α → Prop} {init s : σ}

theorem Reach.invariant (reach : Reach step ok init s) (Inv : σ → Prop) (base : Inv init)
    (preserved : ∀ s a, Inv s → ok s a → Inv (step s a)) : Inv s := by
  induction reach with
  | start => exact base
  | next _ allowed ih => exact preserved _ _ ih allowed

theorem Reach.mono (reach : Reach step ok init s) (weaker : ∀ s a, ok s a → ok' s a) :
    Reach step ok' init s := by
  induction reach with
  | start => exact .start
  | next _ allowed ih => exact .next ih (weaker _ _ allowed)

theorem Reach.trans {t : σ} (first : Reach step ok init s) (rest : Reach step ok s t) : Reach step ok init t := by
  induction rest with
  | start => exact first
  | next _ allowed ih => exact ih.next allowed

/-- The condition holds at every step of a run over a list of inputs. -/
def Follows (step : σ → α → σ) (ok : σ → α → Prop) : σ → List α → Prop
  | _, [] => True
  | s, a :: rest => ok s a ∧ Follows step ok (step s a) rest

instance Follows.decidable [∀ s a, Decidable (ok s a)] : (s : σ) → (inputs : List α) → Decidable (Follows step ok s inputs)
  | _, [] => inferInstanceAs (Decidable True)
  | s, a :: rest => @instDecidableAnd _ _ _ (Follows.decidable (step s a) rest)

theorem Reach.foldl {inputs : List α} (reach : Reach step ok init s) (follows : Follows step ok s inputs) :
    Reach step ok init (inputs.foldl step s) := by
  induction inputs generalizing s with
  | nil => exact reach
  | cons a rest ih => exact ih (reach.next follows.1) follows.2

theorem Follows.last {inputs : List α} {a : α} (follows : Follows step ok s (inputs ++ [a])) : ok (inputs.foldl step s) a := by
  induction inputs generalizing s with
  | nil => exact follows.1
  | cons b rest ih => exact ih follows.2

/-- A condition on the inputs alone can be added to the condition on the steps. -/
theorem Follows.and {inputs : List α} (follows : Follows step ok s inputs) {allowed : α → Prop}
    (all : ∀ a ∈ inputs, allowed a) : Follows step (fun s a => allowed a ∧ ok s a) s inputs := by
  induction inputs generalizing s with
  | nil => trivial
  | cons a rest ih =>
    exact ⟨⟨all a (List.mem_cons_self ..), follows.1⟩, ih follows.2 (fun b member => all b (List.mem_cons_of_mem _ member))⟩

theorem Follows.mono {inputs : List α} (follows : Follows step ok s inputs) (weaker : ∀ s a, ok s a → ok' s a) :
    Follows step ok' s inputs := by
  induction inputs generalizing s with
  | nil => trivial
  | cons a rest ih => exact ⟨weaker _ _ follows.1, ih follows.2⟩

theorem Follows.of_forall (always : ∀ s a, ok s a) (s : σ) (inputs : List α) : Follows step ok s inputs := by
  induction inputs generalizing s with
  | nil => trivial
  | cons a rest ih => exact ⟨always s a, ih _⟩

/-- A run whose steps all meet a condition that keeps an invariant. -/
theorem Follows.forall_prefix_and {Inv : σ → Prop} {P : σ → α → Prop}
    (preserved : ∀ s a, Inv s → ok s a → P s a ∧ Inv (step s a)) (base : Inv s) {inputs : List α}
    (follows : Follows step ok s inputs) : Follows step P s inputs ∧ ∀ l, l <+: inputs → Inv (l.foldl step s) := by
  induction inputs generalizing s with
  | nil => exact ⟨trivial, fun _ shorter => List.prefix_nil.mp shorter ▸ base⟩
  | cons a rest ih =>
    obtain ⟨first, next⟩ := preserved s a base follows.1
    obtain ⟨later, always⟩ := ih next follows.2
    refine ⟨⟨first, later⟩, fun l shorter => ?_⟩
    cases l with
    | nil => exact base
    | cons b l =>
      obtain ⟨rfl, behind⟩ := List.cons_prefix_cons.mp shorter
      exact always l behind

/-- Where a condition says exactly which steps have a property and keep an invariant, the steps
of a run meet it if and only if all its steps have the property and all its states the
invariant. -/
theorem Follows.iff_forall_prefix_and {Inv : σ → Prop} {P : σ → α → Prop}
    (exact : ∀ s a, Inv s → (P s a ∧ Inv (step s a) ↔ ok s a)) (base : Inv s) (inputs : List α) :
    Follows step P s inputs ∧ (∀ l, l <+: inputs → Inv (l.foldl step s)) ↔ Follows step ok s inputs := by
  refine ⟨fun kept => ?_, fun follows => follows.forall_prefix_and (fun s a inv => (exact s a inv).mpr) base⟩
  induction inputs generalizing s with
  | nil => trivial
  | cons a rest ih =>
    obtain ⟨⟨first, later⟩, always⟩ := kept
    have next : Inv (step s a) := always [a] (List.cons_prefix_cons.mpr ⟨rfl, List.nil_prefix⟩)
    exact ⟨(exact s a base).mp ⟨first, next⟩,
      ih next ⟨later, fun l shorter => always (a :: l) (List.cons_prefix_cons.mpr ⟨rfl, shorter⟩)⟩⟩

/-- Where a condition says exactly which steps keep an invariant, the steps of a run meet it
if and only if the invariant holds in all its states. -/
theorem Follows.iff_forall_prefix {Inv : σ → Prop} (exact : ∀ s a, Inv s → (Inv (step s a) ↔ ok s a)) (base : Inv s)
    (inputs : List α) : (∀ l, l <+: inputs → Inv (l.foldl step s)) ↔ Follows step ok s inputs := by
  have both := Follows.iff_forall_prefix_and (P := fun _ _ => True)
    (fun s a inv => (and_iff_right trivial).trans (exact s a inv)) base inputs
  exact (and_iff_right (.of_forall (fun _ _ => trivial) s inputs)).symm.trans both

end Transition
