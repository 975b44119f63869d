import Mathlib.Data.List.Basic

/-! Machines that answer every input, and machines that answer alike. -/

universe u v w x

namespace Simulation

variable {σ : Type u} {τ : Type v} {ι : Type w} {ο : Type x}

/-- The answers of a machine to a sequence of inputs. -/
def outputs (step : σ → ι → ο × σ) : σ → List ι → List ο
  | _, [] => []
  | s, i :: rest => (step s i).1 :: outputs step (step s i).2 rest

/-- The state of a machine after a sequence of inputs. -/
def final (step : σ → ι → ο × σ) (s : σ) (inputs : List ι) : σ := inputs.foldl (fun s i => (step s i).2) s

variable {step : σ → ι → ο × σ} {step' : τ → ι → ο × τ} {Rel : σ → τ → Prop} {s : σ} {t : τ}

/-- Related states answer alike and stay related. -/
def Simulates (step : σ → ι → ο × σ) (step' : τ → ι → ο × τ) (Rel : σ → τ → Prop) : Prop :=
  ∀ s t i, Rel s t → (step s i).1 = (step' t i).1 ∧ Rel (step s i).2 (step' t i).2

theorem Simulates.final (simulates : Simulates step step' Rel) (related : Rel s t) (inputs : List ι) :
    Rel (final step s inputs) (Simulation.final step' t inputs) := by
  induction inputs generalizing s t with
  | nil => exact related
  | cons i rest ih => exact ih (simulates s t i related).2

theorem Simulates.outputs_eq (simulates : Simulates step step' Rel) (related : Rel s t) (inputs : List ι) :
    outputs step s inputs = outputs step' t inputs := by
  induction inputs generalizing s t with
  | nil => simp only [outputs]
  | cons i rest ih =>
    obtain ⟨answer, next⟩ := simulates s t i related
    simp only [outputs, answer, ih next]

end Simulation
