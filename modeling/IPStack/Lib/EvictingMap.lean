import Mathlib.Data.List.Basic
import Mathlib.Logic.Function.Basic

/-! Partial maps that may lose a binding when they take a new one. -/

universe u v

namespace EvictingMap

variable {κ : Type u} {ν : Type v} [DecidableEq κ]

/-- The map without the binding of the victim, if there is one. -/
def evict (m : κ → Option ν) (victim : Option κ) : κ → Option ν := fun k => if victim = some k then none else m k

/-- What happens to a map. -/
inductive Event (κ : Type u) (ν : Type v)
  | stored (k : κ) (v : ν)
  | answered (k : κ) (v : Option ν)
  | cleared

/-- A binding that is stored may evict one other; an answer is the binding of the key. -/
inductive Step : (κ → Option ν) → Event κ ν → (κ → Option ν) → Prop
  | stored {m : κ → Option ν} (k : κ) (v : ν) (victim : Option κ) :
      Step m (.stored k v) (Function.update (evict m victim) k (some v))
  | answered {m : κ → Option ν} (k : κ) : Step m (.answered k (m k)) m
  | cleared {m : κ → Option ν} : Step m .cleared fun _ => none

/-- The maps reached by a sequence of events. -/
inductive Run : (κ → Option ν) → List (Event κ ν) → (κ → Option ν) → Prop
  | done {m : κ → Option ν} : Run m [] m
  | step {m m' m'' : κ → Option ν} {e : Event κ ν} {rest : List (Event κ ν)} :
      Step m e m' → Run m' rest m'' → Run m (e :: rest) m''

variable {m m' m'' : κ → Option ν} {first rest : List (Event κ ν)}

theorem Run.append (before : Run m first m') (after : Run m' rest m'') : Run m (first ++ rest) m'' := by
  induction before with
  | done => exact after
  | step one _ ih => exact .step one (ih after)

end EvictingMap
