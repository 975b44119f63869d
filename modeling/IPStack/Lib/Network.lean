import IPStack.Lib.Reach
import Mathlib.Logic.Function.Basic

/-! Nodes that send messages to each other. The messages may be lost, repeated and reordered:
whatever has been sent can arrive, at any time and any number of times. -/

universe u v w x

/-- The nodes, and everything that has been sent so far. -/
structure Network (ι : Type u) (σ : ι → Type v) (μ : Type w) where
  node : ∀ i, σ i
  sent : List μ

/-- How the nodes behave: what an event makes of a node, the messages it sends, and the message
that it receives if the event is an arrival. -/
structure Protocol (ι : Type u) (σ : ι → Type v) (α : ι → Type x) (μ : Type w) where
  handle : ∀ i, σ i → α i → σ i × List μ
  hears : ∀ i, α i → Option μ

namespace Protocol

variable {ι : Type u} {σ : ι → Type v} {α : ι → Type x} {μ : Type w} [DecidableEq ι]

/-- One node acts. -/
def step (p : Protocol ι σ α μ) (net : Network ι σ μ) (e : Σ i, α i) : Network ι σ μ :=
  ⟨Function.update net.node e.1 (p.handle e.1 (net.node e.1) e.2).1, net.sent ++ (p.handle e.1 (net.node e.1) e.2).2⟩

/-- What arrives has been sent; and the event is one that the node can take. -/
def allowed (p : Protocol ι σ α μ) (ok : ∀ i, σ i → α i → Prop) (net : Network ι σ μ) (e : Σ i, α i) : Prop :=
  ok e.1 (net.node e.1) e.2 ∧ ∀ m ∈ p.hears e.1 e.2, m ∈ net.sent

instance [DecidableEq μ] (p : Protocol ι σ α μ) (ok : ∀ i, σ i → α i → Prop) [∀ i s a, Decidable (ok i s a)]
    (net : Network ι σ μ) (e : Σ i, α i) : Decidable (p.allowed ok net e) := inferInstanceAs (Decidable (_ ∧ _))

variable {p : Protocol ι σ α μ} {net init : Network ι σ μ} {ok : ∀ i, σ i → α i → Prop}

theorem sent_step (p : Protocol ι σ α μ) (net : Network ι σ μ) (e : Σ i, α i) : net.sent <+: (p.step net e).sent :=
  List.prefix_append _ _

theorem node_step_self (p : Protocol ι σ α μ) (net : Network ι σ μ) (i : ι) (a : α i) :
    (p.step net ⟨i, a⟩).node i = (p.handle i (net.node i) a).1 := Function.update_self ..

theorem node_step_other {i j : ι} (other : j ≠ i) (a : α i) : (p.step net ⟨i, a⟩).node j = net.node j :=
  Function.update_of_ne other ..

/-- A property of the nodes one by one and a property of the messages: each node keeps its own
as long as the messages it receives have theirs, and sends such messages only. -/
theorem sound (Inv : ∀ i, σ i → Prop) (Good : μ → Prop)
    (preserved : ∀ i s a, Inv i s → ok i s a → (∀ m ∈ p.hears i a, Good m) →
      Inv i (p.handle i s a).1 ∧ ∀ m ∈ (p.handle i s a).2, Good m)
    (base : ∀ i, Inv i (init.node i)) (silent : ∀ m ∈ init.sent, Good m)
    (reach : Transition.Reach p.step (p.allowed ok) init net) : (∀ i, Inv i (net.node i)) ∧ ∀ m ∈ net.sent, Good m := by
  refine reach.invariant (fun net => (∀ i, Inv i (net.node i)) ∧ ∀ m ∈ net.sent, Good m) ⟨base, silent⟩ ?_
  rintro net ⟨i, a⟩ ⟨inv, good⟩ ⟨able, arrived⟩
  obtain ⟨next, sends⟩ := preserved i (net.node i) a (inv i) able fun m hears => good m (arrived m hears)
  constructor
  · intro j
    by_cases same : j = i
    · subst same
      rw [node_step_self]
      exact next
    · rw [node_step_other same]
      exact inv j
  · intro m member
    rcases List.mem_append.mp member with old | new
    · exact good m old
    · exact sends m new

end Protocol
