import Mathlib.Data.List.Nodup
import Mathlib.Logic.Function.Basic

/-! Singly linked lists through a pointer that every node has. Loops along the pointers have
fuel; a list without a cycle ends before it. -/

namespace Linked

variable {κ : Type*} {next next' : κ → Option κ} {head : Option κ} {l l' : List κ} {k : κ}

/-- The nodes from `head` on are those of the list, and the last one points nowhere. -/
inductive Chain (next : κ → Option κ) : Option κ → List κ → Prop
  | nil : Chain next none []
  | cons {k : κ} {l : List κ} : Chain next (next k) l → Chain next (some k) (k :: l)

theorem Chain.unique (chain : Chain next head l) (chain' : Chain next head l') : l = l' := by
  induction chain generalizing l' with
  | nil =>
    cases chain'
    rfl
  | cons _ ih =>
    cases chain' with
    | cons rest => rw [ih rest]

theorem Chain.congr (chain : Chain next head l) (same : ∀ k ∈ l, next' k = next k) : Chain next' head l := by
  induction chain with
  | nil => exact .nil
  | @cons k l _ ih =>
    refine .cons ?_
    rw [same k List.mem_cons_self]
    exact ih fun i member => same i (List.mem_cons_of_mem _ member)

/-- A chain up to a node that need not end. -/
theorem Chain.append_cons {before after : List κ} (chain : Chain next head (before ++ k :: after)) :
    Chain next (some k) (k :: after) := by
  induction before generalizing head with
  | nil =>
    cases chain with
    | cons rest => exact .cons rest
  | cons _ _ ih =>
    cases chain with
    | cons rest => exact ih rest

/-- What can be reached from its head ends, so no node comes twice. -/
theorem Chain.nodup (chain : Chain next head l) : l.Nodup := by
  induction chain with
  | nil => exact List.nodup_nil
  | @cons k l rest ih =>
    refine List.nodup_cons.mpr ⟨fun member => ?_, ih⟩
    obtain ⟨before, after, rfl⟩ := List.append_of_mem member
    have lengths := congrArg List.length ((Chain.cons rest).unique rest.append_cons)
    simp only [List.length_cons, List.length_append] at lengths
    omega

/-- A node that points to itself is on no list that ends. -/
theorem Chain.not_self (loop : next k = some k) : ¬Chain next (some k) l := by
  intro chain
  cases chain with
  | cons rest => exact List.cons_ne_self _ _ ((Chain.cons rest).unique (loop ▸ rest))

section DecidableEq

variable [DecidableEq κ]

/-! ### Insertion at the front -/

theorem Chain.push (chain : Chain next head l) (absent : k ∉ l) :
    Chain (Function.update next k head) (some k) (k :: l) := by
  refine .cons ?_
  rw [Function.update_self]
  exact chain.congr fun i member => Function.update_of_ne (fun equal : i = k => absent (equal ▸ member)) _ _

/-- The other list does not see the insertion of a node it does not have. -/
theorem Chain.update (chain : Chain next head l) (absent : k ∉ l) (target : Option κ) :
    Chain (Function.update next k target) head l :=
  chain.congr fun i member => Function.update_of_ne (fun equal : i = k => absent (equal ▸ member)) _ _

/-- From the head of a list with `k` in it, the changed pointers lead to `k`. -/
theorem Chain.leads (chain : Chain next head l) (member : k ∈ l) {target : Option κ}
    (chain' : Chain (Function.update next k target) head l') : k ∈ l' := by
  induction chain generalizing l' with
  | nil => exact absurd member List.not_mem_nil
  | @cons i l _ ih =>
    cases chain' with
    | cons rest =>
      by_cases same : i = k
      · subst same
        exact List.mem_cons_self
      · rw [Function.update_of_ne same] at rest
        exact List.mem_cons_of_mem _ (ih ((List.mem_cons.mp member).resolve_left (Ne.symm same)) rest)

/-- A node that is inserted again closes a cycle. -/
theorem Chain.not_push (chain : Chain next head l) (member : k ∈ l) :
    ¬Chain (Function.update next k head) (some k) l' := by
  intro cycle
  cases cycle with
  | cons rest =>
    have once := (Chain.cons rest).nodup
    rw [Function.update_self] at rest
    exact (List.nodup_cons.mp once).1 (chain.leads member rest)

/-- Of two lists without a common node, one may take a node at its front if and only if the
node is in neither of them. -/
theorem Chain.push_iff {head' : Option κ} (chain : Chain next head l) (chain' : Chain next head' l') (apart : l.Disjoint l') :
    (∃ a b, Chain (Function.update next k head) (some k) a ∧ Chain (Function.update next k head) head' b ∧ a.Disjoint b) ↔
      k ∉ l ∧ k ∉ l' := by
  constructor
  · rintro ⟨a, b, first, second, apart⟩
    refine ⟨fun member => chain.not_push member first, fun member => ?_⟩
    have other := chain'.leads member second
    cases first with
    | cons rest => exact apart List.mem_cons_self other
  · rintro ⟨absent, absent'⟩
    exact ⟨k :: l, l', chain.push absent, chain'.update absent' _,
      List.disjoint_cons_left.mpr ⟨absent', apart⟩⟩

/-! ### Removal -/

/-- The search for the node before `k`, which is linked to the one behind `k` then. -/
def unlink (next : κ → Option κ) (k : κ) : Nat → κ → Option (κ → Option κ)
  | 0, _ => none
  | fuel + 1, current =>
    match next current with
    | none => some next
    | some i => if i = k then some (Function.update next current (next i)) else unlink next k fuel i

theorem Chain.unlink_absent {fuel : Nat} {current : κ} (chain : Chain next (some current) (current :: l))
    (enough : l.length < fuel) (absent : k ∉ l) : unlink next k fuel current = some next := by
  induction fuel generalizing current l with
  | zero => omega
  | succ fuel ih =>
    cases chain with
    | cons rest =>
      unfold unlink
      generalize link : next current = after at rest
      cases rest with
      | nil => rfl
      | @cons i l rest =>
        rw [List.length_cons] at enough
        dsimp only
        rw [if_neg fun same : i = k => absent (same ▸ List.mem_cons_self)]
        exact ih (.cons rest) (by omega) fun member => absent (List.mem_cons_of_mem _ member)

/-- The node is taken out, and no pointer of a node outside the list changes. -/
theorem Chain.unlink_member {fuel : Nat} {current : κ} (chain : Chain next (some current) (current :: l))
    (enough : l.length < fuel) (member : k ∈ l) : ∃ next', unlink next k fuel current = some next' ∧
      Chain next' (some current) (current :: l.erase k) ∧ ∀ i ∉ current :: l, next' i = next i := by
  induction fuel generalizing current l with
  | zero => omega
  | succ fuel ih =>
    have once := chain.nodup
    cases chain with
    | cons rest =>
      unfold unlink
      generalize link : next current = after at rest
      cases rest with
      | nil => exact absurd member List.not_mem_nil
      | @cons i l rest =>
        rw [List.length_cons] at enough
        dsimp only
        by_cases found : i = k
        · subst found
          rw [if_pos rfl]
          refine ⟨_, rfl, ?_, fun j outside => ?_⟩
          · rw [List.erase_cons_head]
            refine .cons ?_
            rw [Function.update_self]
            exact rest.update (fun among => (List.nodup_cons.mp once).1 (List.mem_cons_of_mem _ among)) _
          · exact Function.update_of_ne (fun equal : j = current => outside (equal ▸ List.mem_cons_self)) _ _
        · rw [if_neg found]
          obtain ⟨next', result, chain', same⟩ :=
            ih (.cons rest) (by omega) ((List.mem_cons.mp member).resolve_left (Ne.symm found))
          refine ⟨next', result, ?_, fun j outside => same j fun among => outside (List.mem_cons_of_mem _ among)⟩
          rw [List.erase_cons_tail (by simpa using found)]
          refine .cons ?_
          rw [same current (List.nodup_cons.mp once).1, link]
          exact chain'

/-- How a removal ends. `nullHead`: the pointer of the head of an empty list is read.
`endless`: the list is a cycle without the node. -/
inductive Removal (κ : Type*) where
  | done (head : Option κ) (next : κ → Option κ)
  | nullHead
  | endless

def remove (next : κ → Option κ) (head : Option κ) (k : κ) (fuel : Nat) : Removal κ :=
  if head = some k then .done (next k) next
  else
    match head with
    | none => .nullHead
    | some current =>
      match unlink next k fuel current with
      | some next' => .done head next'
      | none => .endless

theorem remove_nil {fuel : Nat} : remove next none k fuel = .nullHead := rfl

theorem Chain.remove_absent {fuel : Nat} (chain : Chain next head l) (enough : l.length ≤ fuel) (nonempty : l ≠ [])
    (absent : k ∉ l) : remove next head k fuel = .done head next := by
  cases chain with
  | nil => exact absurd rfl nonempty
  | @cons i l rest =>
    unfold remove
    rw [List.length_cons] at enough
    have other : i ≠ k := fun same => absent (same ▸ List.mem_cons_self)
    rw [if_neg fun same => other (Option.some.inj same)]
    dsimp only
    rw [(Chain.cons rest).unlink_absent (by omega) fun member => absent (List.mem_cons_of_mem _ member)]

theorem Chain.remove_member {fuel : Nat} (chain : Chain next head l) (enough : l.length ≤ fuel) (member : k ∈ l) :
    ∃ head' next', remove next head k fuel = .done head' next' ∧ Chain next' head' (l.erase k) ∧
      ∀ i ∉ l, next' i = next i := by
  cases chain with
  | nil => exact absurd member List.not_mem_nil
  | @cons i l rest =>
    unfold remove
    rw [List.length_cons] at enough
    by_cases found : i = k
    · subst found
      rw [if_pos rfl, List.erase_cons_head]
      exact ⟨_, _, rfl, rest, fun _ _ => rfl⟩
    · rw [if_neg fun same => found (Option.some.inj same)]
      obtain ⟨next', result, chain', same⟩ :=
        (Chain.cons rest).unlink_member (Nat.lt_of_succ_le enough) ((List.mem_cons.mp member).resolve_left (Ne.symm found))
      dsimp only
      rw [result]
      exact ⟨_, next', rfl, by rwa [List.erase_cons_tail (by simpa using found)], same⟩

end DecidableEq

/-! ### Search -/

/-- The first node that satisfies the condition: none inside, or `none` if the loop does not end. -/
def search (next : κ → Option κ) (P : κ → Bool) : Nat → Option κ → Option (Option κ)
  | _, none => some none
  | 0, some _ => none
  | fuel + 1, some k => if P k then some (some k) else search next P fuel (next k)

theorem Chain.search_eq {fuel : Nat} (chain : Chain next head l) (enough : l.length ≤ fuel) (P : κ → Bool) :
    search next P fuel head = some (l.find? P) := by
  induction chain generalizing fuel with
  | nil => cases fuel <;> rfl
  | @cons k l _ ih =>
    rw [List.length_cons] at enough
    obtain ⟨fuel, rfl⟩ := Nat.exists_eq_add_of_lt enough
    unfold search
    cases found : P k with
    | true => rw [if_pos rfl, List.find?_cons_of_pos found]
    | false =>
      rw [if_neg Bool.false_ne_true, List.find?_cons_of_neg (by simp [found])]
      exact ih (by omega)

/-- The nodes of a list, as far as the fuel goes. -/
def nodes (next : κ → Option κ) : Nat → Option κ → List κ
  | _, none => []
  | 0, some _ => []
  | fuel + 1, some k => k :: nodes next fuel (next k)

theorem Chain.nodes_eq {fuel : Nat} (chain : Chain next head l) (enough : l.length ≤ fuel) : nodes next fuel head = l := by
  induction chain generalizing fuel with
  | nil => cases fuel <;> rfl
  | @cons k l _ ih =>
    rw [List.length_cons] at enough
    obtain ⟨fuel, rfl⟩ := Nat.exists_eq_add_of_lt enough
    exact congrArg (k :: ·) (ih (by omega))

end Linked
