import IPStack.Lib.Linked

/-! Doubly linked lists whose nodes are taken from a free list, which is singly linked through
the same pointers. -/

namespace Linked

variable {κ : Type*} {next next' prev prev' : κ → Option κ} {head prior : Option κ} {l after before free : List κ} {k : κ}

theorem Chain.head_eq (chain : Chain next head l) : head = l.head? := by
  cases chain <;> rfl

theorem Chain.next_eq (chain : Chain next head (before ++ k :: after)) : next k = after.head? := by
  cases chain.append_cons with
  | cons rest => exact rest.head_eq

/-! ### Pointers to the node before -/

/-- Every node points to the one before it, and the first one to `prior`. -/
inductive Back (prev : κ → Option κ) : Option κ → List κ → Prop
  | nil {prior : Option κ} : Back prev prior []
  | cons {prior : Option κ} {k : κ} {l : List κ} : prev k = prior → Back prev (some k) l → Back prev prior (k :: l)

theorem Back.congr (back : Back prev prior l) (same : ∀ k ∈ l, prev' k = prev k) : Back prev' prior l := by
  induction back with
  | nil => exact .nil
  | @cons prior k l link _ ih =>
    refine .cons ?_ (ih fun i member => same i (List.mem_cons_of_mem _ member))
    rw [same k List.mem_cons_self, link]

theorem Back.prev_eq (back : Back prev prior (before ++ k :: after)) : prev k = before.getLast?.or prior := by
  induction before generalizing prior with
  | nil =>
    cases back with
    | cons link _ => rw [link, List.getLast?_nil, Option.none_or]
  | cons a before ih =>
    cases back with
    | cons _ rest =>
      rw [ih rest]
      cases before with
      | nil => rfl
      | cons b before =>
        rw [List.getLast?_cons_cons, List.getLast?_cons]
        rfl

/-! ### The list and the free list -/

/-- The heads of the two lists and the pointers of the nodes. -/
structure Pool (κ : Type*) where
  head : Option κ
  freelist : Option κ
  next : κ → Option κ
  prev : κ → Option κ

/-- Every node is on exactly one of the two lists, both of them end, and the pointers of the
list lead back as well. -/
structure Pool.Holds (p : Pool κ) (l free : List κ) : Prop where
  listed : Chain p.next p.head l
  back : Back p.prev none l
  unused : Chain p.next p.freelist free
  apart : l.Disjoint free
  all : ∀ k, k ∈ l ∨ k ∈ free

theorem Pool.Holds.freelist_eq_none {p : Pool κ} (holds : p.Holds l free) : p.freelist = none ↔ free = [] := by
  rw [holds.unused.head_eq, List.head?_eq_none_iff]

section DecidableEq

variable [DecidableEq κ]

/-- A pointer to a node that may be missing: `if (node != 0) node->set(target)`. -/
def link (pointers : κ → Option κ) (node target : Option κ) : κ → Option κ :=
  match node with
  | some k => Function.update pointers k target
  | none => pointers

theorem link_of_ne {pointers : κ → Option κ} {node target : Option κ} (other : node ≠ some k) :
    link pointers node target k = pointers k := by
  cases node with
  | none => rfl
  | some i => exact Function.update_of_ne (fun same : k = i => other (congrArg some same.symm)) _ _

/-- The former first node points to the new one. -/
theorem Back.push (back : Back prev none l) (once : l.Nodup) (absent : k ∉ l) :
    Back (Function.update (link prev l.head? (some k)) k none) none (k :: l) := by
  have other : ∀ i ∈ l, i ≠ k := fun i member same => absent (same ▸ member)
  refine .cons (Function.update_self ..) ?_
  cases back with
  | nil => exact .nil
  | @cons _ i l first rest =>
    refine .cons ?_ (rest.congr fun j member => ?_)
    · rw [Function.update_of_ne (other i List.mem_cons_self)]
      exact Function.update_self ..
    · rw [Function.update_of_ne (other j (List.mem_cons_of_mem _ member))]
      exact link_of_ne fun same => (List.nodup_cons.mp once).1 (Option.some.inj same ▸ member)

/-- The node behind the removed one points to the one before it. -/
theorem Back.unlink (back : Back prev prior (before ++ k :: after)) (once : (before ++ k :: after).Nodup) :
    Back (link prev after.head? (before.getLast?.or prior)) prior (before ++ after) := by
  induction before generalizing prior with
  | nil =>
    cases back with
    | cons _ rest =>
      cases rest with
      | nil => exact .nil
      | @cons _ n after link rest =>
        have first := (List.nodup_cons.mp (List.nodup_cons.mp once).2).1
        refine .cons (Function.update_self ..) (rest.congr fun i member => ?_)
        exact Function.update_of_ne (fun same : i = n => first (same ▸ member)) _ _
  | cons a before ih =>
    cases back with
    | cons first rest =>
      have distinct := List.nodup_cons.mp once
      refine .cons ?_ ?_
      · rw [link_of_ne, first]
        intro same
        have behind : a ∈ after := List.mem_of_mem_head? same
        exact distinct.1 (List.mem_append_right _ (List.mem_cons_of_mem _ behind))
      · have shorter := ih rest distinct.2
        cases before with
        | nil => exact shorter
        | cons b before => exact shorter

/-- The node before the removed one points to the one behind it. -/
theorem Chain.unlink {b : κ} (chain : Chain next head (before ++ b :: k :: after)) :
    Chain (Function.update next b (next k)) head (before ++ b :: after) := by
  have once := chain.nodup
  induction before generalizing head with
  | nil =>
    cases chain with
    | cons rest =>
      generalize next b = behind at rest
      cases rest with
      | cons rest =>
        refine .cons ?_
        rw [Function.update_self]
        exact rest.update (fun member => (List.nodup_cons.mp once).1 (List.mem_cons_of_mem _ member)) _
  | cons a before ih =>
    cases chain with
    | cons rest =>
      have distinct := List.nodup_cons.mp once
      refine .cons ?_
      rw [Function.update_of_ne fun same : a = b => distinct.1 (same ▸ List.mem_append_right _ List.mem_cons_self)]
      exact ih rest distinct.2

/-! ### Taking nodes in and out -/

namespace Pool

/-- The first free node becomes the first of the list; without one a null pointer is read. -/
def add (p : Pool κ) : Option (κ × Pool κ) :=
  match p.freelist with
  | none => none
  | some k =>
    some (k, {
      freelist := p.next k
      prev := Function.update (link p.prev p.head (some k)) k none
      next := Function.update p.next k p.head
      head := some k })

/-- The node leaves the list. Behind the head, a node without predecessor makes it read a null
pointer. -/
def unlink (p : Pool κ) (k : κ) : Option (Pool κ) :=
  if p.head = some k then some { p with head := p.next k, prev := link p.prev (p.next k) none }
  else
    match p.prev k with
    | none => none
    | some b => some { p with next := Function.update p.next b (p.next k), prev := link p.prev (p.next k) (some b) }

/-- The node becomes the first free one. -/
def release (p : Pool κ) (k : κ) : Pool κ :=
  { p with next := Function.update p.next k p.freelist, freelist := some k }

def remove (p : Pool κ) (k : κ) : Option (Pool κ) := (p.unlink k).map (·.release k)

theorem Holds.add {p : Pool κ} (holds : p.Holds l (k :: free)) : ∃ p', p.add = some (k, p') ∧ p'.Holds (k :: l) free := by
  have first := holds.unused.head_eq
  have once := holds.unused.nodup
  have absent : k ∉ l := fun member => holds.apart member List.mem_cons_self
  have unfree := (List.nodup_cons.mp once).1
  refine ⟨_, by rw [Pool.add, first]; rfl, ?_, ?_, ?_, ?_, ?_⟩
  · exact holds.listed.push absent
  · rw [holds.listed.head_eq]
    exact holds.back.push holds.listed.nodup absent
  · have chain := holds.unused
    rw [first] at chain
    cases chain with
    | cons rest => exact rest.update unfree _
  · exact List.disjoint_cons_left.mpr ⟨unfree, fun i member among => holds.apart member (List.mem_cons_of_mem _ among)⟩
  · intro i
    rcases holds.all i with member | member
    · exact Or.inl (List.mem_cons_of_mem _ member)
    · rcases List.mem_cons.mp member with rfl | member
      · exact Or.inl List.mem_cons_self
      · exact Or.inr member

/-- The pointers of the list once a node is taken out, which the free list has not seen. -/
theorem Holds.unlink {p : Pool κ} (holds : p.Holds (before ++ k :: after) free) :
    ∃ p', p.unlink k = some p' ∧ Chain p'.next p'.head (before ++ after) ∧ Back p'.prev none (before ++ after) ∧
      Chain p'.next p'.freelist free ∧ p'.freelist = p.freelist := by
  have listed := holds.listed
  have back := holds.back
  have once := holds.listed.nodup
  have behind := holds.listed.next_eq
  have unlinked := back.unlink once
  have prior := back.prev_eq
  rw [← behind] at unlinked
  unfold Pool.unlink
  rcases List.eq_nil_or_concat' before with rfl | ⟨before, b, rfl⟩
  · have first : p.head = some k := listed.head_eq
    rw [if_pos first]
    refine ⟨_, rfl, ?_, unlinked, holds.unused, rfl⟩
    rw [first] at listed
    cases listed with
    | cons rest => exact rest
  · rw [List.getLast?_append_cons] at unlinked prior
    have earlier : p.head ≠ some k := by
      intro first
      have start := listed.head_eq
      rw [first, List.head?_append_of_ne_nil _ (by simp)] at start
      have member : k ∈ before ++ [b] := List.mem_of_mem_head? start.symm
      exact (List.nodup_append.mp once).2.2 k member k List.mem_cons_self rfl
    rw [if_neg earlier, prior]
    refine ⟨_, rfl, ?_, unlinked, ?_, rfl⟩
    · rw [List.append_assoc] at listed ⊢
      exact listed.unlink
    · exact holds.unused.update (fun member => holds.apart (by simp) member) _

theorem Holds.remove {p : Pool κ} (holds : p.Holds (before ++ k :: after) free) :
    ∃ p', p.remove k = some p' ∧ p'.Holds (before ++ after) (k :: free) := by
  obtain ⟨p', result, listed, back, chain, same⟩ := holds.unlink
  have absent : k ∉ before ++ after := by
    have once := holds.listed.nodup
    rw [List.nodup_middle] at once
    exact (List.nodup_cons.mp once).1
  have unfree : k ∉ free := fun member => holds.apart (List.mem_append_right _ List.mem_cons_self) member
  refine ⟨p'.release k, by rw [Pool.remove, result]; rfl, ?_, back, chain.push unfree, ?_, ?_⟩
  · exact listed.update absent _
  · refine List.disjoint_cons_right.mpr ⟨absent, fun i member among => holds.apart ?_ among⟩
    rcases List.mem_append.mp member with member | member
    · exact List.mem_append_left _ member
    · exact List.mem_append_right _ (List.mem_cons_of_mem _ member)
  · intro i
    rcases holds.all i with member | member
    · rcases List.mem_append.mp member with member | member
      · exact Or.inl (List.mem_append_left _ member)
      · rcases List.mem_cons.mp member with rfl | member
        · exact Or.inr List.mem_cons_self
        · exact Or.inl (List.mem_append_right _ member)
    · exact Or.inr (List.mem_cons_of_mem _ member)

end Pool

end DecidableEq

end Linked
