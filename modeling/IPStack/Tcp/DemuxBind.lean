import IPStack.Tcp.DemuxLists

/-! What `bind` does to an acyclic list of bound sockets. -/

open Linked

namespace IPStack

namespace Demux

variable {n : Nat} {d : Demux n} {k : Fin n} {l : List (Fin n)} {ports : Fin n → BitVec 16 × BitVec 16}
  {sport : Fin n → BitVec 16}

/-! ### The loop over the bound sockets -/

/-- The loop as the source has it, round by round; `none` while it has not ended, and true for
the result false of `bind`. The assignment of the next socket stands behind its body. -/
def duplicateLoop (ports : Fin n → BitVec 16 × BitVec 16) (k : Fin n) : Nat → Option (Fin n) → Option Bool
  | _, none => some false
  | 0, some _ => none
  | rounds + 1, some current =>
    if (ports current).1 = (ports k).1 then
      if (ports current).2 = (ports k).2 then some true else duplicateLoop ports k rounds (some current)
    else duplicateLoop ports k rounds (some current)

theorem duplicateLoop_differs {current : Fin n} (differs : ports current ≠ ports k) (rounds : Nat) :
    duplicateLoop ports k rounds (some current) = none := by
  induction rounds with
  | zero => rfl
  | succ rounds ih =>
    unfold duplicateLoop
    split
    · rename_i first
      rw [if_neg fun second => differs (Prod.ext first second)]
      exact ih
    · exact ih

theorem duplicateLoop_same {current : Fin n} (same : ports current = ports k) (rounds : Nat) :
    duplicateLoop ports k (rounds + 1) (some current) = some true := by
  unfold duplicateLoop
  rw [if_pos (congrArg Prod.fst same), if_pos (congrArg Prod.snd same)]

/-- `bind` of a socket with a port is the loop with what follows it. -/
theorem bind_eq_loop (set : (ports k).1 ≠ 0) (rounds : Nat) :
    d.bind ports k =
      match duplicateLoop ports k (rounds + 1) d.tcpHeadSocket with
      | none => .endless
      | some true => .inUse
      | some false => .bound (d.insertBound k) (ports k).1 := by
  unfold bind
  rw [if_neg set]
  cases d.tcpHeadSocket with
  | none => rfl
  | some current =>
    dsimp only
    by_cases same : ports current = ports k
    · rw [if_pos same, duplicateLoop_same same]
    · rw [if_neg same, duplicateLoop_differs same]

/-! ### The search for a free port -/

/-- A socket that is put at the front of a list without it. -/
theorem insertBound_iff (chain : Chain d.next d.tcpHeadSocket l) :
    (Chain (d.insertBound k).next (d.insertBound k).tcpHeadSocket (k :: l) ∧ ∀ i, i ≠ k → (d.insertBound k).next i = d.next i) ↔
      k ∉ l :=
  ⟨fun front member => chain.not_push member front.1,
    fun absent => ⟨chain.push absent, fun _ other => Function.update_of_ne other _ _⟩⟩

end Demux

end IPStack
