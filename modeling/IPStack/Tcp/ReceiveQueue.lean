import IPStack.Tcp.ReceiveBuffer
import Mathlib.Data.List.Perm.Basic

/-! The receive buffer as a queue of elements. -/

namespace IPStack

namespace TcpReceiveBuffer

variable {c : Config} {b b' : TcpReceiveBuffer} {element : TcpRecvElement} {r : ReceiveBuffer} {seqnum : SeqNum} {len : BitVec 32}
  {l l' : List TcpRecvElement}

/-! ### Insertion -/

theorem place_perm (placed : place element l = some l') : l'.Perm (element :: l) := by
  induction l generalizing l' with
  | nil => simp [place] at placed; simp [← placed]
  | cons current rest ih =>
    unfold place at placed
    split_ifs at placed with after same
    · obtain ⟨rest', found, rfl⟩ := Option.map_eq_some_iff.mp placed
      exact ((ih found).cons current).trans (.swap element current rest)
    · rw [← Option.some.inj placed]

/-- What moving `recv_continuous` can change. -/
theorem joinContinuous_eq (b : TcpReceiveBuffer) (last : TcpRecvElement) (l : List TcpRecvElement) :
    b.joinContinuous last l = { b with
      continuous := (b.joinContinuous last l).continuous, rest := (b.joinContinuous last l).rest
      recvBytes := (b.joinContinuous last l).recvBytes } := by
  induction l generalizing b last with
  | nil => rfl
  | cons next rest ih =>
    unfold joinContinuous
    split_ifs
    · rw [ih]
    · rfl

theorem joinContinuous_list (b : TcpReceiveBuffer) (last : TcpRecvElement) (l : List TcpRecvElement) :
    (b.joinContinuous last l).list = b.continuous ++ l := by
  induction l generalizing b last with
  | nil => rfl
  | cons next rest ih =>
    unfold joinContinuous
    split_ifs
    · rw [ih, List.append_assoc, List.singleton_append]
    · rfl

theorem updateContinuous_eq (b : TcpReceiveBuffer) :
    b.updateContinuous = { b with
      continuous := b.updateContinuous.continuous, rest := b.updateContinuous.rest
      recvBytes := b.updateContinuous.recvBytes } := by
  unfold updateContinuous
  split
  · exact joinContinuous_eq _ _ _
  · split
    · rfl
    · split_ifs
      · rw [joinContinuous_eq]
      · rfl

theorem updateContinuous_list (b : TcpReceiveBuffer) : b.updateContinuous.list = b.list := by
  unfold updateContinuous
  split
  · exact joinContinuous_list _ _ _
  · rename_i none
    have empty : b.continuous = [] := List.getLast?_eq_none_iff.mp none
    split
    · rfl
    · rename_i head rest queue
      split_ifs
      · rw [joinContinuous_list, list, empty, queue]
        rfl
      · rfl

theorem search_perm (found : b.search element = some l') : l'.Perm (element :: b.rest) := by
  unfold search at found
  split at found
  · exact place_perm found
  · split_ifs at found
    exact place_perm found

/-- A segment is stored at the place the search finds, in the first element of the free
list. -/
theorem insertSlidingWindow_eq (inserted : b.insertSlidingWindow r seqnum len = some b') :
    ∃ slot free, b.free = slot :: free ∧ ¬ seqLt seqnum b.readFirstSeqNum ∧
      ∃ rest, b.search (.setSegment slot r len seqnum) = some rest ∧
        b' = { updateContinuous { b with rest := rest, free := free } with pushFlag := b.pushFlag || r.segment.psh } := by
  unfold insertSlidingWindow at inserted
  cases slots : b.free with
  | nil => simp [slots] at inserted
  | cons slot free =>
    rw [slots] at inserted
    dsimp only at inserted
    by_cases old : seqLt seqnum b.readFirstSeqNum
    · simp [old] at inserted
    rw [if_neg old] at inserted
    refine ⟨slot, free, rfl, old, ?_⟩
    cases found : b.search (.setSegment slot r len seqnum) with
    | none => simp [found] at inserted
    | some rest =>
      refine ⟨rest, rfl, ?_⟩
      rw [found] at inserted
      rw [← Option.some.inj inserted]
      dsimp only
      split_ifs with pushed
      · rw [pushed, Bool.or_true]
      · rw [Bool.not_eq_true] at pushed
        rw [pushed, Bool.or_false, updateContinuous_eq]

theorem insertSlidingWindow_found {slot : Nat} {free : List Nat} (slots : b.free = slot :: free)
    (notOld : ¬ seqLt seqnum b.readFirstSeqNum) (found : b.search (.setSegment slot r len seqnum) = some l) :
    b.insertSlidingWindow r seqnum len =
      some { updateContinuous { b with rest := l, free := free } with pushFlag := b.pushFlag || r.segment.psh } := by
  rw [insertSlidingWindow, slots]
  dsimp only
  rw [if_neg notOld, found]
  dsimp only
  cases pushed : r.segment.psh
  · rw [if_neg Bool.false_ne_true, Bool.or_false, updateContinuous_eq]
  · rw [if_pos rfl, Bool.or_true]

theorem insertSlidingWindow_list (inserted : b.insertSlidingWindow r seqnum len = some b') :
    ∃ slot, b'.list.Perm (.setSegment slot r len seqnum :: b.list) := by
  obtain ⟨slot, free, -, -, rest, found, rfl⟩ := insertSlidingWindow_eq inserted
  refine ⟨slot, ?_⟩
  have list : ({ updateContinuous { b with rest := rest, free := free } with
      pushFlag := b.pushFlag || r.segment.psh } : TcpReceiveBuffer).list = b.continuous ++ rest :=
    updateContinuous_list { b with rest := rest, free := free }
  rw [list]
  exact ((search_perm found).append_left b.continuous).trans List.perm_middle

theorem insertSingle_eq (inserted : b.insertSingle r seqnum len = some b') :
    seqnum = b.readFirstSeqNum ∧ b.list = [] ∧
      b' = { b with rest := [.setSegment 0 r len seqnum], pushFlag := b.pushFlag || r.segment.psh } := by
  unfold insertSingle at inserted
  split_ifs at inserted with first
  split at inserted
  · rename_i empty
    exact ⟨first, empty, (Option.some.inj inserted).symm⟩
  · simp at inserted

theorem insert_list (inserted : b.insert c r seqnum len = some b') :
    ∃ slot, b'.list.Perm (.setSegment slot r len seqnum :: b.list) := by
  unfold insert at inserted
  split_ifs at inserted with sliding
  · exact insertSlidingWindow_list inserted
  · obtain ⟨-, empty, rfl⟩ := insertSingle_eq inserted
    rw [empty]
    have none : b.continuous = [] := (List.append_eq_nil_iff.mp empty).1
    exact ⟨0, by simp [list, none]⟩

/-! ### Reading -/

/-- The blocks of the consumed elements and of those left over are the blocks of the list. -/
theorem consume_blocks (len : BitVec 32) (l : List TcpRecvElement) :
    (consume len l).freed ++ (consume len l).left.map TcpRecvElement.block = l.map TcpRecvElement.block := by
  induction l generalizing len with
  | nil => rfl
  | cons head rest ih =>
    unfold consume
    split_ifs
    · rfl
    · simp only [List.cons_append, List.map_cons, ih]
    · rfl

/-- The blocks a `copyData` returns and those it leaves are the blocks of the list. -/
theorem copyData_blocks (c : Config) (b : TcpReceiveBuffer) (len : BitVec 32) :
    ((b.copyData c len).2.1 ++ (b.copyData c len).2.2.list.map TcpRecvElement.block).Perm
      (b.list.map TcpRecvElement.block) := by
  unfold copyData
  split_ifs
  · unfold copyDataSlidingWindow
    dsimp only [list]
    rw [List.map_append, List.map_append, ← consume_blocks len b.continuous,
      ← consume_blocks (consume len b.continuous).len b.rest, List.append_assoc, List.append_assoc]
    exact (List.perm_append_comm_assoc _ _ _).append_left _
  · unfold copyDataSingle
    cases elements : b.list with
    | nil => simpa [list] using elements
    | cons head rest =>
      dsimp only
      split_ifs
      · simp [list]
      · simp [list, TcpRecvElement.increment]

end TcpReceiveBuffer

end IPStack
