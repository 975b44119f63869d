import IPStack.Tcp.ReceiveBuffer

/-! The receive buffer up to the places of its elements in their array, which nothing but the
array itself can tell apart. -/

namespace IPStack

/-- An element without its place in the array. -/
def TcpRecvElement.unplaced (element : TcpRecvElement) : TcpRecvElement := { element with slot := 0 }

/-- What of the receive buffer its functions depend on. -/
def TcpReceiveBuffer.unplaced (b : TcpReceiveBuffer) : TcpReceiveBuffer :=
  { b with
    continuous := b.continuous.map TcpRecvElement.unplaced
    rest := b.rest.map TcpRecvElement.unplaced
    free := b.free.map fun _ => 0 }

/-- The read position counts only when it has been set. -/
def TcpReceiveBuffer.unplacedFrom (position : Bool) (b : TcpReceiveBuffer) : TcpReceiveBuffer :=
  { b.unplaced with readFirstSeqNum := if position then b.readFirstSeqNum else 0 }

namespace TcpReceiveBuffer

variable {c : Config} {position : Bool} {b b' : TcpReceiveBuffer} {element : TcpRecvElement} {l : List TcpRecvElement}
  {len : BitVec 32}

theorem getAckNum_unplaced : b.unplaced.getAckNum c = b.getAckNum c := by
  unfold getAckNum
  split_ifs
  · simp only [unplaced, List.getLast?_map]
    cases b.continuous.getLast? <;> rfl
  · simp only [unplaced, list, ← List.map_append]
    cases b.continuous ++ b.rest <;> rfl

theorem getRecvBytes_unplacedFrom (position : Bool) (b : TcpReceiveBuffer) :
    (b.unplacedFrom position).getRecvBytes c = b.getRecvBytes c := by
  unfold getRecvBytes
  split_ifs
  · rfl
  · simp only [unplacedFrom, unplaced, list, ← List.map_append]
    cases b.continuous ++ b.rest <;> rfl

theorem place_unplaced : place element.unplaced (l.map TcpRecvElement.unplaced) =
    (place element l).map (·.map TcpRecvElement.unplaced) := by
  induction l with
  | nil => rfl
  | cons current rest ih =>
    simp only [List.map_cons, place]
    rw [ih]
    change (if seqGeq element.seqNum current.getNextSeqNum then _ else if seqGeq element.seqNum current.seqNum then _ else _) = _
    split_ifs
    · cases place element rest <;> rfl
    · rfl
    · rfl

theorem search_unplaced (b : TcpReceiveBuffer) (element : TcpRecvElement) (free : List Nat) :
    search ⟨b.continuous.map TcpRecvElement.unplaced, b.rest.map TcpRecvElement.unplaced, free, b.recvBytes, b.readFirstSeqNum,
      b.pushFlag⟩ element.unplaced = (b.search element).map (·.map TcpRecvElement.unplaced) := by
  unfold search
  rw [List.getLast?_map]
  cases b.continuous.getLast? with
  | none => exact place_unplaced
  | some last =>
    change (if seqGeq element.seqNum last.getNextSeqNum then _ else _) = _
    dsimp only
    split_ifs
    · exact place_unplaced
    · rfl

theorem joinContinuous_unplaced (last : TcpRecvElement) :
    b.unplaced.joinContinuous last.unplaced (l.map TcpRecvElement.unplaced) = (b.joinContinuous last l).unplaced := by
  induction l generalizing b last with
  | nil => rfl
  | cons next rest ih =>
    simp only [List.map_cons, joinContinuous]
    change (if last.getNextSeqNum = next.seqNum then _ else _) = _
    split_ifs
    · rw [← ih]
      simp only [unplaced, List.map_append, List.map_cons, List.map_nil]
      rfl
    · rfl

theorem updateContinuous_unplaced : b.unplaced.updateContinuous = b.updateContinuous.unplaced := by
  obtain ⟨continuous, rest, free, recvBytes, readFirstSeqNum, pushFlag⟩ := b
  dsimp only [updateContinuous]
  rw [unplaced, List.getLast?_map]
  cases continuous.getLast? with
  | some last => exact joinContinuous_unplaced last
  | none =>
    cases rest with
    | nil => rfl
    | cons head rest =>
      change (if readFirstSeqNum = head.seqNum then _ else _) = _
      dsimp only [Option.map_none]
      split_ifs
      · rw [← joinContinuous_unplaced]
        rfl
      · rfl

theorem insertSlidingWindow_unplaced (r : ReceiveBuffer) (seqnum : SeqNum) :
    b.unplaced.insertSlidingWindow r seqnum len = (b.insertSlidingWindow r seqnum len).map unplaced := by
  unfold insertSlidingWindow
  cases free : b.free with
  | nil => simp only [unplaced, free, List.map_nil, Option.map_none]
  | cons slot others =>
    simp only [unplaced, free, List.map_cons]
    by_cases old : seqLt seqnum b.readFirstSeqNum
    · rw [if_pos old, if_pos old]
      rfl
    rw [if_neg old, if_neg old]
    have found := search_unplaced b (.setSegment slot r len seqnum) (0 :: others.map fun _ => 0)
    have same : (TcpRecvElement.setSegment slot r len seqnum).unplaced = .setSegment 0 r len seqnum := rfl
    rw [same] at found
    rw [found]
    cases b.search (.setSegment slot r len seqnum) with
    | none => rfl
    | some rest =>
      have joined := updateContinuous_unplaced (b := { b with rest := rest, free := others })
      simp only [unplaced] at joined
      simp only [Option.map_some, joined]
      split_ifs <;> rfl

theorem insertSingle_unplaced (r : ReceiveBuffer) (seqnum : SeqNum) :
    b.unplaced.insertSingle r seqnum len = (b.insertSingle r seqnum len).map unplaced := by
  obtain ⟨continuous, rest, free, recvBytes, readFirstSeqNum, pushFlag⟩ := b
  dsimp only [insertSingle, unplaced, list]
  split_ifs
  · rw [← List.map_append]
    cases continuous ++ rest <;> rfl
  · rfl

theorem insert_unplaced (r : ReceiveBuffer) (seqnum : SeqNum) :
    b.unplaced.insert c r seqnum len = (b.insert c r seqnum len).map unplaced := by
  unfold insert
  split_ifs
  · exact insertSlidingWindow_unplaced r seqnum
  · exact insertSingle_unplaced r seqnum

theorem consume_unplaced : consume len (l.map TcpRecvElement.unplaced) =
    { consume len l with
      slots := (consume len l).slots.map fun _ => 0
      left := (consume len l).left.map TcpRecvElement.unplaced } := by
  induction l generalizing len with
  | nil => rfl
  | cons head rest ih =>
    simp only [List.map_cons, consume]
    rw [show head.unplaced.len = head.len from rfl, ih]
    split_ifs <;> rfl

theorem copyData_unplaced (c : Config) (b : TcpReceiveBuffer) (len : BitVec 32) : b.unplaced.copyData c len =
    ((b.copyData c len).1, (b.copyData c len).2.1, (b.copyData c len).2.2.unplaced) := by
  unfold copyData
  split_ifs
  · simp only [copyDataSlidingWindow, unplaced, consume_unplaced, ← List.map_append, ← List.map_reverse, List.map_eq_nil_iff]
  · obtain ⟨continuous, rest, free, recvBytes, readFirstSeqNum, pushFlag⟩ := b
    dsimp only [copyDataSingle, unplaced, list]
    rw [← List.map_append]
    cases continuous ++ rest with
    | nil => rfl
    | cons head rest =>
      change (if head.len = len then _ else _) = _
      dsimp only
      split_ifs <;> rfl

/-! ### Two receive buffers with the same content -/

theorem unplaced_from (same : b'.unplaced = b.unplaced) (position : Bool) :
    b'.unplacedFrom position = b.unplacedFrom position := by
  rw [unplacedFrom, unplacedFrom, same]
  have first : b'.readFirstSeqNum = b.readFirstSeqNum := congrArg (·.readFirstSeqNum) same
  rw [first]

theorem same_getAckNum (same : b'.unplaced = b.unplaced) : b'.getAckNum c = b.getAckNum c := by
  rw [← getAckNum_unplaced, same, getAckNum_unplaced]

theorem same_getRecvBytes (same : b'.unplacedFrom position = b.unplacedFrom position) :
    b'.getRecvBytes c = b.getRecvBytes c := by
  rw [← getRecvBytes_unplacedFrom position b', same, getRecvBytes_unplacedFrom]

theorem same_pushFlag (same : b'.unplacedFrom position = b.unplacedFrom position) : b'.pushFlag = b.pushFlag :=
  congrArg (·.pushFlag) same

theorem same_setFirstSeqNum (same : b'.unplacedFrom position = b.unplacedFrom position) (seqnum : SeqNum) :
    (b'.setFirstSeqNum seqnum).unplaced = (b.setFirstSeqNum seqnum).unplaced :=
  congrArg (·.setFirstSeqNum seqnum) same

theorem same_insert (same : b'.unplaced = b.unplaced) (r : ReceiveBuffer) (seqnum : SeqNum) (len : BitVec 32) :
    (b'.insert c r seqnum len).map unplaced = (b.insert c r seqnum len).map unplaced := by
  rw [← insert_unplaced, same, insert_unplaced]

theorem same_copyData (same : b'.unplaced = b.unplaced) (len : BitVec 32) : (b'.copyData c len).1 = (b.copyData c len).1 ∧
    (b'.copyData c len).2.1 = (b.copyData c len).2.1 ∧ (b'.copyData c len).2.2.unplaced = (b.copyData c len).2.2.unplaced := by
  have first := copyData_unplaced c b len
  have second := copyData_unplaced c b' len
  rw [same, first, Prod.mk.injEq, Prod.mk.injEq] at second
  exact ⟨second.1.symm, second.2.1.symm, second.2.2.symm⟩

/-- A receive buffer with nothing in it. -/
theorem unplacedFrom_empty (empty : b.list = []) (bytes : b.recvBytes = 0) (pushed : b.pushFlag = false) :
    b.unplacedFrom false = ⟨[], [], List.replicate b.free.length 0, 0, 0, false⟩ := by
  obtain ⟨continuous, rest⟩ := List.append_eq_nil_iff.mp empty
  simp [unplacedFrom, unplaced, continuous, rest, bytes, pushed]

end TcpReceiveBuffer

end IPStack
