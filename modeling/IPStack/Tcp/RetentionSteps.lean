import IPStack.Tcp.Retention

/-! Every action of a step keeps the invariant of the sending side. -/

namespace IPStack

open Serial TcpSocket

variable {c : Config} {slack : Nat} {d : Round} {e : Env} {s s' : TcpSocket} {v : SendView}

theorem RttEstimation.start_rto (t : RttEstimation) (seqnum : SeqNum) (now : BitVec 64) : (t.start seqnum now).rto = t.rto := by
  unfold RttEstimation.start
  split_ifs <;> rfl

theorem RttEstimation.update_rto (c : Config) (t : RttEstimation) (acknum : SeqNum) (now : BitVec 64) (positive : t.rto ≠ 0) :
    (t.update c acknum now).rto ≠ 0 := by
  unfold RttEstimation.update
  split_ifs with measured
  · dsimp only
    split_ifs with low
    · decide
    · intro zero
      rw [zero] at low
      exact low (by decide)
  · exact positive

namespace TcpSocket

/-- An acknowledgement that is not ignored moves the acknowledged position towards the
next sequence number. -/
theorem handleAck_cases (c : Config) (e : Env) (s : TcpSocket) (acknum : SeqNum)
    (flight : 2 * gap s.seqnumUnacked s.seqnumNext < 2 ^ 32) :
    s.handleAck c e acknum = s ∨ (s.handleAck c e acknum).seqnumUnacked = acknum ∧
      gap acknum s.seqnumNext < gap s.seqnumUnacked s.seqnumNext := by
  unfold handleAck
  split_ifs with old future
  · exact .inl rfl
  · exact .inl rfl
  · right
    constructor
    · unfold setSeqnumUnacked
      split_ifs <;> rfl
    · simp only [seqLeq, toInt_sub_nonpos, not_or, Nat.not_le] at old
      simp only [seqGt, Int.not_lt, toInt_sub_nonpos] at future
      have different : gap s.seqnumUnacked acknum ≠ 0 := fun zero => old.1 (gap_eq_zero.mp zero).symm
      exact gap_lt_of_between (by omega) old.2 flight future

/-- In the handshake only the SYN is unacknowledged. -/
theorem handleAck_opening (one : gap s.seqnumUnacked s.seqnumNext = 1) (acknum : SeqNum) :
    s.handleAck c e acknum = s ∨ acknum = s.seqnumNext ∧ (s.handleAck c e acknum).seqnumUnacked = s.seqnumNext := by
  rcases handleAck_cases c e s acknum (by omega) with same | ⟨unacked, closer⟩
  · exact .inl same
  · have all : acknum = s.seqnumNext := gap_eq_zero.mp (by omega)
    exact .inr ⟨all, by rw [unacked, all]⟩

/-- In SYNRCVD an acknowledgement of our SYN is taken, and every other one ignored. -/
theorem synrcvdAck_cases (c : Config) (e : Env) (one : gap s.seqnumUnacked s.seqnumNext = 1) (segment : TcpSegment) :
    s.synrcvdAck c e segment = s ∨ segment.acknum = s.seqnumNext ∧
      (s.handleAck c e segment.acknum).seqnumUnacked = s.seqnumNext := by
  rcases handleAck_opening (c := c) (e := e) one segment.acknum with same | acked
  · left
    unfold synrcvdAck
    dsimp only
    rw [same]
    split_ifs with all
    · exfalso
      have ignored := handleAck_seqnumNext c e s
      rw [← all, same, all] at ignored
      simp only [seqLeq, toInt_sub_nonpos, one] at ignored
      rcases ignored with eq | far
      · rw [eq, gap_self] at one
        simp at one
      · omega
    · rfl
  · exact .inr acked

theorem handleAck_rto (rto : s.RtoPos c) (acknum : SeqNum) : (s.handleAck c e acknum).RtoPos c := by
  intro woven
  unfold handleAck setSeqnumUnacked
  split_ifs
  · exact rto woven
  · exact rto woven
  all_goals exact RttEstimation.update_rto c _ acknum e.now (rto woven)

end TcpSocket

/-- What is preserved while a step runs: in a step that updates the history, the
acknowledged position splits no segment, or the slack leaves room for one. -/
structure Retaining (c : Config) (slack : Nat) (updates : Prop) (v : SendView) : Prop where
  inv : SendInv c slack v
  whole : updates → slack = 65535 ∨ ¬ v.ackedInside

theorem QueueInv.push_whole {h : TcpHistory} {next unacked : SeqNum} {r : TcpRecord} (q : QueueInv c slack h next unacked)
    (slack_le : slack ≤ 65535) (first : r.segment.seqnum = next) (small : r.segment.seqLen ≤ 65535) :
    ¬ r.range.Splits unacked := by
  rintro ⟨after, inside⟩
  have flight := q.flight_lt slack_le
  have start : r.range.first = next := first
  have len : r.range.len = r.segment.seqLen := rfl
  rw [start] at after inside
  have := gap_eq next unacked
  have := gap_eq unacked next
  have := next.isLt
  have := unacked.isLt
  split_ifs at * <;> omega

namespace Retaining

variable {updates : Prop}

theorem pushed {r : TcpRecord} {v' : SendView} (keeps : Retaining c slack updates v) (inv : SendInv c slack v')
    (history : v'.history = r :: v.history) (unacked : v'.seqnumUnacked = v.seqnumUnacked)
    (whole : r.timeout ≠ 0 → ¬ r.range.Splits v.seqnumUnacked) : Retaining c slack updates v' where
  inv := inv
  whole runs := by
    refine (keeps.whole runs).imp_right (fun outside => ?_)
    rintro ⟨r', member, timed, splits⟩
    rw [unacked] at splits
    rw [history] at member
    rcases List.mem_cons.mp member with rfl | later
    · exact whole timed splits
    · exact outside ⟨r', later, timed, splits⟩

theorem empty {v' : SendView} (inv : SendInv c slack v') (history : v'.history = []) : Retaining c slack updates v' where
  inv := inv
  whole _ := by
    right
    rintro ⟨r, member, -⟩
    simp [history] at member

end Retaining

theorem SendInv.aborted_socket (slack_le : slack ≤ 65535) (s : TcpSocket) : SendInv c slack s.abort.sendView := by
  constructor
  case slack_le => exact slack_le
  all_goals simp [sendView, abort, resetSocketState, clearHistory, TcpState.finSent]

namespace Retaining

variable {updates : Prop}

theorem abort (slack_le : slack ≤ 65535) (s : TcpSocket) : Retaining c slack updates s.abort.sendView :=
  .empty (SendInv.aborted_socket slack_le s) rfl

/-- A segment without data and flags, sent once. -/
theorem reply (keeps : Retaining c slack updates s.sendView) (alive : s.state ≠ .closed) (room : s.history.isFull c = false)
    {segment : TcpSegment} (bare : segment.data = [] ∧ segment.syn = false ∧ segment.fin = false) (block : Nat) :
    Retaining c slack updates (s.allocated.transmit c e block segment 0).sendView := by
  have inv := keeps.inv
  have len : segment.seqLen = 0 := by simp [TcpSegment.seqLen, bare]
  have free : s.history.length < c.historyMaxPackets := by simpa [TcpHistory.isFull] using room
  refine keeps.pushed ?_ rfl rfl (fun timed => absurd rfl timed)
  constructor
  case slack_le => exact inv.slack_le
  case queue => exact fun _ => (inv.queue alive).push_untimed free rfl (show segment.seqLen ≤ 65535 by omega)
  case rto => exact inv.rto
  case closed => exact fun closed => absurd closed alive
  case quiet => exact inv.quiet
  case listening => exact inv.listening
  case opening => exact inv.opening
  case closing =>
    intro closing
    rcases inv.closing closing with done | ⟨r, member, holds⟩
    · exact .inl done
    · exact .inr ⟨r, List.mem_cons_of_mem _ member, holds⟩
  case finished => exact inv.finished
  case fin =>
    intro sent
    obtain ⟨segment, member, holds⟩ := inv.fin sent
    exact ⟨segment, List.mem_cons_of_mem _ member, holds⟩
  case aborted => exact inv.aborted
  case buffer => exact inv.buffer

end Retaining

/-- A record of a segment that was just sent. -/
def sentRecord (c : Config) (e : Env) (block : Nat) (segment : TcpSegment) (msec : BitVec 32) : TcpRecord :=
  ⟨timeoutAfter c e.now msec, ⟨block, .transmitted, segment⟩, 0⟩

/-- What sending a piece of the application's data does to the sending side. -/
theorem sendSegmentIn_view (c : Config) (e : Env) (s : TcpSocket) (block : Nat) (len : BitVec 32) :
    ∃ segment : TcpSegment, segment.seqnum = s.seqnumNext ∧ segment.data = s.applicationBuf.take len.toNat ∧
      segment.syn = false ∧ segment.fin = false ∧
      (s.sendSegmentIn c e block len).sendView = { s.sendView with
        history := sentRecord c e block segment (s.getRto c) :: s.history
        seqnumNext := s.seqnumNext + len
        wire := segment :: s.trace.wire
        applicationBuf := s.applicationBuf.drop len.toNat
        applicationBuflen := s.applicationBuflen - len } := by
  let segment := { s.writeHeaderWithAck c (s.receiveBuffer.getAckNum c) with data := s.applicationBuf.take len.toNat }
  refine ⟨if s.applicationBuflen - len = 0 then { segment with psh := true } else segment, ?_, ?_, ?_, ?_, ?_⟩
  case refine_5 =>
    have rto := RttEstimation.start_rto s.rtt (s.seqnumNext + len) e.now
    unfold sendSegmentIn lowerSendWindow
    dsimp only
    split_ifs <;> simp only [transmit, send, historyAdd, sendView, sentRecord, getRto, rto] <;> rfl
  all_goals split_ifs <;> rfl

namespace Retaining

variable {updates : Prop}

theorem send (keeps : Retaining c slack updates s.sendView) (isOpen : s.isOpen) {len : BitVec 32}
    (small : len.toNat ≤ 65535) (left : len ≤ s.applicationBuflen) (room : s.history.isFull c = false) (block : Nat) :
    Retaining c slack updates (s.allocated.sendSegmentIn c e block len).sendView := by
  have inv := keeps.inv
  have alive : s.state ≠ .closed := by rcases isOpen with state | state <;> simp [state]
  have free : s.history.length < c.historyMaxPackets := by simpa [TcpHistory.isFull] using room
  obtain ⟨segment, first, data, syn, fin, view⟩ := sendSegmentIn_view c e s.allocated block len
  have buffer : len.toNat ≤ s.applicationBuf.length := Nat.le_trans left inv.buffer
  have seqLen : segment.seqLen = len.toNat := by
    have sameBuf : s.allocated.applicationBuf = s.applicationBuf := rfl
    simp only [TcpSegment.seqLen, data, syn, fin, sameBuf, List.length_take, Bool.toNat_false]
    omega
  have queue := inv.queue alive
  rw [view]
  have rto : s.RtoPos c := inv.rto alive
  have timed : (sentRecord c e block segment (s.getRto c)).timeout ≠ 0 := timeoutAfter_ne_zero c e rto.getRto
  refine keeps.pushed (r := sentRecord c e block segment (s.getRto c)) ?_ rfl rfl
    (fun _ => queue.push_whole inv.slack_le first (show segment.seqLen ≤ 65535 by omega))
  constructor
  case slack_le => exact inv.slack_le
  case queue =>
    intro _
    have pushed := queue.push inv.slack_le free timed first (show segment.seqLen ≤ 65535 by omega)
    rw [show (sentRecord c e block segment (s.getRto c)).segment.seqLen = len.toNat from seqLen, BitVec.ofNat_toNat,
      BitVec.setWidth_eq] at pushed
    exact pushed
  case rto => exact inv.rto
  case closed => exact fun closed => absurd closed alive
  case quiet => exact inv.quiet
  case listening => exact fun state => by rcases isOpen with opened | opened <;> simp_all [sendView, allocated]
  case opening => exact fun state => by rcases isOpen with opened | opened <;> simp_all [sendView, allocated]
  case closing => exact fun state => by rcases isOpen with opened | opened <;> simp_all [sendView, allocated]
  case finished => exact fun state => by rcases isOpen with opened | opened <;> simp_all [sendView, allocated]
  case fin =>
    exact fun state => by rcases isOpen with opened | opened <;> simp_all [sendView, allocated, TcpState.finSent]
  case aborted => exact inv.aborted
  case buffer =>
    have old := inv.buffer
    simp only [sendView, allocated, List.length_drop] at old ⊢
    bv_omega

theorem gap_succ {a b : SeqNum} (same : a = b) : gap a (b + 1) = 1 := by
  rw [same]
  exact gap_add_ofNat b (n := 1) (by decide)

/-- The SYN of an active open. -/
theorem sendSyn (keeps : Retaining c slack updates s.sendView) (closed : s.state = .closed)
    (fresh : s.seqnumNext = s.seqnumUnacked) (rto : s.RtoPos c) (block : Nat) :
    Retaining c slack updates (s.allocated.connectIn c e block).sendView := by
  have inv := keeps.inv
  have empty : s.history = [] := inv.closed closed
  let segment := s.setSyn c (s.writeHeader c)
  have shape : segment.seqnum = s.seqnumNext ∧ segment.seqLen = 1 := by
    simp only [segment, TcpSocket.setSyn]
    split_ifs <;> exact ⟨rfl, rfl⟩
  have view : (s.allocated.connectIn c e block).sendView = { s.sendView with
      state := .synsent, history := sentRecord c e block segment (s.getRto c) :: s.history
      seqnumNext := s.seqnumNext + 1, wire := segment :: s.trace.wire, aborted := false } := rfl
  have start : QueueInv c slack s.history s.seqnumNext s.seqnumUnacked := by
    rw [empty, fresh]
    exact .empty _
  have queue := start.push inv.slack_le (by rw [empty]; exact c.historyMaxPackets_pos)
    (r := sentRecord c e block segment (s.getRto c)) (timeoutAfter_ne_zero c e rto.getRto) shape.1
    (show segment.seqLen ≤ 65535 by omega)
  rw [show (sentRecord c e block segment (s.getRto c)).segment.seqLen = 1 from shape.2] at queue
  rw [view]
  refine keeps.pushed (r := sentRecord c e block segment (s.getRto c)) ?_ rfl rfl
    (fun _ => start.push_whole inv.slack_le shape.1 (show segment.seqLen ≤ 65535 by omega))
  constructor
  case slack_le => exact inv.slack_le
  case queue => exact fun _ => queue
  case rto => exact fun _ => rto
  case opening => exact fun _ => gap_succ fresh.symm
  case buffer => exact inv.buffer
  all_goals simp [TcpState.finSent]

/-- The SYN+ACK of a passive open. -/
theorem answerSyn (keeps : Retaining c slack updates s.sendView) (listening : s.state = .listen)
    (room : s.history.isFull c = false) (block : Nat) :
    Retaining c slack updates (s.allocated.listenIn c e block).sendView := by
  have inv := keeps.inv
  have alive : s.state ≠ .closed := by simp [listening]
  have fresh : s.seqnumUnacked = s.seqnumNext := inv.listening listening
  have rto : s.RtoPos c := inv.rto alive
  let answering : TcpSocket := { s with state := .synrcvd }
  let segment := answering.setSyn c (answering.writeHeaderWithAck c (s.receiveBuffer.getAckNum c))
  have shape : segment.seqnum = s.seqnumNext ∧ segment.seqLen = 1 := by
    simp only [segment, TcpSocket.setSyn]
    split_ifs <;> exact ⟨rfl, rfl⟩
  have view : (s.allocated.listenIn c e block).sendView = { s.sendView with
      state := .synrcvd, history := sentRecord c e block segment (s.getRto c) :: s.history
      seqnumNext := s.seqnumNext + 1, wire := segment :: s.trace.wire } := rfl
  have free : s.history.length < c.historyMaxPackets := by simpa [TcpHistory.isFull] using room
  have queue := (inv.queue alive).push inv.slack_le free (r := sentRecord c e block segment (s.getRto c))
    (timeoutAfter_ne_zero c e rto.getRto) shape.1 (show segment.seqLen ≤ 65535 by omega)
  rw [show (sentRecord c e block segment (s.getRto c)).segment.seqLen = 1 from shape.2] at queue
  rw [view]
  refine keeps.pushed (r := sentRecord c e block segment (s.getRto c)) ?_ rfl rfl
    (fun _ => (inv.queue alive).push_whole inv.slack_le shape.1 (show segment.seqLen ≤ 65535 by omega))
  constructor
  case slack_le => exact inv.slack_le
  case queue => exact fun _ => queue
  case rto => exact fun _ => rto
  case opening => exact fun _ => gap_succ fresh
  case aborted =>
    intro aborted
    exact absurd (inv.aborted aborted) alive
  case buffer => exact inv.buffer
  all_goals simp [TcpState.finSent]

/-- The FIN. -/
theorem sendFin (keeps : Retaining c slack updates s.sendView) (isOpen : s.isOpen) (room : s.history.isFull c = false)
    (block : Nat) : Retaining c slack updates (s.allocated.closeIn c e block).sendView := by
  have inv := keeps.inv
  have alive : s.state ≠ .closed := by rcases isOpen with state | state <;> simp [state]
  have rto : s.RtoPos c := inv.rto alive
  let segment := { s.writeHeaderWithAck c (s.receiveBuffer.getAckNum c) with fin := true }
  have shape : segment.seqnum = s.seqnumNext ∧ segment.seqLen = 1 := ⟨rfl, rfl⟩
  let next := if s.state = .closewait then TcpState.lastack else .finwait1
  have states : next = .lastack ∨ next = .finwait1 := by
    simp only [next]
    split_ifs
    · exact .inl rfl
    · exact .inr rfl
  have view : (s.allocated.closeIn c e block).sendView = { s.sendView with
      state := next, history := sentRecord c e block segment (s.getRto c) :: s.history
      seqnumNext := s.seqnumNext + 1, wire := segment :: s.trace.wire } := rfl
  have free : s.history.length < c.historyMaxPackets := by simpa [TcpHistory.isFull] using room
  have timed : (sentRecord c e block segment (s.getRto c)).timeout ≠ 0 := timeoutAfter_ne_zero c e rto.getRto
  have queue := (inv.queue alive).push inv.slack_le free (r := sentRecord c e block segment (s.getRto c))
    timed shape.1 (show segment.seqLen ≤ 65535 by omega)
  rw [show (sentRecord c e block segment (s.getRto c)).segment.seqLen = 1 from shape.2] at queue
  rw [view]
  refine keeps.pushed (r := sentRecord c e block segment (s.getRto c)) ?_ rfl rfl
    (fun _ => (inv.queue alive).push_whole inv.slack_le shape.1 (show segment.seqLen ≤ 65535 by omega))
  constructor
  case slack_le => exact inv.slack_le
  case queue => exact fun _ => queue
  case rto => exact fun _ => rto
  case closing => exact fun _ => .inr ⟨_, List.mem_cons_self .., timed, rfl⟩
  case fin => exact fun _ => ⟨segment, List.mem_cons_self .., rfl, rfl⟩
  case aborted => exact fun aborted => absurd (inv.aborted aborted) alive
  case buffer => exact inv.buffer
  all_goals rcases states with state | state <;> simp [state]

/-- The connection is established: our SYN is acknowledged, and the history empty. -/
theorem established {rto : BitVec 32} (keeps : Retaining c slack updates s.sendView) (alive : s.state ≠ .closed)
    (positive : c.rttEstimation = true → rto ≠ 0) : Retaining c slack updates { s.sendView with
      state := .established, history := [], seqnumUnacked := s.seqnumNext, rto := rto } := by
  have inv := keeps.inv
  refine .empty ?_ rfl
  constructor
  case slack_le => exact inv.slack_le
  case queue => exact fun _ => .empty _
  case rto => exact fun _ => positive
  case aborted => exact fun aborted => absurd (inv.aborted aborted) alive
  case buffer => exact inv.buffer
  all_goals simp [TcpState.finSent]

theorem synAck (keeps : Retaining c slack updates s.sendView) (state : s.state = .synsent) (segment : TcpSegment)
    (acked : (s.handleAck c e segment.acknum).seqnumUnacked = s.seqnumNext) :
    Retaining c slack updates (s.synAcked c e segment).sendView := by
  have alive : s.state ≠ .closed := by simp [state]
  have rto := handleAck_rto (e := e) (keeps.inv.rto alive) segment.acknum
  have view : (s.synAcked c e segment).sendView = { s.sendView with
      state := .established, history := [], seqnumUnacked := s.seqnumNext
      rto := (s.handleAck c e segment.acknum).rtt.rto } := by
    rw [← acked]
    unfold synAcked
    rw [handleAck_eq]
    rfl
  rw [view]
  exact keeps.established alive rto

theorem synrcvdAck (keeps : Retaining c slack updates s.sendView) (state : s.state = .synrcvd) (segment : TcpSegment) :
    Retaining c slack updates (s.synrcvdAck c e segment).sendView := by
  have alive : s.state ≠ .closed := by simp [state]
  have rto := handleAck_rto (e := e) (keeps.inv.rto alive) segment.acknum
  have next : (s.handleAck c e segment.acknum).seqnumNext = s.seqnumNext := by rw [handleAck_eq]
  rcases synrcvdAck_cases c e (keeps.inv.opening (.inr state)) segment with same | ⟨all, acked⟩
  · rw [same]
    exact keeps
  · unfold TcpSocket.synrcvdAck
    dsimp only
    rw [if_pos (by rw [next, all])]
    have done := keeps.established alive rto
    rw [show { s.sendView with
        state := .established, history := [], seqnumUnacked := s.seqnumNext
        rto := (s.handleAck c e segment.acknum).rtt.rto } =
      (TcpSocket.clearHistory { s.handleAck c e segment.acknum with state := .established }).sendView by
        rw [← acked, handleAck_eq]; rfl] at done
    exact done

/-- A SYN that crosses ours. Its answer takes the place of our SYN in the history, if
there is a buffer for it. -/
theorem simultaneous (keeps : Retaining c slack updates s.sendView) (state : s.state = .synsent) (segment : TcpSegment)
    (granted : slack = 65535 ∨ s.canAllocate e) :
    Retaining c slack updates (s.synsentSimultaneous c e segment).sendView := by
  have inv := keeps.inv
  have alive : s.state ≠ .closed := by simp [state]
  have rto : s.RtoPos c := inv.rto alive
  have one : gap s.seqnumUnacked s.seqnumNext = 1 := inv.opening (.inl state)
  rcases synsentSimultaneous_cases c e s segment with ⟨-, eq⟩ | ⟨free, eq⟩ <;> rw [eq] <;>
    set s₁ := s.crossed segment with crossed
  · unfold synsentSimultaneousIn
    dsimp only
    let s₂ : TcpSocket := { s₁.allocated with state := .synrcvd }
    let answer := s₂.setSyn c
      { s₂.writeHeaderWithAck c (s₂.receiveBuffer.getAckNum c) with seqnum := s.seqnumNext - 1 }
    have shape : answer.seqnum = s.seqnumNext - 1 ∧ answer.seqLen = 1 := by
      simp only [answer, TcpSocket.setSyn]
      split_ifs <;> exact ⟨rfl, rfl⟩
    have timed : (sentRecord c e s₁.mempool.nextBlock answer (s.getRto c)).timeout ≠ 0 := timeoutAfter_ne_zero c e rto.getRto
    have view : { s.sendView with
        state := .synrcvd, history := [sentRecord c e s₁.mempool.nextBlock answer (s.getRto c)]
        wire := answer :: s.trace.wire } =
        (s₂.transmit c e s₁.mempool.nextBlock answer (s₂.getRto c)).sendView := rfl
    have ranges : TcpHistory.ranges [sentRecord c e s₁.mempool.nextBlock answer (s.getRto c)] =
        [⟨s.seqnumNext - 1, 1⟩] := by
      rw [QueueInv.ranges_timed timed, ← shape.1, ← shape.2]
      rfl
    have queue : QueueInv c slack [sentRecord c e s₁.mempool.nextBlock answer (s.getRto c)] s.seqnumNext s.seqnumUnacked := by
      constructor
      case bounded => exact c.historyMaxPackets_pos
      case small =>
        intro r member
        rw [List.mem_singleton.mp member]
        exact show answer.seqLen ≤ 65535 by omega
      case joined =>
        rw [ranges]
        exact ⟨BitVec.sub_add_cancel _ _, trivial⟩
      case covered =>
        rw [ranges, one]
        exact Nat.le_add_right 1 slack
    refine view ▸ ⟨?_, fun _ => .inr ?_⟩
    · constructor
      case slack_le => exact inv.slack_le
      case queue => exact fun _ => queue
      case rto => exact fun _ => rto
      case opening => exact fun _ => one
      case aborted => exact fun aborted => absurd (inv.aborted aborted) alive
      case buffer => exact inv.buffer
      all_goals simp [TcpState.finSent]
    · rintro ⟨r, member, -, after, inside⟩
      rw [List.mem_singleton.mp member] at after inside
      have len : (sentRecord c e s₁.mempool.nextBlock answer (s.getRto c)).range.len = 1 := shape.2
      omega
  · have refused : slack = 65535 := granted.resolve_right free
    have view : { s.sendView with history := [] } = (s₁.requestSendBuffer e).2.sendView := by
      have only := requestSendBuffer_historyOnly e s₁
      unfold requestSendBuffer
      cases e.alloc s₁.mempool.requests <;> rfl
    refine view ▸ .empty ?_ rfl
    constructor
    case slack_le => exact inv.slack_le
    case queue =>
      refine fun _ => ⟨Nat.zero_le _, by simp, trivial, ?_⟩
      rw [show gap s.sendView.seqnumUnacked s.sendView.seqnumNext = 1 from one]
      omega
    case rto => exact inv.rto
    case closed => exact fun _ => rfl
    case quiet => exact inv.quiet
    case listening => exact inv.listening
    case opening => exact inv.opening
    case closing => exact fun closing => by simp [sendView, state] at closing
    case finished => exact inv.finished
    case fin => exact inv.fin
    case aborted => exact inv.aborted
    case buffer => exact inv.buffer

/-- Records that stand for the same segments. -/
theorem renew {h : TcpHistory} {wire : List TcpSegment} (keeps : Retaining c slack updates v) (same : SameRecords v.history h)
    (sent : v.wire ⊆ wire) : Retaining c slack updates { v with history := h, wire := wire } := by
  have inv := keeps.inv
  constructor
  case whole =>
    refine fun runs => (keeps.whole runs).imp_right (fun outside => ?_)
    rintro ⟨r', member, timed, splits⟩
    obtain ⟨r, inOld, segment, timeout⟩ := same.mem_right member
    refine outside ⟨r, inOld, fun zero => timed (timeout.mpr zero), ?_⟩
    rwa [TcpRecord.range, segment] at splits
  case inv =>
    constructor
    case slack_le => exact inv.slack_le
    case queue => exact fun alive => same.queue (inv.queue alive)
    case rto => exact inv.rto
    case closed =>
      intro closed
      have none := inv.closed closed
      rw [none] at same
      exact List.forall₂_nil_left_iff.mp same
    case quiet => exact inv.quiet
    case listening => exact inv.listening
    case opening => exact inv.opening
    case closing =>
      intro closing
      rcases inv.closing closing with done | ⟨r, member, timed, last⟩
      · exact .inl done
      · obtain ⟨r', inNew, segment, timeout⟩ := same.mem_left member
        exact .inr ⟨r', inNew, fun zero => timed (timeout.mp zero), segment ▸ last⟩
    case finished => exact inv.finished
    case fin =>
      intro fin
      obtain ⟨segment, member, holds⟩ := inv.fin fin
      exact ⟨segment, sent member, holds⟩
    case aborted => exact inv.aborted
    case buffer => exact inv.buffer

/-- The repeated SYN+ACK. -/
theorem resend (keeps : Retaining c slack updates s.sendView) : Retaining c slack updates s.resendFirst.sendView := by
  unfold resendFirst
  split
  · exact keeps
  · rename_i record rest history
    have same : SameRecords s.sendView.history ({ record with sendbuffer := (s.send record.sendbuffer).1 } :: rest) := by
      rw [show s.sendView.history = record :: rest from history]
      refine .cons ?_ (List.forall₂_same.mpr (fun r _ => .refl r))
      unfold TcpSocket.send
      split <;> exact ⟨rfl, rfl, fun _ => Iff.rfl⟩
    have sent : s.sendView.wire ⊆ (s.send record.sendbuffer).2.trace.wire := by
      unfold TcpSocket.send
      split
      · exact List.subset_cons_self _ _
      · exact fun _ => id
    have renewed := keeps.renew same sent
    have view : { s.sendView with
        history := { record with sendbuffer := (s.send record.sendbuffer).1 } :: rest
        wire := (s.send record.sendbuffer).2.trace.wire } = (TcpSocket.sendView { (s.send record.sendbuffer).2 with
          history := { record with sendbuffer := (s.send record.sendbuffer).1 } :: rest }) := by
      unfold TcpSocket.send
      split <;> rfl
    rw [view] at renewed
    exact renewed

/-- The acknowledgement at the start of a step. -/
theorem ack {updates' : Prop} (keeps : Retaining c slack updates s.sendView)
    (state : s.isOpen ∨ s.state = .finwait1 ∨ s.state = .lastack ∨ s.state = .closing) (acknum : SeqNum)
    (whole : updates' → slack = 65535 ∨ ¬ (s.handleAck c e acknum).sendView.ackedInside) :
    Retaining c slack updates' (s.handleAck c e acknum).sendView := by
  have inv := keeps.inv
  have alive : s.state ≠ .closed := by
    rcases state with (state | state) | state | state | state <;> simp [state]
  have queue := inv.queue alive
  have rto := handleAck_rto (e := e) (inv.rto alive) acknum
  refine ⟨?_, whole⟩
  rcases handleAck_cases c e s acknum (queue.flight_lt inv.slack_le) with same | ⟨unacked, closer⟩
  · rw [same]
    exact inv
  · have view : (s.handleAck c e acknum).sendView = { s.sendView with
        seqnumUnacked := (s.handleAck c e acknum).seqnumUnacked, rto := (s.handleAck c e acknum).rtt.rto } := by
      conv_lhs => rw [handleAck_eq]
      rfl
    rw [view, unacked]
    constructor
    case slack_le => exact inv.slack_le
    case queue => exact fun _ => ⟨queue.bounded, queue.small, queue.joined, Nat.le_trans (Nat.le_of_lt closer) queue.covered⟩
    case rto => exact fun _ => rto
    case closed => exact inv.closed
    case quiet => exact inv.quiet
    case listening => exact fun now => by rcases state with (state | state) | state | state | state <;> simp_all [sendView]
    case opening => exact fun now => by rcases state with (state | state) | state | state | state <;> simp_all [sendView]
    case closing =>
      intro closing
      rcases inv.closing closing with done | last
      · rw [show s.seqnumUnacked = s.seqnumNext from done, gap_self] at closer
        omega
      · exact .inr last
    case finished => exact fun now => by rcases state with (state | state) | state | state | state <;> simp_all [sendView]
    case fin => exact inv.fin
    case aborted => exact inv.aborted
    case buffer => exact inv.buffer

theorem update (keeps : Retaining c slack updates s.sendView) {doRetransmit : Bool} (runs : updates)
    (updated : HistoryUpdated c e doRetransmit s s') (alive : s'.state = s.state) :
    Retaining c slack updates s'.sendView where
  inv := keeps.inv.update updated alive (keeps.whole runs)
  whole _ := by
    refine (keeps.whole runs).imp_right (fun outside => ?_)
    rintro ⟨r', member, timed, splits⟩
    obtain ⟨r, inOld, segment, timeout⟩ := (keeps.inv.sameRecords updated).mem_right member
    refine outside ⟨r, List.mem_of_mem_filter inOld, fun zero => timed (timeout.mpr zero), ?_⟩
    rw [TcpRecord.range, segment] at splits
    rwa [show s'.sendView.seqnumUnacked = s.sendView.seqnumUnacked by rw [updated.frame]; rfl] at splits

/-- A change of the state after which less is required, or what is required holds. -/
theorem moved {state : TcpState} (keeps : Retaining c slack updates v) (alive : v.state ≠ .closed)
    (next : state = .closewait ∨ state = .closing ∨ state = .timewait ∨ state = .finwait2)
    (before : state = .closewait ∨ v.state.finSent = true)
    (closing : state = .closing → v.state = .finwait1)
    (finished : state = .timewait ∨ state = .finwait2 → v.seqnumUnacked = v.seqnumNext) :
    Retaining c slack updates { v with state := state } := by
  have inv := keeps.inv
  refine ⟨?_, keeps.whole⟩
  constructor
  case slack_le => exact inv.slack_le
  case queue => exact fun _ => inv.queue alive
  case rto => exact fun _ => inv.rto alive
  case closed => exact fun closed => by rcases next with rfl | rfl | rfl | rfl <;> simp at closed
  case quiet => exact fun closed => by rcases next with rfl | rfl | rfl | rfl <;> simp at closed
  case listening => exact fun now => by rcases next with rfl | rfl | rfl | rfl <;> simp at now
  case opening => exact fun now => by rcases next with rfl | rfl | rfl | rfl <;> simp at now
  case closing =>
    intro now
    refine inv.closing (.inl (closing ?_))
    rcases next with rfl | rfl | rfl | rfl <;> simp at now ⊢
  case finished =>
    intro now
    refine finished ?_
    rcases next with rfl | rfl | rfl | rfl <;> simp at now ⊢
  case fin =>
    intro sent
    rcases before with rfl | before
    · simp [TcpState.finSent] at sent
    · exact inv.fin before
  case aborted => exact fun aborted => absurd (inv.aborted aborted) alive
  case buffer => exact inv.buffer

/-- A change of the application's buffer. -/
theorem buffered (keeps : Retaining c slack updates v) (buf : List UInt8) (len : BitVec 32) (fits : len.toNat ≤ buf.length) :
    Retaining c slack updates { v with applicationBuf := buf, applicationBuflen := len } := by
  have inv := keeps.inv
  exact ⟨⟨inv.slack_le, inv.queue, inv.rto, inv.closed, inv.quiet, inv.listening, inv.opening, inv.closing,
    inv.finished, inv.fin, inv.aborted, fits⟩, keeps.whole⟩

theorem triggered {trigger : Bool} (keeps : Retaining c slack updates v) (alive : trigger = true → v.state ≠ .closed) :
    Retaining c slack updates { v with ackTriggered := trigger } := by
  have inv := keeps.inv
  refine ⟨⟨inv.slack_le, inv.queue, inv.rto, inv.closed, fun closed => ?_, inv.listening, inv.opening, inv.closing,
    inv.finished, inv.fin, inv.aborted, inv.buffer⟩, keeps.whole⟩
  exact Bool.eq_false_iff.mpr (fun on => alive on closed)

theorem genInitialSeqnum_view (c : Config) (e : Env) (s : TcpSocket) :
    ∃ isn rto, (s.genInitialSeqnum c e).sendView = { s.sendView with
      seqnumNext := isn, seqnumUnacked := isn, rto := rto } ∧ (c.rttEstimation = true → rto ≠ 0) := by
  unfold genInitialSeqnum
  dsimp only
  split_ifs with woven
  · exact ⟨_, _, rfl, fun _ => by simp [RttEstimation.rttInit]⟩
  · exact ⟨_, _, rfl, fun absent => absurd absent woven⟩

/-- New initial sequence numbers on a closed socket. -/
theorem numbered (keeps : Retaining c slack updates v) (isn : SeqNum) (rto : BitVec 32) (closed : v.state = .closed) :
    Retaining c slack updates { v with seqnumNext := isn, seqnumUnacked := isn, rto := rto } := by
  have inv := keeps.inv
  refine .empty ?_ (inv.closed closed)
  refine ⟨inv.slack_le, fun alive => absurd closed alive, fun alive => absurd closed alive, inv.closed, inv.quiet,
    fun _ => rfl, ?_, ?_, fun _ => rfl, ?_, inv.aborted, inv.buffer⟩ <;> simp [closed, TcpState.finSent]

theorem listenBase_view (e : Env) (closed : s.state = .closed) :
    ∃ isn rto, (s.listenBase c e).sendView = { s.sendView with
      state := .listen, aborted := false, seqnumNext := isn, seqnumUnacked := isn, rto := rto } ∧
      (c.rttEstimation = true → rto ≠ 0) := by
  unfold listenBase genInitialSeqnum
  rw [if_pos closed]
  dsimp only
  split_ifs with woven
  · exact ⟨_, _, rfl, fun _ => by simp [RttEstimation.rttInit]⟩
  · exact ⟨_, _, rfl, fun absent => absurd absent woven⟩

theorem listen (keeps : Retaining c slack updates s.sendView) (closed : s.state = .closed) :
    Retaining c slack updates (s.listenBase c e).sendView := by
  have inv := keeps.inv
  obtain ⟨isn, rto, view, positive⟩ := listenBase_view (c := c) e closed
  rw [view]
  have empty : s.history = [] := inv.closed closed
  refine .empty ?_ empty
  refine ⟨inv.slack_le, fun _ => ?_, fun _ => positive, ?_, ?_, fun _ => rfl, ?_, ?_, ?_, ?_, ?_, inv.buffer⟩
  · rw [show s.sendView.history = [] from empty]
    exact .empty _
  all_goals simp [TcpState.finSent]

end Retaining

/-- The segment is a SYN without acknowledgement. -/
def Round.crosses (d : Round) : Prop :=
  match d.input with
  | some r => r.segment.syn = true ∧ r.segment.ack = false
  | none => False

instance (d : Round) : Decidable d.crosses := by
  unfold Round.crosses
  cases d.input <;> infer_instance

/-- What a step must not do: lose the interface while the history is updated, fail to
answer a SYN that crosses ours, or kill a connection that waits for its FIN's acknowledgement. -/
structure Round.Retains (c : Config) (slack : Nat) (d : Round) : Prop where
  interface : d.updates → d.env.interface = true
  quiet : d.start.state = .closed → d.start.ackTriggered = false
  answered : slack = 65535 ∨ (d.start.state = .synsent → d.crosses → d.start.canAllocate d.env)
  survives : d.start.state = .finwait1 ∨ d.start.state = .closing → d.input = none → ¬ d.aborts

namespace TcpSocket

theorem requestSendBuffer_view (e : Env) (s : TcpSocket) : (s.requestSendBuffer e).2.sendView = s.sendView := by
  unfold requestSendBuffer
  cases e.alloc s.mempool.requests <;> rfl

theorem setMss_view (c : Config) (s : TcpSocket) (mss : BitVec 32) : (s.setMss c mss).sendView = s.sendView := by
  rw [setMss_eq]
  rfl

theorem handleFin_view (s : TcpSocket) (segment : TcpSegment) (seqnum : SeqNum) (len : BitVec 32) :
    (s.handleFin segment seqnum len).sendView = s.sendView := by
  rw [handleFin_eq]
  rfl

theorem updateSendWindow_view (s : TcpSocket) (segment : TcpSegment) (seqnum acknum : SeqNum) :
    (s.updateSendWindow segment seqnum acknum).sendView = s.sendView := by
  unfold updateSendWindow
  split_ifs <;> rfl

theorem addToReceiveQueue_view (c : Config) (e : Env) (s : TcpSocket) (segment : TcpSegment) (size : BitVec 16) :
    (s.addToReceiveQueue c e segment size).sendView = s.sendView := by
  unfold addToReceiveQueue
  split_ifs
  · rfl
  · dsimp only
    split <;> rfl

end TcpSocket

theorem Retaining.action (round : d.Retains c slack) {x y : Bool × TcpSocket} (action : Action c d x y)
    (keeps : Retaining c slack d.updates x.2.sendView) : Retaining c slack d.updates y.2.sendView := by
  have slack_le := keeps.inv.slack_le
  cases action with
  | abort reason => exact .abort slack_le _
  | update runs interface alive => exact keeps.update runs (updateHistoryBody_updated interface _ _) alive
  | kill runs interface aborts same overdue => exact .abort slack_le _
  | lose runs interface => exact absurd (round.interface runs) (by simp [interface])
  | refuse refused => exact (requestSendBuffer_view _ _).symm ▸ keeps
  | reply room granted bare alive =>
    refine keeps.reply (fun closed => ?_) room bare _
    obtain ⟨start, triggered⟩ := alive closed
    simp [round.quiet start] at triggered
  | @send h s len isOpen waiting sending left amount room granted =>
    have bounds : len.toNat ≤ 65535 ∧ len ≤ s.applicationBuflen := by
      rcases amount with ⟨rfl, -⟩ | ⟨rfl, -⟩
      · have le := min3_le ((s.getSendWindow c).setWidth 32) s.applicationBuflen s.mss
        have window := (s.getSendWindow c).isLt
        exact ⟨by bv_omega, le.2⟩
      · exact ⟨by decide, by bv_omega⟩
    exact keeps.send isOpen bounds.1 bounds.2 room _
  | sendSyn closed fresh window rto room granted => exact keeps.sendSyn closed fresh rto _
  | answerSyn listening room granted => exact keeps.answerSyn listening room _
  | sendFin isOpen room granted => exact keeps.sendFin isOpen room _
  | resend state => exact keeps.resend
  | setMss state => exact (setMss_view c _ _).symm ▸ keeps
  | refuseSynAck state input other =>
    rcases handleAck_opening (c := c) (e := d.env) (keeps.inv.opening (.inl state)) _ with same | ⟨-, acked⟩
    · exact same.symm ▸ keeps
    · exact absurd acked other
  | synAck state input ack syn waiting acked => exact keeps.synAck state _ acked
  | simultaneous state input syn noAck waiting requests =>
    refine keeps.simultaneous state _ (round.answered.imp_right (fun answered => ?_))
    have granted := answered (waiting.state.symm.trans state) (by simp only [Round.crosses, input, syn, noAck, and_self])
    unfold canAllocate at granted ⊢
    rwa [requests]
  | synrcvdAck state input accepted waiting => exact keeps.synrcvdAck state _
  | setAck trigger alive => exact keeps.triggered alive
  | fin input state plain => exact (handleFin_view _ _ _ _).symm ▸ keeps
  | insert input state plain payload inserted =>
    exact keeps.triggered (fun _ => by rcases state with state | state | state <;> simp [sendView, state])
  | window input isOpen next last => exact (updateSendWindow_view _ _ _ _).symm ▸ keeps
  | peerClosed state complete =>
    exact keeps.moved (by simp [sendView, state]) (.inl rfl) (.inl rfl) (by simp) (by simp)
  | bothClosed state complete =>
    exact keeps.moved (by simp [sendView, state]) (.inr (.inl rfl)) (.inr (by simp [sendView, state, TcpState.finSent]))
      (fun _ => state) (by simp)
  | @lastClosed h s complete state =>
    have alive : s.state ≠ .closed := by rcases state with state | state <;> simp [state]
    refine keeps.moved alive (.inr (.inr (.inl rfl))) (.inr ?_) (by simp) (fun _ => ?_)
    · rcases state with state | ⟨state, -⟩ <;> simp [sendView, state, TcpState.finSent]
    · rcases state with state | ⟨-, acked⟩
      · exact keeps.inv.finished (.inl state)
      · have flight := (keeps.inv.queue alive).flight_lt slack_le
        simp only [seqLeq, toInt_sub_nonpos] at acked
        exact acked.elim Eq.symm (fun far => absurd flight (Nat.not_lt.mpr far))
  | @finAcked h s empty state =>
    have now : s.state = .finwait1 := by
      refine state.resolve_right ?_
      rintro ⟨-, start, input, aborts⟩
      exact round.survives (.inl start) input aborts
    refine keeps.moved (by simp [sendView, now]) (.inr (.inr (.inr rfl))) (.inr (by simp [sendView, now, TcpState.finSent]))
      (by simp) (fun _ => ?_)
    refine (keeps.inv.closing (.inl now)).resolve_right ?_
    rintro ⟨r, member, -⟩
    simp [sendView, empty] at member
  | @closingAcked h s empty state =>
    have now : s.state = .closing := by
      refine state.resolve_right ?_
      rintro ⟨-, start, input, aborts⟩
      exact round.survives (.inr start) input aborts
    refine keeps.moved (by simp [sendView, now]) (.inr (.inr (.inl rfl))) (.inr (by simp [sendView, now, TcpState.finSent]))
      (by simp) (fun _ => ?_)
    refine (keeps.inv.closing (.inr (.inl now))).resolve_right ?_
    rintro ⟨r, member, -⟩
    simp [sendView, empty] at member
  | arrive start arrival => exact (addToReceiveQueue_view c _ _ _ _).symm ▸ keeps
  | listen closed => exact keeps.listen closed
  | @initConnect h s closed =>
    obtain ⟨isn, rto, view, -⟩ := genInitialSeqnum_view c d.env s
    have numbered := keeps.numbered isn rto closed
    rw [← view] at numbered
    exact numbered
  | @write h s data isOpen size_lt =>
    refine keeps.buffered data (BitVec.ofNat 32 data.length) (Nat.le_of_eq ?_)
    rw [BitVec.toNat_ofNat, Nat.mod_eq_of_lt size_lt]
  | @receive h s buffer isOpen size_lt =>
    refine keeps.buffered buffer (BitVec.ofNat 32 buffer.length &&& 0x7FFFFFFF) ?_
    rw [BitVec.toNat_and, BitVec.toNat_ofNat, Nat.mod_eq_of_lt size_lt]
    exact Nat.and_le_left
  | @read h s len state receiving held fits =>
    have old : s.applicationBuflen.toNat ≤ s.applicationBuf.length := keeps.inv.buffer
    refine keeps.buffered (s.applicationBuf.drop len.toNat) (s.applicationBuflen - len) ?_
    rw [List.length_drop]
    bv_omega
  | @readRest h s state receiving =>
    have old : s.applicationBuflen.toNat ≤ s.applicationBuf.length := keeps.inv.buffer
    dsimp only
    unfold closewaitReceive
    dsimp only
    split_ifs with fewer
    · exact keeps.buffered s.applicationBuf (s.receiveBuffer.getRecvBytes c) (by bv_omega)
    · exact keeps
  | _ => exact keeps

end IPStack
