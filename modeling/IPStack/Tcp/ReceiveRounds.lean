import IPStack.Tcp.Inert
import IPStack.Tcp.PendingAck

/-! What a round of the state machine does to the receive buffer. -/

namespace IPStack

namespace TcpSocket

variable {c : Config} {e : Env} {s : TcpSocket} {r : ReceiveBuffer}

/-! ### Functions that leave the receive buffer alone -/

theorem updateHistory_receiveBuffer (c : Config) (e : Env) (s : TcpSocket) (doRetransmit : Bool) :
    (s.updateHistory c e doRetransmit).receiveBuffer = s.receiveBuffer := by
  have body : (s.updateHistoryBody c e doRetransmit).receiveBuffer = s.receiveBuffer := by
    cases interface : e.interface with
    | false => simp [updateHistoryBody, interface, clearHistory]
    | true => rw [(updateHistoryBody_updated (c := c) interface s doRetransmit).frame]
  rw [updateHistory_eq]
  split_ifs
  · exact body
  · exact body

theorem sendAckNum_receiveBuffer (c : Config) (e : Env) (s : TcpSocket) (ackNum : SeqNum) :
    (s.sendAckNum c e ackNum).2.receiveBuffer = s.receiveBuffer := by
  have same := (requestSendBufferTcp_spec c e s).receiveBuffer
  unfold sendAckNum
  split <;> rename_i request <;> rw [request] at same <;> exact same

theorem sendAck_receiveBuffer (c : Config) (e : Env) (s : TcpSocket) : (s.sendAck c e).2.receiveBuffer = s.receiveBuffer :=
  sendAckNum_receiveBuffer c e _ _

theorem processAck_receiveBuffer (c : Config) (e : Env) (s : TcpSocket) : (s.processAck c e).receiveBuffer = s.receiveBuffer := by
  unfold processAck
  split_ifs
  · exact sendAck_receiveBuffer c e s
  · rfl

theorem sendSegment_receiveBuffer (c : Config) (e : Env) (s : TcpSocket) (len : BitVec 32) :
    (s.sendSegment c e len).2.receiveBuffer = s.receiveBuffer := by
  have same := (requestSendBufferTcp_spec c e s).receiveBuffer
  unfold sendSegment
  split <;> rename_i request <;> rw [request] at same
  · rw [← same]
    unfold sendSegmentIn lowerSendWindow
    dsimp only
    split_ifs <;> rfl
  · exact same

theorem sendLoop_receiveBuffer (c : Config) (e : Env) (fuel : Nat) (s : TcpSocket) :
    (sendLoop c e fuel s).receiveBuffer = s.receiveBuffer := by
  induction fuel generalizing s with
  | zero => rfl
  | succ fuel ih =>
    have same := sendSegment_receiveBuffer c e s (min3 ((s.getSendWindow c).setWidth 32) s.applicationBuflen s.mss)
    unfold sendLoop sendNextSegment
    split_ifs
    · split <;> rename_i sent <;> rw [sent] at same
      · exact (ih _).trans same
      · exact same
    · rfl

theorem processSendData_receiveBuffer (c : Config) (e : Env) (s : TcpSocket) :
    (s.processSendData c e).receiveBuffer = s.receiveBuffer := by
  unfold processSendData
  split_ifs
  · rfl
  · exact sendSegment_receiveBuffer c e s 1
  · rfl
  · exact sendLoop_receiveBuffer c e _ s

theorem finishSending_receiveBuffer (s : TcpSocket) : s.finishSending.receiveBuffer = s.receiveBuffer := by
  unfold finishSending
  split_ifs <;> rfl

theorem adoptMss_same (c : Config) (s : TcpSocket) (segment : TcpSegment) :
    (s.adoptMss c segment).receiveBuffer = s.receiveBuffer ∧ (s.adoptMss c segment).seqnumUnacked = s.seqnumUnacked ∧
      (s.adoptMss c segment).seqnumNext = s.seqnumNext := by
  unfold adoptMss setMss initSlowStart
  dsimp only
  split_ifs <;> exact ⟨rfl, rfl, rfl⟩

theorem resendFirst_receiveBuffer (s : TcpSocket) : s.resendFirst.receiveBuffer = s.receiveBuffer := by
  rw [resendFirst_eq]

theorem handleAck_receiveBuffer (c : Config) (e : Env) (s : TcpSocket) (acknum : SeqNum) :
    (s.handleAck c e acknum).receiveBuffer = s.receiveBuffer := by
  rw [handleAck_eq]

/-! ### The calls of copyData -/

/-- The length with which a round without a segment calls `copyData`. -/
def copyCall (c : Config) (e : Env) (s : TcpSocket) : Option (BitVec 32) :=
  let s' := s.updateHistory c e true
  let recvBytes := s.receiveBuffer.getRecvBytes c
  if s'.receiving then
    match s.state with
    | .established =>
      if 0 < recvBytes then some (if s'.applicationBuflen < recvBytes then s'.applicationBuflen else recvBytes) else none
    | .closewait => some (if recvBytes < s'.applicationBuflen then recvBytes else s'.applicationBuflen)
    | _ => none
  else none

/-- The receive buffer after such a round. -/
def receiveBufferIdle (c : Config) (e : Env) (s : TcpSocket) : TcpReceiveBuffer :=
  match s.copyCall c e with
  | none => s.receiveBuffer
  | some len => (s.receiveBuffer.copyData c len).2.2

theorem establishedReceive_receiveBuffer (c : Config) (e : Env) (s : TcpSocket) :
    (s.establishedReceive c e).receiveBuffer =
      if 0 < s.receiveBuffer.getRecvBytes c then
        (s.receiveBuffer.copyData c
          (if s.applicationBuflen < s.receiveBuffer.getRecvBytes c then s.applicationBuflen else s.receiveBuffer.getRecvBytes c)).2.2
      else s.receiveBuffer := by
  unfold establishedReceive
  dsimp only
  generalize (if s.applicationBuflen < s.receiveBuffer.getRecvBytes c then s.applicationBuflen
    else s.receiveBuffer.getRecvBytes c) = len
  have read := processAck_receiveBuffer c e (s.readToApplication c len)
  split
  · split
    · exact read
    · exact read
  · exact processAck_receiveBuffer c e s

theorem establishedIdle_receiveBuffer (c : Config) (e : Env) (state : s.state = .established) :
    (s.establishedIdle c e).receiveBuffer = s.receiveBufferIdle c e := by
  have same := updateHistory_receiveBuffer c e s true
  unfold establishedIdle receiveBufferIdle copyCall
  rw [state]
  dsimp only
  generalize s.updateHistory c e true = s' at same ⊢
  by_cases receiving : s'.receiving = true
  · rw [if_pos receiving, if_pos receiving, establishedReceive_receiveBuffer, same]
    by_cases some : 0 < s.receiveBuffer.getRecvBytes c
    · rw [if_pos some, if_pos some]
    · rw [if_neg some, if_neg some]
  · rw [if_neg receiving, if_neg receiving]
    split
    · exact (finishSending_receiveBuffer _).trans
        ((processSendData_receiveBuffer c e _).trans ((processAck_receiveBuffer c e s').trans same))
    · exact same

theorem closewaitReceive_receiveBuffer (c : Config) (s : TcpSocket) :
    (s.closewaitReceive c).receiveBuffer = (s.receiveBuffer.copyData c
      (if s.receiveBuffer.getRecvBytes c < s.applicationBuflen then s.receiveBuffer.getRecvBytes c
      else s.applicationBuflen)).2.2 := by
  unfold closewaitReceive
  dsimp only
  by_cases less : s.receiveBuffer.getRecvBytes c < s.applicationBuflen
  · rw [if_pos less, if_pos less]
    rfl
  · rw [if_neg less, if_neg less]
    rfl

theorem closewaitIdle_receiveBuffer (c : Config) (e : Env) (state : s.state = .closewait) :
    (s.closewaitIdle c e).receiveBuffer = s.receiveBufferIdle c e := by
  have same := updateHistory_receiveBuffer c e s true
  unfold closewaitIdle receiveBufferIdle copyCall
  rw [state]
  dsimp only
  generalize s.updateHistory c e true = s' at same ⊢
  by_cases receiving : s'.receiving = true
  · rw [if_pos receiving, if_pos receiving, closewaitReceive_receiveBuffer, same]
  · rw [if_neg receiving, if_neg receiving]
    split
    · exact (finishSending_receiveBuffer _).trans ((processSendData_receiveBuffer c e s').trans same)
    · exact same

theorem copyCall_none (state : s.state ≠ .established) (state' : s.state ≠ .closewait) : s.copyCall c e = none := by
  unfold copyCall
  dsimp only
  split
  · split
    · rename_i established
      exact absurd established state
    · rename_i closewait
      exact absurd closewait state'
    · rfl
  · rfl

/-- A round without a segment: only ESTABLISHED and CLOSEWAIT read. -/
theorem input_idle_receiveBuffer (c : Config) (e : Env) (s : TcpSocket) :
    (s.input c e none).receiveBuffer = s.receiveBufferIdle c e := by
  have same := updateHistory_receiveBuffer c e s true
  have unread : s.state ≠ .established → s.state ≠ .closewait → s.receiveBufferIdle c e = s.receiveBuffer := by
    intro state state'
    unfold receiveBufferIdle
    rw [copyCall_none state state']
  unfold input
  cases state : s.state with
  | established => exact establishedIdle_receiveBuffer c e state
  | closewait => exact closewaitIdle_receiveBuffer c e state
  | closed | listen => exact (unread (by simp [state]) (by simp [state])).symm
  | synsent | synrcvd => exact same.trans (unread (by simp [state]) (by simp [state])).symm
  | finwait1 =>
    rw [unread (by simp [state]) (by simp [state])]
    change (s.finwait1Idle c e).receiveBuffer = _
    unfold finwait1Idle
    dsimp only
    split_ifs <;> exact (processAck_receiveBuffer c e _).trans same
  | finwait2 =>
    rw [unread (by simp [state]) (by simp [state])]
    exact (processAck_receiveBuffer c e _).trans same
  | lastack =>
    rw [unread (by simp [state]) (by simp [state])]
    change (s.lastackIdle c e).receiveBuffer = _
    unfold lastackIdle
    dsimp only
    split_ifs <;> exact same
  | closing =>
    rw [unread (by simp [state]) (by simp [state])]
    change (s.closingIdle c e).receiveBuffer = _
    unfold closingIdle
    dsimp only
    split_ifs <;> exact same
  | timewait =>
    rw [unread (by simp [state]) (by simp [state])]
    change (s.timewaitIdle c e).receiveBuffer = _
    unfold timewaitIdle
    dsimp only
    split_ifs <;> exact same

/-! ### Rounds with a segment -/

/-- The segment is the SYN that begins the peer's sequence numbers. -/
def startsStream (c : Config) (e : Env) (s : TcpSocket) (segment : TcpSegment) : Prop :=
  s.state = .listen ∧ segment.rst = false ∨
    s.state = .synsent ∧ segment.syn = true ∧
      (segment.ack = true → (s.handleAck c e segment.acknum).seqnumUnacked = s.seqnumNext)

instance (c : Config) (e : Env) (s : TcpSocket) (segment : TcpSegment) : Decidable (s.startsStream c e segment) :=
  inferInstanceAs (Decidable (_ ∨ _))

/-- The receive buffer after a round with a segment. -/
def receiveBufferTaking (c : Config) (e : Env) (s : TcpSocket) (r : ReceiveBuffer) : TcpReceiveBuffer :=
  if s.startsStream c e r.segment then s.receiveBuffer.setFirstSeqNum (r.segment.seqnum + 1)
  else if s.takesData ∧ r.segment.plain then (s.dataTaken c r).receiveBuffer
  else s.receiveBuffer

theorem listenSegment_receiveBuffer (c : Config) (e : Env) (s : TcpSocket) (r : ReceiveBuffer) :
    (s.listenSegment c e r).receiveBuffer =
      if r.segment.rst = false then s.receiveBuffer.setFirstSeqNum (r.segment.seqnum + 1) else s.receiveBuffer := by
  unfold listenSegment
  cases r.segment.rst with
  | true => rfl
  | false =>
    rw [if_neg Bool.false_ne_true, if_pos rfl]
    dsimp only
    have adopted := (adoptMss_same c { s with receiveBuffer := s.receiveBuffer.setFirstSeqNum (r.segment.seqnum + 1) } r.segment).1
    generalize adoptMss c { s with receiveBuffer := s.receiveBuffer.setFirstSeqNum (r.segment.seqnum + 1) } r.segment = s' at adopted ⊢
    have same := (requestSendBufferTcp_spec c e (s'.freeReceivedSegment r)).receiveBuffer
    split <;> rename_i request <;> rw [request] at same <;> exact same.trans adopted

theorem synsentEstablish_receiveBuffer (c : Config) (e : Env) (s : TcpSocket) (segment : TcpSegment) :
    (s.synsentEstablish c e segment).receiveBuffer = s.receiveBuffer.setFirstSeqNum (segment.seqnum + 1) := by
  unfold synsentEstablish
  dsimp only
  split <;> rename_i sent
  all_goals
    have same := congrArg (·.2.receiveBuffer) sent
    exact same.symm.trans (sendAck_receiveBuffer c e _)

theorem synsentReset_receiveBuffer (c : Config) (e : Env) (s : TcpSocket) (acknum : SeqNum) :
    (s.synsentReset c e acknum).receiveBuffer = s.receiveBuffer := by
  have same := (requestSendBufferTcp_spec c e s).receiveBuffer
  unfold synsentReset
  split <;> rename_i request <;> rw [request] at same <;> exact same

theorem synsentSimultaneous_receiveBuffer (c : Config) (e : Env) (s : TcpSocket) (segment : TcpSegment) :
    (s.synsentSimultaneous c e segment).receiveBuffer = s.receiveBuffer.setFirstSeqNum (segment.seqnum + 1) := by
  have same := (requestSendBufferTcp_spec c e (s.crossed segment)).receiveBuffer
  rcases synsentSimultaneous_cases c e s segment with ⟨-, eq⟩ | ⟨-, eq⟩
  · rw [eq]
    rfl
  · rw [eq, requestSendBuffer_historyOnly e (s.crossed segment)]
    rfl

theorem handleAck_unacked (c : Config) (e : Env) (s : TcpSocket) (acknum : SeqNum) :
    (s.handleAck c e acknum).seqnumUnacked = if s.ackAdvances acknum then acknum else s.seqnumUnacked := by
  by_cases advances : s.ackAdvances acknum
  · rw [if_pos advances]
    unfold handleAck setSeqnumUnacked
    rw [if_neg advances.1, if_neg advances.2]
    split_ifs <;> rfl
  · rw [if_neg advances, handleAck_of_not_advances advances]

/-- SYNSENT answers the SYN that begins the peer's stream; every other segment is refused. -/
theorem synsentSegment_cases (c : Config) (e : Env) (state : s.state = .synsent) (r : ReceiveBuffer) :
    let s₁ := (s.adoptMss c r.segment).freeReceivedSegment r
    s.startsStream c e r.segment ∧
        (s.synsentSegment c e r = (s₁.handleAck c e r.segment.acknum).synsentEstablish c e r.segment ∨
          s.synsentSegment c e r = s₁.synsentSimultaneous c e r.segment) ∨
      ¬s.startsStream c e r.segment ∧
        (s.synsentSegment c e r = s₁ ∨ s.synsentSegment c e r = s₁.abort ∨
          s.synsentSegment c e r = s₁.synsentReset c e r.segment.acknum ∨
          s.synsentSegment c e r = (s₁.handleAck c e r.segment.acknum).synsentReset c e r.segment.acknum) := by
  obtain ⟨-, unacked, next⟩ := adoptMss_same c s r.segment
  have starts : s.startsStream c e r.segment ↔ r.segment.syn = true ∧
      (r.segment.ack = true → (s.handleAck c e r.segment.acknum).seqnumUnacked = s.seqnumNext) := by
    unfold startsStream
    simp [state]
  simp only [starts]
  unfold synsentSegment
  dsimp only
  generalize adopted : (s.adoptMss c r.segment).freeReceivedSegment r = s'
  have acked : (s'.handleAck c e r.segment.acknum).seqnumUnacked = (s.handleAck c e r.segment.acknum).seqnumUnacked := by
    have unacked' : s'.seqnumUnacked = s.seqnumUnacked := by rw [← adopted]; exact unacked
    have same : s'.ackAdvances r.segment.acknum ↔ s.ackAdvances r.segment.acknum := by
      unfold ackAdvances
      rw [unacked', ← adopted]
      exact and_congr_right' (not_congr (by rw [freeReceivedSegment, next]))
    simp only [handleAck_unacked, same, unacked']
  have next' : (s'.handleAck c e r.segment.acknum).seqnumNext = s.seqnumNext := by
    rw [handleAck_eq, ← adopted]
    exact next
  cases r.segment.ack <;> cases r.segment.syn
  · exact .inr ⟨by simp, .inl rfl⟩
  · exact .inl ⟨by simp, .inr rfl⟩
  · refine .inr ⟨by simp, ?_⟩
    rw [if_pos rfl, if_neg Bool.false_ne_true]
    cases r.segment.rst
    · exact .inr (.inr (.inl rfl))
    · rw [if_pos rfl]
      split
      · exact .inr (.inl rfl)
      · exact .inl rfl
  · rw [if_pos rfl, if_pos rfl, acked, next']
    by_cases correct : (s.handleAck c e r.segment.acknum).seqnumUnacked = s.seqnumNext
    · exact .inl ⟨⟨rfl, fun _ => correct⟩, .inl (if_pos correct)⟩
    · exact .inr ⟨fun both => correct (both.2 rfl), .inr (.inr (.inr (if_neg correct)))⟩

theorem synsentSegment_receiveBuffer (c : Config) (e : Env) (state : s.state = .synsent) (r : ReceiveBuffer) :
    (s.synsentSegment c e r).receiveBuffer =
      if s.startsStream c e r.segment then s.receiveBuffer.setFirstSeqNum (r.segment.seqnum + 1) else s.receiveBuffer := by
  have same : ((s.adoptMss c r.segment).freeReceivedSegment r).receiveBuffer = s.receiveBuffer := (adoptMss_same c s r.segment).1
  rcases synsentSegment_cases c e state r with ⟨starts, answered⟩ | ⟨idle, refused⟩
  · rw [if_pos starts]
    rcases answered with eq | eq <;> rw [eq]
    · rw [synsentEstablish_receiveBuffer, handleAck_receiveBuffer, same]
    · rw [synsentSimultaneous_receiveBuffer, same]
  · rw [if_neg idle]
    rcases refused with eq | eq | eq | eq <;> rw [eq]
    · exact same
    · exact same
    · rw [synsentReset_receiveBuffer, same]
    · rw [synsentReset_receiveBuffer, handleAck_receiveBuffer, same]

theorem synrcvdSegment_receiveBuffer (c : Config) (e : Env) (s : TcpSocket) (r : ReceiveBuffer) :
    (s.synrcvdSegment c e r).receiveBuffer = s.receiveBuffer := by
  have acked : (s.synrcvdAck c e r.segment).receiveBuffer = s.receiveBuffer := by
    have same := handleAck_receiveBuffer c e s r.segment.acknum
    unfold synrcvdAck
    dsimp only
    split_ifs
    · exact same
    · exact same
  unfold synrcvdSegment
  dsimp only
  split_ifs
  · rfl
  · exact acked
  · exact resendFirst_receiveBuffer s
  · rfl

/-- A round with a segment: a SYN sets the first sequence number, and the data of other segments is
stored. -/
theorem input_segment_receiveBuffer (c : Config) (e : Env) (s : TcpSocket) (r : ReceiveBuffer) :
    (s.input c e (some r)).receiveBuffer = s.receiveBufferTaking c e r := by
  unfold receiveBufferTaking
  by_cases behind : s.synchronized
  · have unstarted : ¬s.startsStream c e r.segment := by
      rintro (listening | sent)
      · exact behind.2.1 listening.1
      · exact behind.2.2.1 sent.1
    rw [if_neg unstarted]
    by_cases plain : r.segment.plain
    · rw [(input_processed c e behind plain).1.received.receiveBuffer]
      by_cases takes : s.takesData
      · rw [if_pos ⟨takes, plain⟩]
      · rw [if_neg fun both => takes both.1, dataTaken, if_neg takes]
    · rw [if_neg fun both => plain both.2]
      cases rst : r.segment.rst with
      | true =>
        rw [input_rst c e behind rst]
        rfl
      | false =>
        have syn : r.segment.syn = true := by
          cases syn : r.segment.syn with
          | true => rfl
          | false => exact absurd ⟨rst, syn⟩ plain
        rw [input_syn c e behind rst syn]
        rfl
  · have unread : ¬(s.takesData ∧ r.segment.plain) := by
      rintro ⟨takes | takes | takes, -⟩ <;> exact behind (by simp [synchronized, takes])
    rw [if_neg unread]
    unfold input
    cases state : s.state with
    | closed => rw [if_neg (by simp [startsStream, state])]; rfl
    | listen =>
      have starts : s.startsStream c e r.segment ↔ r.segment.rst = false := by
        unfold startsStream
        simp [state]
      simp only [starts]
      exact listenSegment_receiveBuffer c e s r
    | synsent => exact synsentSegment_receiveBuffer c e state r
    | synrcvd =>
      rw [if_neg (by simp [startsStream, state])]
      exact synrcvdSegment_receiveBuffer c e s r
    | established | finwait1 | finwait2 | closewait | lastack | closing | timewait =>
      exact absurd (by simp [synchronized, state]) behind

/-- The receive buffer after a round. -/
def receiveBufferAfter (c : Config) (e : Env) (s : TcpSocket) : Option ReceiveBuffer → TcpReceiveBuffer
  | none => s.receiveBufferIdle c e
  | some r => s.receiveBufferTaking c e r

theorem input_receiveBuffer (c : Config) (e : Env) (s : TcpSocket) (segment : Option ReceiveBuffer) :
    (s.input c e segment).receiveBuffer = s.receiveBufferAfter c e segment := by
  cases segment with
  | none => exact input_idle_receiveBuffer c e s
  | some r => exact input_segment_receiveBuffer c e s r

/-! ### Calls -/

theorem genInitialSeqnum_receiveBuffer (c : Config) (e : Env) (s : TcpSocket) :
    (s.genInitialSeqnum c e).receiveBuffer = s.receiveBuffer := by
  unfold genInitialSeqnum
  dsimp only
  split_ifs <;> rfl

theorem listenBase_receiveBuffer (c : Config) (e : Env) (s : TcpSocket) : (s.listenBase c e).receiveBuffer = s.receiveBuffer := by
  unfold listenBase
  split_ifs
  · exact genInitialSeqnum_receiveBuffer c e s
  · rfl

theorem connectBase_receiveBuffer (c : Config) (e : Env) (s : TcpSocket) : (s.connectBase c e).receiveBuffer = s.receiveBuffer := by
  have same := (requestSendBufferTcp_spec c e { s.genInitialSeqnum c e with sendWindow := 0 }).receiveBuffer
  unfold connectBase
  dsimp only
  split <;> rename_i request <;> rw [request] at same <;> exact same.trans (genInitialSeqnum_receiveBuffer c e s)

theorem closeBase_receiveBuffer (c : Config) (e : Env) (s : TcpSocket) : (s.closeBase c e).receiveBuffer = s.receiveBuffer := by
  have same := (requestSendBufferTcp_spec c e s).receiveBuffer
  unfold closeBase
  split_ifs
  · split <;> rename_i request <;> rw [request] at same <;> exact same
  · rfl

theorem addToReceiveQueue_receiveBuffer (c : Config) (e : Env) (s : TcpSocket) (segment : TcpSegment) (size : BitVec 16) :
    (s.addToReceiveQueue c e segment size).receiveBuffer = s.receiveBuffer := by
  unfold addToReceiveQueue
  split_ifs
  · rfl
  · dsimp only
    split <;> rfl

end TcpSocket

namespace Machine

open TcpSocket

theorem settle_receiveBuffer (c : Config) (e : Env) (m : Machine) : (m.settle c e).sock.receiveBuffer = m.sock.receiveBuffer := by
  unfold settle
  split
  · rfl
  · rfl
  · dsimp only
    split_ifs
    · exact (processAck_receiveBuffer c e _).trans (updateHistory_receiveBuffer c e m.sock true)
    · rfl
  · split
    · rename_i s r _ taken
      obtain ⟨rest, queued, rfl⟩ := listenPacket_eq taken
      rfl
    · rfl
    · rfl
    · split_ifs
      · rfl
      · exact listenBase_receiveBuffer c e m.sock
  · rfl

theorem begin_receiveBuffer (c : Config) (e : Env) (m : Machine) (event : Event) :
    (m.begin c e event).sock.receiveBuffer = m.sock.receiveBuffer := by
  unfold begin
  cases event with
  | connect =>
    dsimp only
    split_ifs
    · exact connectBase_receiveBuffer c e { m.sock with sport := e.freePort }
    · rfl
  | listen =>
    dsimp only
    split_ifs
    · rfl
    · exact listenBase_receiveBuffer c e m.sock
  | close => exact closeBase_receiveBuffer c e m.sock
  | write | receive | poll => dsimp only; split_ifs <;> rfl
  | setPorts | setMaxReceiveWindow | arrive | tick => rfl

/-- Only the rounds of the state machine change the receive buffer. -/
theorem step_receiveBuffer (c : Config) (e : Env) (m : Machine) (event : Event) :
    (m.step c (e, event)).sock.receiveBuffer =
      match event, m.inputOf e with
      | .tick, some (s, segment) => s.receiveBufferAfter c e segment
      | _, _ => m.sock.receiveBuffer := by
  have begins : (if m.call = none then m.begin c e event else m).sock.receiveBuffer = m.sock.receiveBuffer := by
    split_ifs
    · exact begin_receiveBuffer c e m event
    · rfl
  cases event with
  | tick =>
    change (m.tick c e).sock.receiveBuffer = _
    unfold tick
    cases m.inputOf e with
    | none => exact settle_receiveBuffer c e m
    | some input => exact input_receiveBuffer c e input.1 input.2
  | arrive segment size => exact addToReceiveQueue_receiveBuffer c e m.sock segment size
  | connect | listen | write | receive | close | poll | setPorts | setMaxReceiveWindow => exact begins

/-- What `input` is called with has the machine's receive buffer. -/
theorem inputOf_receiveBuffer {e : Env} {m : Machine} {s : TcpSocket} {segment : Option ReceiveBuffer}
    (calls : m.inputOf e = some (s, segment)) : s.receiveBuffer = m.sock.receiveBuffer := by
  cases segment with
  | none => rw [inputOf_none calls]
  | some r =>
    obtain ⟨rest, dport, -, rfl⟩ := inputOf_some calls
    rfl

end Machine

end IPStack
