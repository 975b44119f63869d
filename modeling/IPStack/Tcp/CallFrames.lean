import IPStack.Tcp.Inert
import IPStack.Tcp.SendAttempts

/-! What a round of `recv_loop` leaves of the call in progress. -/

namespace IPStack

namespace TcpSocket

/-- The call in progress goes on as it was, or it has ended. -/
structure Calms (s s' : TcpSocket) : Prop where
  waits : s'.waiting = true → s.waiting = true ∧ s'.receiving = s.receiving
  receives : s'.receiving = true → s.receiving = true
  rests : s.applicationBuflen = 0 → s'.applicationBuflen = 0
  dies : s'.state = .closed → s.state = .closed ∨ s'.applicationBuflen = 0 ∧ s'.receiving = false

variable {c : Config} {e : Env} {s s' s'' : TcpSocket} {r : ReceiveBuffer}

theorem Calms.of_same (waiting : s'.waiting = s.waiting) (receiving : s'.receiving = s.receiving)
    (buflen : s'.applicationBuflen = s.applicationBuflen) (alive : s'.state = .closed → s.state = .closed) : Calms s s' where
  waits waits := ⟨waiting ▸ waits, receiving⟩
  receives receives := receiving ▸ receives
  rests rests := buflen.trans rests
  dies closed := .inl (alive closed)

theorem Calms.refl (s : TcpSocket) : Calms s s := .of_same rfl rfl rfl id

theorem Calms.quiet (calms : Calms s s') (quiet : s.receiving = false) : s'.receiving = false := by
  cases receiving : s'.receiving with
  | false => rfl
  | true => exact absurd (quiet.symm.trans (calms.receives receiving)) Bool.false_ne_true

theorem Calms.trans (first : Calms s s') (second : Calms s' s'') : Calms s s'' where
  waits waiting := by
    obtain ⟨waiting', receiving'⟩ := second.waits waiting
    obtain ⟨waiting, receiving⟩ := first.waits waiting'
    exact ⟨waiting, receiving'.trans receiving⟩
  receives := first.receives ∘ second.receives
  rests := second.rests ∘ first.rests
  dies closed := by
    rcases second.dies closed with closed | ended
    · exact (first.dies closed).imp_right fun ended => ended.imp second.rests second.quiet
    · exact .inr ended

/-- The call has ended, and nothing is left of it. -/
theorem Calms.ended (waiting : s'.waiting = false) (receiving : s'.receiving = false) (buflen : s'.applicationBuflen = 0) :
    Calms s s' where
  waits waits := absurd (waiting.symm.trans waits) Bool.false_ne_true
  receives receives := absurd (receiving.symm.trans receives) Bool.false_ne_true
  rests _ := buflen
  dies _ := .inr ⟨buflen, receiving⟩

theorem abort_calms (s s₁ : TcpSocket) : Calms s s₁.abort := .ended rfl rfl rfl

theorem HistoryOnly.calms (only : HistoryOnly s s') : Calms s s' := by
  unfold HistoryOnly at only
  exact .of_same (by rw [only]) (by rw [only]) (by rw [only]) (by rw [only]; exact id)

theorem Updated.calms (updated : Updated s s') : Calms s s' := by
  unfold Updated at updated
  exact .of_same (by rw [updated]) (by rw [updated]) (by rw [updated]) (by rw [updated]; exact id)

theorem Replied.calms (replied : Replied s s') : Calms s s' := by
  unfold Replied at replied
  exact .of_same (by rw [replied]) (by rw [replied]) (by rw [replied]) (by rw [replied]; exact id)

/-- The states behind `close`. -/
def Late (s : TcpSocket) : Prop :=
  s.state = .finwait1 ∨ s.state = .finwait2 ∨ s.state = .closing ∨ s.state = .lastack ∨ s.state = .timewait

/-- A call that goes on finds the socket in the same part of its life, and a `receive` in an
open socket ends when the application stops waiting. -/
structure Steady (s s' : TcpSocket) : Prop extends Calms s s' where
  opened : s'.waiting = true → s.isOpen → s'.isOpen
  late : s'.waiting = true → s.Late → s'.Late
  keeps : s.isOpen → s.waiting = true → s'.receiving = true → s'.waiting = true

theorem Steady.of_state (calms : Calms s s') (state : s'.state = s.state) (waiting : s'.waiting = s.waiting) : Steady s s' where
  toCalms := calms
  opened _ opened := by rwa [isOpen, state]
  late _ late := by rwa [Late, state]
  keeps _ waits _ := waiting.trans waits

theorem Steady.trans (first : Steady s s') (second : Steady s' s'') : Steady s s'' where
  toCalms := first.toCalms.trans second.toCalms
  opened waiting opened := second.opened waiting (first.opened (second.waits waiting).1 opened)
  late waiting late := second.late waiting (first.late (second.waits waiting).1 late)
  keeps opened waits receiving := by
    have waits' := first.keeps opened waits (second.receives receiving)
    exact second.keeps (first.opened waits' opened) waits' receiving

theorem Steady.ended (waiting : s'.waiting = false) (receiving : s'.receiving = false) (buflen : s'.applicationBuflen = 0) :
    Steady s s' where
  toCalms := .ended waiting receiving buflen
  opened waits := absurd (waiting.symm.trans waits) Bool.false_ne_true
  late waits := absurd (waiting.symm.trans waits) Bool.false_ne_true
  keeps _ _ receives := absurd (receiving.symm.trans receives) Bool.false_ne_true

/-- A state that is neither open nor behind `close` is left in any direction. -/
theorem Steady.of_early (calms : Calms s s') (early : ¬s.isOpen ∧ ¬s.Late) : Steady s s' :=
  ⟨calms, fun _ opened => absurd opened early.1, fun _ late => absurd late early.2, fun opened => absurd opened early.1⟩

theorem abort_steady (s s₁ : TcpSocket) : Steady s s₁.abort := .ended rfl rfl rfl

theorem updateHistory_steady (c : Config) (e : Env) (doRetransmit : Bool) (alive : s.state ≠ .closed) :
    Steady s (s.updateHistory c e doRetransmit) := by
  rcases updateHistory_cases c e doRetransmit alive with updated | ⟨-, s₁, eq⟩
  · refine .of_state updated.calms ?_ ?_ <;>
      · unfold Updated at updated
        rw [updated]
  · rw [eq]
    exact abort_steady s s₁

theorem Replied.steady (replied : Replied s s') : Steady s s' := by
  refine .of_state replied.calms replied.state ?_
  unfold Replied at replied
  rw [replied]

theorem processAck_steady (c : Config) (e : Env) (alive : s.state ≠ .closed) : Steady s (s.processAck c e) := by
  unfold processAck
  split_ifs
  · exact (sendAck_replied c e alive).steady
  · exact .of_state (.refl s) rfl rfl

/-! ### Behind the handshake -/

theorem establishedSegment_state (c : Config) (e : Env) (state : s.state = .established) (plain : r.segment.plain) :
    (s.establishedSegment c e r).isOpen := by
  unfold establishedSegment
  rw [if_neg (by simp [plain.1]), if_neg (by simp [plain.2])]
  dsimp only
  generalize taken : TcpSocket.freeUnless _ _ _ = s₁
  have same : s₁.state = .established := by
    rw [← taken, (freeUnless_received _ _ _).state, (updateSendWindow_received _ _ _ _).state,
      (handleData_received _ _ _ _ _).state, (handleFin_received _ _ _ _).state, acceptAck_eq, state]
  split_ifs <;> first | exact .inr rfl | exact .inl same

theorem finwait1Segment_state (c : Config) (e : Env) (state : s.state = .finwait1) (plain : r.segment.plain) :
    (s.finwait1Segment c e r).state = .finwait1 ∨ (s.finwait1Segment c e r).state = .closing ∨
      (s.finwait1Segment c e r).state = .timewait := by
  unfold finwait1Segment
  rw [if_neg (by simp [plain.1]), if_neg (by simp [plain.2])]
  dsimp only
  generalize taken : TcpSocket.freeUnless _ _ _ = s₁
  have same : s₁.state = .finwait1 := by
    rw [← taken, (freeUnless_received _ _ _).state, (handleData_received _ _ _ _ _).state,
      (handleFin_received _ _ _ _).state, acceptAck_eq, state]
  split_ifs
  · exact .inr (.inr rfl)
  · exact .inr (.inl rfl)
  · exact .inl same

theorem finwait2Segment_state (c : Config) (e : Env) (state : s.state = .finwait2) (plain : r.segment.plain) :
    (s.finwait2Segment c e r).state = .finwait2 ∨ (s.finwait2Segment c e r).state = .timewait := by
  unfold finwait2Segment
  rw [if_neg (by simp [plain.1]), if_neg (by simp [plain.2])]
  dsimp only
  generalize taken : TcpSocket.freeUnless _ _ _ = s₁
  have same : s₁.state = .finwait2 := by
    rw [← taken, (freeUnless_received _ _ _).state, (handleData_received _ _ _ _ _).state,
      (handleFin_received _ _ _ _).state, state]
  split_ifs
  · exact .inr rfl
  · exact .inl same

theorem Touched.calms (touched : Touched s s') (alive : s'.state = .closed → s.state = .closed) : Calms s s' := by
  unfold Touched at touched
  exact .of_same (by rw [touched]) (by rw [touched]) (by rw [touched]) alive

theorem input_plain_steady (c : Config) (e : Env) (behind : s.synchronized) (plain : r.segment.plain) :
    Steady s (s.input c e (some r)) := by
  obtain ⟨processed, unchanged⟩ := input_processed c e behind plain
  have waiting : (s.input c e (some r)).waiting = s.waiting := by
    have touched := processed.touched
    unfold Touched at touched
    rw [touched]
  by_cases takes : s.takesData
  · rcases takes with state | state | state
    · have eq : s.input c e (some r) = s.establishedSegment c e r := by simp only [input, established, state]
      have opened := establishedSegment_state c e state plain
      rw [← eq] at opened
      have calms := processed.touched.calms fun closed => by simp [isOpen, closed] at opened
      exact ⟨calms, fun _ _ => opened, fun _ late => absurd late (by simp [Late, state]), fun _ waits _ => waiting.trans waits⟩
    · have eq : s.input c e (some r) = s.finwait1Segment c e r := by simp only [input, finwait1, state]
      have late : (s.finwait1Segment c e r).Late := by
        rcases finwait1Segment_state c e state plain with next | next | next <;> simp [Late, next]
      rw [← eq] at late
      have calms := processed.touched.calms fun closed => by simp [Late, closed] at late
      have shut : ¬s.isOpen := by simp [isOpen, state]
      exact ⟨calms, fun _ opened => absurd opened shut, fun _ _ => late, fun opened => absurd opened shut⟩
    · have eq : s.input c e (some r) = s.finwait2Segment c e r := by simp only [input, finwait2, state]
      have late : (s.finwait2Segment c e r).Late := by
        rcases finwait2Segment_state c e state plain with next | next <;> simp [Late, next]
      rw [← eq] at late
      have calms := processed.touched.calms fun closed => by simp [Late, closed] at late
      have shut : ¬s.isOpen := by simp [isOpen, state]
      exact ⟨calms, fun _ opened => absurd opened shut, fun _ _ => late, fun opened => absurd opened shut⟩
  · have same := unchanged.mpr fun both => takes both.1
    exact .of_state (processed.touched.calms fun closed => by rwa [← same]) same waiting

theorem input_synchronized_steady (c : Config) (e : Env) (behind : s.synchronized) (r : ReceiveBuffer) :
    Steady s (s.input c e (some r)) := by
  cases rst : r.segment.rst with
  | true =>
    rw [input_rst c e behind rst]
    exact abort_steady s _
  | false =>
    cases syn : r.segment.syn with
    | true =>
      have freed : Steady s (s.freeReceivedSegment r) := .of_state (.of_same rfl rfl rfl id) rfl rfl
      exact freed.trans (input_syn c e behind rst syn).steady
    | false => exact input_plain_steady c e behind ⟨rst, syn⟩

/-! ### The handshake -/

/-- The segment is freed after its MSS is adopted. -/
theorem taking_calms (c : Config) (s : TcpSocket) (segment : TcpSegment) (r : ReceiveBuffer) :
    Calms s ((s.adoptMss c segment).freeReceivedSegment r) := by
  unfold adoptMss setMss initSlowStart
  dsimp only
  split_ifs <;> exact .of_same rfl rfl rfl id

theorem updateHistory_calms (c : Config) (e : Env) (s : TcpSocket) (doRetransmit : Bool) :
    Calms s (s.updateHistory c e doRetransmit) := by
  rw [updateHistory_eq]
  split_ifs with killed
  · exact abort_calms s _
  · cases interface : e.interface with
    | false =>
      have body : s.updateHistoryBody c e doRetransmit = s.clearHistory := by simp [updateHistoryBody, interface]
      rw [body]
      exact .of_same rfl rfl rfl id
    | true =>
      have updated := updateHistoryBody_updated (c := c) interface s doRetransmit
      have frame := updated.frame
      refine .of_same (by rw [frame]) (by rw [frame]) (by rw [frame]) fun closed => ?_
      rcases updated.state with same | ⟨_, -, r, _, exceeded⟩
      · rwa [← same]
      · exact absurd ⟨exceeded.2.2.1, closed⟩ killed

theorem requestSendBufferTcp_calms (c : Config) (e : Env) (s : TcpSocket) : Calms s (s.requestSendBufferTcp c e).2 := by
  unfold requestSendBufferTcp
  dsimp only
  split_ifs
  · exact updateHistory_calms c e s false
  · exact (updateHistory_calms c e s false).trans (requestSendBuffer_historyOnly e _).calms
  · exact (requestSendBuffer_historyOnly e s).calms

/-- A handler that sends a segment if there is a buffer for it. -/
theorem request_calms (c : Config) (e : Env) (s : TcpSocket) (send : TcpSocket → Nat → TcpSocket)
    (sends : ∀ s b, Calms s (send s b)) :
    Calms s (match s.requestSendBufferTcp c e with
      | (some b, s) => send s b
      | (none, s) => s) := by
  have requested := requestSendBufferTcp_calms c e s
  generalize s.requestSendBufferTcp c e = result at requested ⊢
  obtain ⟨block, s₁⟩ := result
  cases block with
  | none => exact requested
  | some b => exact requested.trans (sends s₁ b)

theorem sendAckNum_calms (c : Config) (e : Env) (s : TcpSocket) (ackNum : SeqNum) : Calms s (s.sendAckNum c e ackNum).2 := by
  have requested := requestSendBufferTcp_calms c e s
  unfold sendAckNum
  generalize s.requestSendBufferTcp c e = result at requested ⊢
  obtain ⟨block, s₁⟩ := result
  cases block with
  | none => exact requested
  | some b => exact requested.trans (.of_same rfl rfl rfl id)

theorem processAck_calms (c : Config) (e : Env) (s : TcpSocket) : Calms s (s.processAck c e) := by
  unfold processAck
  split_ifs
  · have cleared : Calms s { s with ackTriggered := false } := .of_same rfl rfl rfl id
    exact cleared.trans (sendAckNum_calms c e _ _)
  · exact .refl s

theorem listenSegment_calms (c : Config) (e : Env) (s : TcpSocket) (r : ReceiveBuffer) :
    Calms s (s.listenSegment c e r) := by
  unfold listenSegment
  split_ifs
  · exact abort_calms s _
  · have started : Calms s { s with receiveBuffer := s.receiveBuffer.setFirstSeqNum (r.segment.seqnum + 1) } :=
      .of_same rfl rfl rfl id
    have taking := taking_calms c { s with receiveBuffer := s.receiveBuffer.setFirstSeqNum (r.segment.seqnum + 1) }
      r.segment r
    exact started.trans (taking.trans (request_calms c e _ (fun s b => s.listenIn c e b) fun _ _ => .of_same rfl rfl rfl nofun))

theorem handleAck_calms (c : Config) (e : Env) (s : TcpSocket) (acknum : SeqNum) : Calms s (s.handleAck c e acknum) := by
  rw [handleAck_eq]
  exact .of_same rfl rfl rfl id

theorem synsentEstablish_calms (c : Config) (e : Env) (s : TcpSocket) (segment : TcpSegment) :
    Calms s (s.synsentEstablish c e segment) := by
  unfold synsentEstablish
  dsimp only
  generalize established : TcpSocket.clearHistory _ = s₁
  have calms : Calms s s₁ := by
    rw [← established]
    exact .of_same rfl rfl rfl nofun
  have replied := (sendAck_replied (s := s₁) c e (by rw [← established]; exact nofun)).calms
  generalize s₁.sendAck c e = result at replied ⊢
  obtain ⟨sent, s₂⟩ := result
  cases sent with
  | true => exact calms.trans (replied.trans ⟨fun waits => absurd waits Bool.false_ne_true, id, id, .inl⟩)
  | false => exact calms.trans replied

theorem synsentReset_calms (c : Config) (e : Env) (s : TcpSocket) (acknum : SeqNum) :
    Calms s (s.synsentReset c e acknum) :=
  request_calms c e s (fun s b => s.transmit c e b { s.writeHeader c with seqnum := acknum, rst := true } 0)
    fun _ _ => .of_same rfl rfl rfl id

theorem synsentSimultaneous_calms (c : Config) (e : Env) (s : TcpSocket) (segment : TcpSegment) :
    Calms s (s.synsentSimultaneous c e segment) := by
  rcases synsentSimultaneous_cases c e s segment with ⟨-, eq⟩ | ⟨-, eq⟩
  · rw [eq]
    exact .of_same rfl rfl rfl nofun
  · rw [eq, requestSendBuffer_historyOnly e (s.crossed segment)]
    exact .of_same rfl rfl rfl id

theorem synsentSegment_calms (c : Config) (e : Env) (s : TcpSocket) (r : ReceiveBuffer) :
    Calms s (s.synsentSegment c e r) := by
  have taking := taking_calms c s r.segment r
  unfold synsentSegment
  dsimp only
  generalize (s.adoptMss c r.segment).freeReceivedSegment r = s₁ at taking
  have acked := handleAck_calms c e s₁ r.segment.acknum
  refine taking.trans ?_
  split_ifs
  · exact acked.trans (synsentEstablish_calms c e _ _)
  · exact acked.trans (synsentReset_calms c e _ _)
  · exact abort_calms s₁ _
  · exact .refl s₁
  · exact synsentReset_calms c e s₁ _
  · exact synsentSimultaneous_calms c e s₁ _
  · exact .refl s₁

theorem resendFirst_calms (s : TcpSocket) : Calms s s.resendFirst := by
  rw [resendFirst_eq]
  exact .of_same rfl rfl rfl id

theorem synrcvdSegment_calms (c : Config) (e : Env) (s : TcpSocket) (r : ReceiveBuffer) : Calms s (s.synrcvdSegment c e r) := by
  have free : ∀ s₁, Calms s s₁ → Calms s (s₁.freeReceivedSegment r) := fun s₁ calms => calms.trans (.of_same rfl rfl rfl id)
  have acked := handleAck_calms c e s r.segment.acknum
  unfold synrcvdSegment synrcvdAck
  dsimp only
  split_ifs
  · exact abort_calms s _
  · exact free _ (acked.trans ⟨fun waits => absurd waits Bool.false_ne_true, id, id, nofun⟩)
  · exact free _ acked
  · exact free _ (resendFirst_calms s)
  · exact free _ (.refl s)

theorem input_segment_steady (c : Config) (e : Env) (s : TcpSocket) (r : ReceiveBuffer) : Steady s (s.input c e (some r)) := by
  by_cases behind : s.synchronized
  · exact input_synchronized_steady c e behind r
  · cases state : s.state with
    | closed =>
      refine .of_early ?_ (by simp [isOpen, Late, state])
      simp only [input, closed, state]
      exact ⟨fun waits => absurd waits Bool.false_ne_true, id, id, .inl⟩
    | listen =>
      refine .of_early ?_ (by simp [isOpen, Late, state])
      simp only [input, listenState, state]
      exact listenSegment_calms c e s r
    | synsent =>
      refine .of_early ?_ (by simp [isOpen, Late, state])
      simp only [input, synsent, state]
      exact synsentSegment_calms c e s r
    | synrcvd =>
      refine .of_early ?_ (by simp [isOpen, Late, state])
      simp only [input, synrcvd, state]
      exact synrcvdSegment_calms c e s r
    | _ => exact absurd (by simp [synchronized, state]) behind

/-! ### Rounds without a segment -/

/-- `updateHistory` leaves the call alone, or the connection is aborted. -/
theorem updateHistory_ends (c : Config) (e : Env) (alive : s.state ≠ .closed) :
    Updated s (s.updateHistory c e true) ∨ ∃ s₁ : TcpSocket, s.updateHistory c e true = s₁.abort :=
  (updateHistory_cases c e true alive).imp_right fun killed => killed.2

theorem Updated.alive (updated : Updated s s') (alive : s.state ≠ .closed) : s'.state ≠ .closed := by
  unfold Updated at updated
  rwa [updated]

theorem processAck_abort (c : Config) (e : Env) (s : TcpSocket) : s.abort.processAck c e = s.abort := rfl

theorem finishSending_steady (quiet : s.receiving = false) : Steady s s.finishSending := by
  unfold finishSending
  split_ifs
  · exact ⟨⟨fun waits => absurd waits Bool.false_ne_true, id, id, .inl⟩, fun waits => absurd waits Bool.false_ne_true,
      fun waits => absurd waits Bool.false_ne_true, fun _ _ receives => absurd (quiet.symm.trans receives) Bool.false_ne_true⟩
  · exact .of_state (.refl s) rfl rfl

theorem processSendData_steady (c : Config) (e : Env) (alive : s.state ≠ .closed) : Steady s (s.processSendData c e) := by
  have all := (processSendData_sends c e s).sentAll alive
  refine .of_state ⟨fun waits => ⟨all.waiting ▸ waits, all.receiving⟩, fun receives => all.receiving ▸ receives,
    fun rests => ?_, fun closed => .inl (all.state ▸ closed)⟩ all.state all.waiting
  rw [processSendData, if_pos rests, rests]

/-- What a call has read and then forgotten. -/
theorem Steady.of_done (steady : Steady s s') : Steady s { s' with receiving := false, waiting := false } where
  waits waits := absurd waits Bool.false_ne_true
  receives receives := absurd receives Bool.false_ne_true
  rests := steady.rests
  dies closed := (steady.dies closed).imp_right fun ended => ⟨ended.1, rfl⟩
  opened waits := absurd waits Bool.false_ne_true
  late waits := absurd waits Bool.false_ne_true
  keeps _ _ receives := absurd receives Bool.false_ne_true

theorem readToApplication_steady (c : Config) (s : TcpSocket) {len : BitVec 32} (fits : len ≤ s.applicationBuflen) :
    Steady s (s.readToApplication c len) := by
  refine .of_state ⟨fun waits => ⟨waits, rfl⟩, id, fun rests => ?_, .inl⟩ rfl rfl
  change s.applicationBuflen - len = 0
  bv_omega

theorem establishedReceive_steady (c : Config) (e : Env) (alive : s.state ≠ .closed) :
    Steady s (s.establishedReceive c e) := by
  unfold establishedReceive
  dsimp only
  generalize amount : (if s.applicationBuflen < s.receiveBuffer.getRecvBytes c then s.applicationBuflen
    else s.receiveBuffer.getRecvBytes c) = len
  have fits : len ≤ s.applicationBuflen := by
    rw [← amount]
    split_ifs <;> bv_omega
  have read := (readToApplication_steady c s fits).trans
    (processAck_steady (s := s.readToApplication c len) c e alive)
  split_ifs
  · exact read.of_done
  · exact read
  · exact processAck_steady c e alive

theorem closewaitReceive_steady (c : Config) (s : TcpSocket) : Steady s (s.closewaitReceive c) := by
  have state : (s.closewaitReceive c).state = s.state := congrArg WindowView.state (closewaitReceive_windowView c s)
  refine ⟨⟨fun waits => absurd waits Bool.false_ne_true, fun receives => absurd receives Bool.false_ne_true, fun rests => ?_,
    fun closed => .inl (state ▸ closed)⟩, fun waits => absurd waits Bool.false_ne_true,
    fun waits => absurd waits Bool.false_ne_true, fun _ _ receives => absurd receives Bool.false_ne_true⟩
  unfold closewaitReceive
  dsimp only
  split_ifs with less
  · rw [rests] at less
    exact absurd less (by bv_omega)
  · exact rests

/-- A round that kills the connection leaves the aborted socket, in whatever state. -/
theorem establishedIdle_steady (c : Config) (e : Env) (state : s.state = .established) : Steady s (s.establishedIdle c e) := by
  have alive : s.state ≠ .closed := by simp [state]
  have updated := updateHistory_steady c e true alive
  unfold establishedIdle
  dsimp only
  rcases updateHistory_ends c e alive with same | ⟨s₁, killed⟩
  · have alive' := same.alive alive
    have acked := processAck_steady c e alive'
    split_ifs with receiving
    · exact updated.trans (establishedReceive_steady c e alive')
    · have alive'' : ((s.updateHistory c e true).processAck c e).state ≠ .closed := by
        unfold processAck
        split_ifs
        · rwa [(sendAck_replied c e alive').state]
        · exact alive'
      have sent := acked.trans (processSendData_steady c e alive'')
      exact updated.trans (sent.trans (finishSending_steady (sent.quiet (Bool.not_eq_true _ ▸ receiving))))
    · exact updated
  · rw [killed]
    exact abort_steady s s₁

theorem closewaitIdle_steady (c : Config) (e : Env) (state : s.state = .closewait) : Steady s (s.closewaitIdle c e) := by
  have alive : s.state ≠ .closed := by simp [state]
  have updated := updateHistory_steady c e true alive
  unfold closewaitIdle
  dsimp only
  rcases updateHistory_ends c e alive with same | ⟨s₁, killed⟩
  · have alive' := same.alive alive
    split_ifs with receiving
    · exact updated.trans (closewaitReceive_steady c _)
    · have sent := processSendData_steady (s := s.updateHistory c e true) c e alive'
      exact updated.trans (sent.trans (finishSending_steady (sent.quiet (Bool.not_eq_true _ ▸ receiving))))
    · exact updated
  · rw [killed]
    exact abort_steady s s₁

/-- The last step of the rounds behind `close`. -/
theorem Steady.of_late {next : TcpState} (calms : Calms s s') (before : s.Late)
    (late : next = .finwait2 ∨ next = .timewait) : Steady s { s' with state := next } where
  waits := calms.waits
  receives := calms.receives
  rests := calms.rests
  dies closed := by rcases late with rfl | rfl <;> exact nomatch closed
  opened _ opened := by rcases before with state | state | state | state | state <;> simp [isOpen, state] at opened
  late _ _ := by rcases late with rfl | rfl <;> simp [Late]
  keeps opened := by rcases before with state | state | state | state | state <;> simp [isOpen, state] at opened

theorem updateAck_steady (c : Config) (e : Env) (alive : s.state ≠ .closed) :
    Steady s ((s.updateHistory c e true).processAck c e) := by
  rcases updateHistory_ends c e alive with same | ⟨s₁, killed⟩
  · exact (updateHistory_steady c e true alive).trans (processAck_steady c e (same.alive alive))
  · rw [killed, processAck_abort]
    exact abort_steady s s₁

theorem input_idle_steady (c : Config) (e : Env) (s : TcpSocket) : Steady s (s.input c e none) := by
  unfold input
  cases state : s.state with
  | closed => exact .of_early ⟨fun waits => absurd waits Bool.false_ne_true, id, id, .inl⟩ (by simp [isOpen, Late, state])
  | listen => exact .of_state (.refl s) rfl rfl
  | synsent => exact updateHistory_steady c e true (by simp [state])
  | synrcvd => exact updateHistory_steady c e true (by simp [state])
  | established => exact establishedIdle_steady c e state
  | finwait1 =>
    have steady := updateAck_steady (s := s) c e (by simp [state])
    change Steady s (s.finwait1Idle c e)
    unfold finwait1Idle
    dsimp only
    split_ifs
    · exact .of_late steady.toCalms (.inl state) (.inl rfl)
    · exact steady
  | finwait2 => exact updateAck_steady c e (by simp [state])
  | closewait => exact closewaitIdle_steady c e state
  | lastack =>
    have steady := updateHistory_steady (s := s) c e true (by simp [state])
    change Steady s (s.lastackIdle c e)
    unfold lastackIdle
    dsimp only
    split_ifs
    · exact abort_steady s _
    · exact steady
  | closing =>
    have steady := updateHistory_steady (s := s) c e true (by simp [state])
    change Steady s (s.closingIdle c e)
    unfold closingIdle
    dsimp only
    split_ifs
    · exact .of_late steady.toCalms (.inr (.inr (.inl state))) (.inr rfl)
    · exact steady
  | timewait =>
    have steady := updateHistory_steady (s := s) c e true (by simp [state])
    change Steady s (s.timewaitIdle c e)
    unfold timewaitIdle
    dsimp only
    split_ifs
    · exact abort_steady s _
    · exact steady

theorem input_steady (c : Config) (e : Env) (s : TcpSocket) (segment : Option ReceiveBuffer) :
    Steady s (s.input c e segment) := by
  cases segment with
  | none => exact input_idle_steady c e s
  | some r => exact input_segment_steady c e s r

end TcpSocket

end IPStack
