import IPStack.Tcp.RetentionSteps
import IPStack.Tcp.WriteRuns

/-! The segments that a round of the state machine adds to those of a connection, and how far it
takes the connection. -/

namespace IPStack

/-- The part of its life that a connection is in. -/
inductive Stage
  | closed
  | listening
  | opening
  | opened
  | late
deriving DecidableEq

def TcpState.stage : TcpState → Stage
  | .closed => .closed
  | .listen => .listening
  | .synsent | .synrcvd => .opening
  | .established | .closewait => .opened
  | .finwait1 | .finwait2 | .lastack | .closing | .timewait => .late

/-- A round takes a connection from the first stage to the second. -/
def Stage.Leads (stage stage' : Stage) : Prop := stage' = .closed ∨ stage' = stage ∨ stage = .opening ∧ stage' = .opened

theorem Stage.Leads.trans {first second third : Stage} (leads : first.Leads second) (leads' : second.Leads third) :
    first.Leads third := by
  unfold Leads at *
  rcases leads' with closed | rfl | ⟨opening, opened⟩
  · exact .inl closed
  · exact leads
  · rcases leads with closed | same | ⟨-, opened'⟩
    · cases closed.symm.trans opening
    · exact .inr (.inr ⟨same.symm.trans opening, opened⟩)
    · cases opened'.symm.trans opening

namespace TcpSocket

/-- The segment was handed to the interface, or waits for its acknowledgement. -/
def Holds (s : TcpSocket) (segment : TcpSegment) : Prop :=
  segment ∈ s.trace.wire ∨ ∃ record ∈ s.history, record.segment = segment

/-- Segments of a kind are added, and without data the next sequence number stays. -/
structure Adds (kind : TcpSegment → Prop) (quiet : Prop) (s s' : TcpSocket) : Prop where
  holds : ∀ segment, s'.Holds segment → s.Holds segment ∨ kind segment
  next : quiet → s'.seqnumNext = s.seqnumNext
  leads : s.state.stage.Leads s'.state.stage

variable {c : Config} {e : Env} {s s' s'' : TcpSocket} {r : ReceiveBuffer} {kind : TcpSegment → Prop} {quiet : Prop}

namespace Adds

theorem of_same (wire : s'.trace.wire = s.trace.wire) (history : s'.history = s.history) (next : s'.seqnumNext = s.seqnumNext)
    (stage : s'.state.stage = s.state.stage) : Adds kind quiet s s' where
  holds segment held := by
    unfold Holds at *
    rw [wire, history] at held
    exact .inl held
  next _ := next
  leads := .inr (.inl stage)

theorem refl (s : TcpSocket) : Adds kind quiet s s := .of_same rfl rfl rfl rfl

theorem trans (first : Adds kind quiet s s') (second : Adds kind quiet s' s'') : Adds kind quiet s s'' where
  holds segment held := (second.holds segment held).elim (first.holds segment) .inr
  next still := (second.next still).trans (first.next still)
  leads := first.leads.trans second.leads

/-- The socket is left with a history that is empty. -/
theorem clears (adds : Adds kind quiet s s') (wire : s''.trace.wire = s'.trace.wire) (empty : s''.history = [])
    (next : s''.seqnumNext = s'.seqnumNext) (leads : s'.state.stage.Leads s''.state.stage) : Adds kind quiet s s'' where
  holds segment held := by
    refine adds.holds segment (.inl ?_)
    rcases held with sent | ⟨record, member, -⟩
    · rwa [wire] at sent
    · rw [empty] at member
      exact absurd member List.not_mem_nil
  next still := next.trans (adds.next still)
  leads := adds.leads.trans leads

theorem aborts (adds : Adds kind quiet s s') : Adds kind quiet s s'.abort := adds.clears rfl rfl rfl (.inl rfl)

theorem cleared (adds : Adds kind quiet s s') : Adds kind quiet s s'.clearHistory := adds.clears rfl rfl rfl (.inr (.inl rfl))

theorem moves (adds : Adds kind quiet s s') {state : TcpState} (leads : s.state.stage.Leads state.stage) :
    Adds kind quiet s { s' with state := state } := ⟨adds.holds, adds.next, leads⟩

end Adds

theorem HistoryOnly.adds (only : HistoryOnly s s') (history : s'.history = s.history) : Adds kind quiet s s' := by
  unfold HistoryOnly at only
  exact .of_same (by rw [only]) history (by rw [only]) (by rw [only])

theorem Received.adds (received : Received s s') : Adds kind quiet s s' := by
  have history := received.history
  unfold Received at received
  exact .of_same (by rw [received]) history (by rw [received]) (by rw [received])

theorem transmit_adds (c : Config) (e : Env) (s : TcpSocket) (block : Nat) {segment : TcpSegment} (msec : BitVec 32)
    (new : kind segment) : Adds kind quiet s (s.transmit c e block segment msec) where
  holds other held := by
    rcases held with sent | ⟨record, member, rfl⟩
    · rcases List.mem_cons.mp sent with rfl | old
      · exact .inr new
      · exact .inl (.inl old)
    · rcases List.mem_cons.mp member with rfl | old
      · exact .inr new
      · exact .inl (.inr ⟨record, old, rfl⟩)
  next _ := rfl
  leads := .inr (.inl rfl)

/-! ### Retransmissions and requests -/

theorem updateHistory_adds (c : Config) (e : Env) (s : TcpSocket) (doRetransmit : Bool) :
    Adds kind quiet s (s.updateHistory c e doRetransmit) := by
  have body : Adds kind quiet s (s.updateHistoryBody c e doRetransmit) := by
    cases interface : e.interface with
    | false =>
      have lost : s.updateHistoryBody c e doRetransmit = s.clearHistory := by simp [updateHistoryBody, interface]
      rw [lost]
      exact (Adds.refl s).cleared
    | true =>
      have updated := updateHistoryBody_updated (c := c) interface s doRetransmit
      refine ⟨fun segment held => .inl ?_, fun _ => by rw [updated.frame], ?_⟩
      · rcases held with sent | ⟨record, member, rfl⟩
        · rcases updated.wire segment sent with old | ⟨record, member, rfl⟩
          · exact .inl old
          · exact .inr ⟨record, member, rfl⟩
        · obtain ⟨before, kept, same⟩ := forall₂_exists_left updated.kept member
          exact .inr ⟨before, List.mem_of_mem_filter kept, same.segment.symm⟩
      · rcases updated.state with same | ⟨closed, -⟩
        · exact .inr (.inl (congrArg TcpState.stage same))
        · exact .inl (congrArg TcpState.stage closed)
  rw [updateHistory_eq]
  split
  · exact body.aborts
  · exact body

theorem requestSendBuffer_adds (e : Env) (s : TcpSocket) : Adds kind quiet s (s.requestSendBuffer e).2 := by
  unfold requestSendBuffer
  cases e.alloc s.mempool.requests <;> exact .of_same rfl rfl rfl rfl

theorem requestSendBufferTcp_adds (c : Config) (e : Env) (s : TcpSocket) : Adds kind quiet s (s.requestSendBufferTcp c e).2 := by
  unfold requestSendBufferTcp
  dsimp only
  split_ifs
  · exact updateHistory_adds c e s false
  · exact (updateHistory_adds c e s false).trans (requestSendBuffer_adds e _)
  · exact requestSendBuffer_adds e s

/-- A handler that sends a segment if there is a buffer for it. -/
theorem request_adds (c : Config) (e : Env) (s : TcpSocket) (send : TcpSocket → Nat → TcpSocket)
    (sends : ∀ s b, Adds kind quiet s (send s b)) :
    Adds kind quiet s (match s.requestSendBufferTcp c e with
      | (some b, s) => send s b
      | (none, s) => s) := by
  have requested : Adds kind quiet s (s.requestSendBufferTcp c e).2 := requestSendBufferTcp_adds c e s
  generalize s.requestSendBufferTcp c e = result at requested ⊢
  obtain ⟨block, s₁⟩ := result
  cases block with
  | none => exact requested
  | some b => exact requested.trans (sends s₁ b)

section Replies

variable (replies : ∀ segment : TcpSegment, segment.seqLen = 0 → kind segment)
include replies

theorem sendAckNum_adds (c : Config) (e : Env) (s : TcpSocket) (ackNum : SeqNum) :
    Adds kind quiet s (s.sendAckNum c e ackNum).2 := by
  have requested : Adds kind quiet s (s.requestSendBufferTcp c e).2 := requestSendBufferTcp_adds c e s
  unfold sendAckNum
  generalize s.requestSendBufferTcp c e = result at requested ⊢
  obtain ⟨block, s₁⟩ := result
  cases block with
  | none => exact requested
  | some b => exact requested.trans (transmit_adds c e s₁ b 0 (replies _ rfl))

theorem sendAck_adds (c : Config) (e : Env) (s : TcpSocket) : Adds kind quiet s (s.sendAck c e).2 := by
  have cleared : Adds kind quiet s { s with ackTriggered := false } := .of_same rfl rfl rfl rfl
  exact cleared.trans (sendAckNum_adds replies c e _ _)

theorem processAck_adds (c : Config) (e : Env) (s : TcpSocket) : Adds kind quiet s (s.processAck c e) := by
  unfold processAck
  split_ifs
  · exact sendAck_adds replies c e s
  · exact .refl s

end Replies

/-! ### Data -/

theorem sendSegment_holds (c : Config) (e : Env) (s : TcpSocket) (len : BitVec 32) {segment : TcpSegment}
    (held : (s.sendSegment c e len).2.Holds segment) :
    s.Holds segment ∨ SendAttempt.segment c ⟨e, s, len⟩ = some segment := by
  have requested : Adds (fun _ => False) True s (s.requestSendBufferTcp c e).2 := requestSendBufferTcp_adds c e s
  unfold SendAttempt.segment SendAttempt.sends SendAttempt.after
  unfold sendSegment at held ⊢
  generalize s.requestSendBufferTcp c e = result at requested held ⊢
  obtain ⟨block, s₁⟩ := result
  cases block with
  | none => exact .inl ((requested.holds segment held).resolve_right id)
  | some b =>
    obtain ⟨piece, -, -, -, -, view⟩ := sendSegmentIn_view c e s₁ b len
    have wire : (s₁.sendSegmentIn c e b len).trace.wire = piece :: s₁.trace.wire := congrArg SendView.wire view
    have history : (s₁.sendSegmentIn c e b len).history = sentRecord c e b piece (s₁.getRto c) :: s₁.history :=
      congrArg SendView.history view
    dsimp only [Holds] at held ⊢
    rw [if_pos rfl, wire, List.head?_cons]
    rw [wire, history] at held
    rcases held with sent | ⟨record, member, rfl⟩
    · rcases List.mem_cons.mp sent with rfl | old
      · exact .inr rfl
      · exact .inl ((requested.holds segment (.inl old)).resolve_right id)
    · rcases List.mem_cons.mp member with rfl | old
      · exact .inr rfl
      · exact .inl ((requested.holds _ (.inr ⟨record, old, rfl⟩)).resolve_right id)

theorem SendAttempt.segment_plain {a : SendAttempt} {segment : TcpSegment} (sent : a.segment c = some segment) :
    segment.syn = false ∧ segment.fin = false := by
  obtain ⟨e, s, len⟩ := a
  unfold SendAttempt.segment SendAttempt.sends SendAttempt.after sendSegment at sent
  dsimp only at sent
  generalize s.requestSendBufferTcp c e = result at sent
  obtain ⟨block, s₁⟩ := result
  cases block with
  | none => cases sent
  | some b =>
    obtain ⟨piece, -, -, syn, fin, view⟩ := sendSegmentIn_view c e s₁ b len
    have wire : (s₁.sendSegmentIn c e b len).trace.wire = piece :: s₁.trace.wire := congrArg SendView.wire view
    dsimp only at sent
    rw [if_pos rfl, wire, List.head?_cons] at sent
    rw [← Option.some.inj sent]
    exact ⟨syn, fin⟩

theorem Sends.holds {l : List SendAttempt} (sends : Sends c e s l s') {segment : TcpSegment} (held : s'.Holds segment) :
    s.Holds segment ∨ segment ∈ l.filterMap (SendAttempt.segment c) := by
  induction sends with
  | done => exact .inl held
  | @refused s len due refused =>
    refine (sendSegment_holds c e s len held).imp_right fun sent => ?_
    exact List.mem_filterMap.mpr ⟨_, List.mem_singleton.mpr rfl, sent⟩
  | @sent s s' len l due sent _ ih =>
    rcases ih held with held | later
    · refine (sendSegment_holds c e s len held).imp_right fun sent => ?_
      exact List.mem_filterMap.mpr ⟨_, List.mem_cons_self, sent⟩
    · obtain ⟨a, member, some⟩ := List.mem_filterMap.mp later
      exact .inr (List.mem_filterMap.mpr ⟨a, List.mem_cons_of_mem _ member, some⟩)

theorem processSendData_adds (e : Env) (alive : s.state ≠ .closed)
    (data : ∀ segment ∈ (s.sendAttempts c e).filterMap (SendAttempt.segment c), kind segment)
    (silent : quiet → s.sendAttempts c e = []) : Adds kind quiet s (s.processSendData c e) where
  holds _ held := ((processSendData_sends c e s).holds held).imp_right (data _)
  next still := by
    have sends := processSendData_sends c e s
    rw [silent still] at sends
    generalize s.processSendData c e = s' at sends ⊢
    cases sends
    rfl
  leads := .inr (.inl (congrArg TcpState.stage ((processSendData_sends c e s).sentAll alive).state))

theorem finishSending_adds (s : TcpSocket) : Adds kind quiet s s.finishSending := by
  unfold finishSending
  split_ifs
  · exact .of_same rfl rfl rfl rfl
  · exact .refl s

/-! ### Rounds without a segment -/

/-- The socket that sends data has not been closed by the retransmission counter. -/
theorem sendingSocket_alive {s₁ : TcpSocket} (sending : s.sendingSocket c e = some s₁) : s₁.state ≠ .closed := by
  obtain ⟨opened, -, -⟩ := sendingSocket_waiting sending
  have alive : s.state ≠ .closed := by rcases opened with state | state <;> simp [state]
  unfold sendingSocket at sending
  dsimp only at sending
  rcases updateHistory_ends c e alive with updated | ⟨dead, killed⟩
  · have next := updated.alive alive
    split_ifs at sending
    · rw [← Option.some.inj sending, (processAck_cursor c e next).2.2]
      exact next
    · rwa [← Option.some.inj sending]
  · rw [killed, if_pos opened, if_neg fun waits => absurd waits.2 Bool.false_ne_true] at sending
    cases sending

section Idle

variable (replies : ∀ segment : TcpSegment, segment.seqLen = 0 → kind segment)
include replies

theorem establishedReceive_adds (c : Config) (e : Env) (s : TcpSocket) : Adds kind quiet s (s.establishedReceive c e) := by
  have read : ∀ len, Adds kind quiet s ((s.readToApplication c len).processAck c e) := by
    intro len
    have copied : Adds kind quiet s (s.readToApplication c len) := .of_same rfl rfl rfl rfl
    exact copied.trans (processAck_adds replies c e _)
  unfold establishedReceive
  dsimp only
  split
  · generalize (if s.applicationBuflen < s.receiveBuffer.getRecvBytes c then s.applicationBuflen
      else s.receiveBuffer.getRecvBytes c) = len
    split
    · exact (read len).trans (.of_same rfl rfl rfl rfl)
    · exact read len
  · exact processAck_adds replies c e s

theorem input_idle_adds (e : Env)
    (data : ∀ s₁, s.sendingSocket c e = some s₁ →
      ∀ segment ∈ (s₁.sendAttempts c e).filterMap (SendAttempt.segment c), kind segment)
    (silent : quiet → ∀ s₁, s.sendingSocket c e = some s₁ → s₁.sendAttempts c e = []) :
    Adds kind quiet s (s.input c e none) := by
  have updated : Adds kind quiet s (s.updateHistory c e true) := updateHistory_adds c e s true
  have acked := updated.trans (processAck_adds replies c e _)
  unfold input
  cases state : s.state with
  | closed => exact .of_same rfl rfl rfl rfl
  | listen => exact .refl s
  | synsent => exact updated
  | synrcvd => exact updated
  | established =>
    change Adds kind quiet s (s.establishedIdle c e)
    unfold establishedIdle
    dsimp only
    split_ifs with receiving waiting
    · exact updated.trans (establishedReceive_adds replies c e _)
    · have sending : s.sendingSocket c e = some ((s.updateHistory c e true).processAck c e) := by
        unfold sendingSocket
        dsimp only
        rw [if_pos (.inl state), if_pos ⟨Bool.not_eq_true _ ▸ receiving, waiting⟩, if_pos state]
      exact acked.trans ((processSendData_adds e (sendingSocket_alive sending) (data _ sending)
        fun still => silent still _ sending).trans (finishSending_adds _))
    · exact updated
  | closewait =>
    change Adds kind quiet s (s.closewaitIdle c e)
    unfold closewaitIdle
    dsimp only
    split_ifs with receiving waiting
    · refine updated.trans ?_
      unfold closewaitReceive
      dsimp only
      split_ifs <;> exact .of_same rfl rfl rfl rfl
    · have sending : s.sendingSocket c e = some (s.updateHistory c e true) := by
        unfold sendingSocket
        dsimp only
        rw [if_pos (.inr state), if_pos ⟨Bool.not_eq_true _ ▸ receiving, waiting⟩, if_neg (by simp [state])]
      exact updated.trans ((processSendData_adds e (sendingSocket_alive sending) (data _ sending)
        fun still => silent still _ sending).trans (finishSending_adds _))
    · exact updated
  | finwait1 =>
    change Adds kind quiet s (s.finwait1Idle c e)
    unfold finwait1Idle
    dsimp only
    split_ifs
    · exact acked.moves (.inr (.inl (by rw [state]; rfl)))
    · exact acked
  | finwait2 => exact acked
  | lastack =>
    change Adds kind quiet s (s.lastackIdle c e)
    unfold lastackIdle
    dsimp only
    split_ifs
    · exact updated.aborts
    · exact updated
  | closing =>
    change Adds kind quiet s (s.closingIdle c e)
    unfold closingIdle
    dsimp only
    split_ifs
    · exact updated.moves (.inr (.inl (by rw [state]; rfl)))
    · exact updated
  | timewait =>
    change Adds kind quiet s (s.timewaitIdle c e)
    unfold timewaitIdle
    dsimp only
    split_ifs
    · exact updated.aborts
    · exact updated

end Idle

/-! ### Rounds with a segment -/

theorem acceptAck_adds (c : Config) (e : Env) (s : TcpSocket) (segment : TcpSegment) :
    Adds kind quiet s (s.acceptAck c e segment) := by
  rw [acceptAck_eq]
  exact .of_same rfl rfl rfl rfl

theorem handleAck_adds (c : Config) (e : Env) (s : TcpSocket) (acknum : SeqNum) :
    Adds kind quiet s (s.handleAck c e acknum) := by
  rw [handleAck_eq]
  exact .of_same rfl rfl rfl rfl

theorem handleRst_adds (s : TcpSocket) (r : ReceiveBuffer) : Adds kind quiet s (s.handleRst r) :=
  Adds.aborts (.of_same rfl rfl rfl rfl : Adds kind quiet s (s.freeReceivedSegment r))

/-- The segment's FIN and data. -/
theorem takeData_adds (c : Config) (s : TcpSocket) (r : ReceiveBuffer) :
    Adds kind quiet s ((s.handleFin r.segment r.segment.seqnum r.payloadLen).handleData c r r.segment.seqnum r.payloadLen).2 :=
  ((handleFin_received s _ _ _).trans (handleData_received c _ r _ _)).adds

theorem taking_adds (c : Config) (s : TcpSocket) (segment : TcpSegment) (r : ReceiveBuffer) :
    Adds kind quiet s ((s.adoptMss c segment).freeReceivedSegment r) := by
  rw [adoptMss_eq]
  exact .of_same rfl rfl rfl rfl

section Segments

variable (replies : ∀ segment : TcpSegment, segment.seqLen = 0 → kind segment)
include replies

theorem ackFin_adds (c : Config) (e : Env) (s : TcpSocket) : Adds kind quiet s (s.ackFin c e) := sendAckNum_adds replies c e s _

theorem repeatFinAck_adds (c : Config) (e : Env) (s : TcpSocket) (segment : TcpSegment) :
    Adds kind quiet s (s.repeatFinAck c e segment) := by
  unfold repeatFinAck
  split_ifs
  · exact ackFin_adds replies c e s
  · exact .refl s

/-- A segment without RST and SYN. -/
theorem input_plain_adds (c : Config) (e : Env) (behind : s.synchronized) (plain : r.segment.plain) :
    Adds kind quiet s (s.input c e (some r)) := by
  have unreset : ¬r.segment.rst = true := by simp [plain.1]
  have unsyn : ¬r.segment.syn = true := by simp [plain.2]
  have acked : Adds kind quiet s (s.acceptAck c e r.segment) := acceptAck_adds c e s r.segment
  have completes : ∀ {s₁ : TcpSocket} {next : TcpState}, Adds kind quiet s s₁ → next.stage = s.state.stage →
      Adds kind quiet s (if s₁.finComplete c then { s₁.ackFin c e with state := next } else s₁) := by
    intro s₁ next adds same
    split
    · exact (adds.trans (ackFin_adds replies c e s₁)).moves (.inr (.inl same))
    · exact adds
  obtain ⟨closed, listen, synsent, synrcvd⟩ := behind
  unfold input
  cases state : s.state with
  | closed => exact absurd state closed
  | listen => exact absurd state listen
  | synsent => exact absurd state synsent
  | synrcvd => exact absurd state synrcvd
  | established =>
    change Adds kind quiet s (s.establishedSegment c e r)
    unfold establishedSegment
    rw [if_neg unreset, if_neg unsyn]
    dsimp only
    have taken := acked.trans (takeData_adds c (s.acceptAck c e r.segment) r)
    generalize TcpSocket.handleData c _ r r.segment.seqnum r.payloadLen = data at taken ⊢
    have windowed := taken.trans (updateSendWindow_received data.2 r.segment r.segment.seqnum r.segment.acknum).adds
    have freed := windowed.trans (freeUnless_received data.1 _ r).adds
    have completed := completes freed (show TcpState.stage .closewait = s.state.stage by rw [state]; rfl)
    generalize ite (TcpSocket.finComplete c _) _ _ = s' at completed ⊢
    split
    · exact completed.trans (.of_same rfl rfl rfl rfl)
    · exact completed
  | finwait1 =>
    change Adds kind quiet s (s.finwait1Segment c e r)
    unfold finwait1Segment
    rw [if_neg unreset, if_neg unsyn]
    dsimp only
    have taken := acked.trans (takeData_adds c (s.acceptAck c e r.segment) r)
    generalize TcpSocket.handleData c _ r r.segment.seqnum r.payloadLen = data at taken ⊢
    refine completes (taken.trans (freeUnless_received data.1 _ r).adds) ?_
    rw [state]
    split <;> rfl
  | finwait2 =>
    change Adds kind quiet s (s.finwait2Segment c e r)
    unfold finwait2Segment
    rw [if_neg unreset, if_neg unsyn]
    dsimp only
    have taken : Adds kind quiet s _ := takeData_adds c s r
    generalize TcpSocket.handleData c _ r r.segment.seqnum r.payloadLen = data at taken ⊢
    exact completes (taken.trans (freeUnless_received data.1 _ r).adds) (by rw [state]; rfl)
  | closewait =>
    change Adds kind quiet s (s.closewaitSegment c e r)
    unfold closewaitSegment
    rw [if_neg unreset, if_neg unsyn]
    have repeated := acked.trans (repeatFinAck_adds replies c e _ r.segment)
    exact (repeated.trans (updateSendWindow_received _ r.segment _ _).adds).trans (.of_same rfl rfl rfl rfl)
  | lastack =>
    change Adds kind quiet s (s.lastackSegment c e r)
    unfold lastackSegment
    rw [if_neg unreset, if_neg unsyn]
    exact acked.trans (.of_same rfl rfl rfl rfl)
  | closing =>
    change Adds kind quiet s (s.closingSegment c e r)
    unfold closingSegment
    rw [if_neg unreset, if_neg unsyn]
    exact (acked.trans (repeatFinAck_adds replies c e _ r.segment)).trans (.of_same rfl rfl rfl rfl)
  | timewait =>
    change Adds kind quiet s (s.timewaitSegment c e r)
    unfold timewaitSegment
    rw [if_neg unreset, if_neg unsyn]
    exact (repeatFinAck_adds replies c e s r.segment).trans (.of_same rfl rfl rfl rfl)

theorem input_synchronized_adds (c : Config) (e : Env) (behind : s.synchronized) (r : ReceiveBuffer) :
    Adds kind quiet s (s.input c e (some r)) := by
  have freed : Adds kind quiet s (s.freeReceivedSegment r) := .of_same rfl rfl rfl rfl
  cases rst : r.segment.rst with
  | true =>
    rw [input_rst c e behind rst]
    exact handleRst_adds s r
  | false =>
    cases syn : r.segment.syn with
    | true =>
      rw [input_syn_eq c e behind rst syn]
      split
      · exact freed.trans (sendAck_adds replies c e _)
      · exact freed.trans (sendAckNum_adds replies c e _ _)
    | false => exact input_plain_adds replies c e behind ⟨rst, syn⟩

theorem synsentEstablish_adds (c : Config) (e : Env) (segment : TcpSegment) (opening : s.state.stage = .opening) :
    Adds kind quiet s (s.synsentEstablish c e segment) := by
  have opens : Adds kind quiet s { s with state := .established } := (Adds.refl s).moves (.inr (.inr ⟨opening, rfl⟩))
  unfold synsentEstablish
  dsimp only
  generalize established : ({ s with state := .established } : TcpSocket) = s₁ at opens ⊢
  have windowed : Adds kind quiet s { s₁.initSendWindow segment.window segment.seqnum segment.acknum with
      receiveBuffer := (s₁.initSendWindow segment.window segment.seqnum segment.acknum).receiveBuffer.setFirstSeqNum
        (segment.seqnum + 1) } := opens.trans (.of_same rfl rfl rfl rfl)
  have acked := windowed.cleared.trans (sendAck_adds replies c e _)
  generalize TcpSocket.sendAck c e _ = result at acked ⊢
  obtain ⟨done, s₂⟩ := result
  cases done with
  | true => exact acked.trans (.of_same rfl rfl rfl rfl)
  | false => exact acked

theorem synsentReset_adds (c : Config) (e : Env) (s : TcpSocket) (acknum : SeqNum) :
    Adds kind quiet s (s.synsentReset c e acknum) :=
  request_adds c e s (fun s b => s.transmit c e b { s.writeHeader c with seqnum := acknum, rst := true } 0)
    fun s b => transmit_adds c e s b 0 (replies _ rfl)

omit replies in
theorem synsentSimultaneous_adds (c : Config) (e : Env) (segment : TcpSegment) (opening : s.state.stage = .opening)
    (crossing : ∀ answer : TcpSegment, answer.syn = true → answer.fin = false → answer.data = [] →
      answer.seqnum + 1 = s.seqnumNext → kind answer) :
    Adds kind quiet s (s.synsentSimultaneous c e segment) := by
  have crossed : Adds kind quiet s (s.crossed segment) := (Adds.refl s).cleared.trans (.of_same rfl rfl rfl rfl)
  rcases synsentSimultaneous_cases c e s segment with ⟨-, eq⟩ | ⟨-, eq⟩ <;> rw [eq]
  · have allocated : Adds kind quiet s (s.crossed segment).allocated := crossed.trans (.of_same rfl rfl rfl rfl)
    have moved := allocated.moves (show s.state.stage.Leads (TcpState.stage .synrcvd) from .inr (.inl opening.symm))
    refine moved.trans (transmit_adds c e _ _ _ ?_)
    have next : (s.seqnumNext - 1 + 1 : SeqNum) = s.seqnumNext := BitVec.sub_add_cancel s.seqnumNext 1
    unfold setSyn
    split_ifs
    · exact crossing _ rfl rfl rfl next
    · exact crossing _ rfl rfl rfl next
  · exact crossed.trans (requestSendBuffer_adds e _)

theorem synsentSegment_adds (c : Config) (e : Env) (opening : s.state = .synsent)
    (crossing : ∀ answer : TcpSegment, answer.syn = true → answer.fin = false → answer.data = [] →
      answer.seqnum + 1 = s.seqnumNext → kind answer) (r : ReceiveBuffer) :
    Adds kind quiet s (s.synsentSegment c e r) := by
  have taken : Adds kind quiet s ((s.adoptMss c r.segment).freeReceivedSegment r) := taking_adds c s r.segment r
  have same : ((s.adoptMss c r.segment).freeReceivedSegment r).state.stage = .opening ∧
      ((s.adoptMss c r.segment).freeReceivedSegment r).seqnumNext = s.seqnumNext := by
    rw [adoptMss_eq]
    exact ⟨congrArg TcpState.stage opening, rfl⟩
  unfold synsentSegment
  dsimp only
  generalize (s.adoptMss c r.segment).freeReceivedSegment r = s₁ at taken same ⊢
  have acked : Adds kind quiet s₁ (s₁.handleAck c e r.segment.acknum) := handleAck_adds c e s₁ _
  split_ifs
  · refine taken.trans (acked.trans (synsentEstablish_adds replies c e r.segment ?_))
    rw [handleAck_eq]
    exact same.1
  · exact taken.trans (acked.trans (synsentReset_adds replies c e _ _))
  · exact taken.aborts
  · exact taken
  · exact taken.trans (synsentReset_adds replies c e _ _)
  · refine taken.trans (synsentSimultaneous_adds c e r.segment same.1 fun answer syn fin data next => ?_)
    exact crossing answer syn fin data (next.trans same.2)
  · exact taken

end Segments

theorem resendFirst_adds (s : TcpSocket) : Adds kind quiet s s.resendFirst := by
  refine ⟨fun segment held => .inl ?_, fun _ => by rw [resendFirst_eq], .inr (.inl (by rw [resendFirst_eq]))⟩
  unfold resendFirst send at held
  cases queued : s.history with
  | nil => rwa [queued] at held
  | cons record rest =>
    have first : s.Holds record.segment := .inr ⟨record, by rw [queued]; exact List.mem_cons_self .., rfl⟩
    have later : ∀ other ∈ rest, s.Holds other.segment := fun other member =>
      .inr ⟨other, by rw [queued]; exact List.mem_cons_of_mem _ member, rfl⟩
    rw [queued] at held
    dsimp only at held
    split at held
    · rcases held with sent | ⟨other, member, rfl⟩
      · rcases List.mem_cons.mp sent with rfl | old
        · exact first
        · exact .inl old
      · rcases List.mem_cons.mp member with rfl | old
        · exact first
        · exact later other old
    · rcases held with sent | ⟨other, member, rfl⟩
      · exact .inl sent
      · rcases List.mem_cons.mp member with rfl | old
        · exact first
        · exact later other old

theorem synrcvdSegment_adds (c : Config) (e : Env) (opening : s.state = .synrcvd) (r : ReceiveBuffer) :
    Adds kind quiet s (s.synrcvdSegment c e r) := by
  have freed : ∀ {s₁ : TcpSocket}, Adds kind quiet s s₁ → Adds kind quiet s (s₁.freeReceivedSegment r) :=
    fun adds => adds.trans (.of_same rfl rfl rfl rfl)
  have acked : Adds kind quiet s (s.handleAck c e r.segment.acknum) := handleAck_adds c e s _
  unfold synrcvdSegment synrcvdAck
  dsimp only
  split_ifs
  · exact handleRst_adds s r
  · refine freed (acked.clears rfl rfl rfl (.inr (.inr ⟨?_, rfl⟩)))
    rw [handleAck_eq, opening]
    rfl
  · exact freed acked
  · exact freed (resendFirst_adds s)
  · exact freed (.refl s)

/-- The segments that a round can add: segments without sequence numbers, data, and in the handshake
the answer to a SYN. -/
def RoundKind (s : TcpSocket) (data : List TcpSegment) (segment : TcpSegment) : Prop :=
  segment.seqLen = 0 ∨ segment ∈ data ∨
    s.state.stage = .opening ∧ (segment.syn = true ∧ segment.fin = false ∧ segment.data = []) ∧ segment.seqnum + 1 = s.seqnumNext

theorem input_segment_adds (c : Config) (e : Env) (other : s.state ≠ .listen) (data : List TcpSegment) (r : ReceiveBuffer) :
    Adds (s.RoundKind data) quiet s (s.input c e (some r)) := by
  have replies : ∀ segment : TcpSegment, segment.seqLen = 0 → s.RoundKind data segment := fun _ => .inl
  by_cases behind : s.synchronized
  · exact input_synchronized_adds replies c e behind r
  · cases state : s.state with
    | closed =>
      have closes : s.input c e (some r) = s.closed (some r) := by rw [input, state]
      rw [closes]
      exact .of_same rfl rfl rfl rfl
    | listen => exact absurd state other
    | synsent =>
      have sends : s.input c e (some r) = s.synsentSegment c e r := by rw [input, state]; rfl
      rw [sends]
      refine synsentSegment_adds replies c e state (fun answer syn fin empty next => ?_) r
      exact .inr (.inr ⟨congrArg TcpState.stage state, ⟨syn, fin, empty⟩, next⟩)
    | synrcvd =>
      have receives : s.input c e (some r) = s.synrcvdSegment c e r := by rw [input, state]; rfl
      rw [receives]
      exact synrcvdSegment_adds c e state r
    | _ => exact absurd ⟨by simp [state], by simp [state], by simp [state], by simp [state]⟩ behind

end TcpSocket

end IPStack
