import IPStack.Tcp.Counted
import IPStack.Tcp.SendAttempts

/-! The segments that a round of the state machine hands to the interface. -/

namespace IPStack

/-- A segment with this acknowledgement number. -/
def TcpSegment.acks (segment : TcpSegment) (n : SeqNum) : Prop := segment.ack = true ∧ segment.acknum = n

instance (segment : TcpSegment) (n : SeqNum) : Decidable (segment.acks n) := inferInstanceAs (Decidable (_ ∧ _))

/-- What only a segment changes in a connection that goes on. -/
structure Lasting where
  opening : Option TcpState
  takesData : Bool
  maxReceiveWindowBytes : BitVec 32
  finReceived : Bool
  finSeqnum : SeqNum
  aborted : Bool

namespace TcpSocket

def lasting (s : TcpSocket) : Lasting where
  opening := if s.synchronized then none else some s.state
  takesData := s.takesData
  maxReceiveWindowBytes := s.maxReceiveWindowBytes
  finReceived := s.finReceived
  finSeqnum := s.finSeqnum
  aborted := s.trace.aborted

/-- Segments of a kind are handed to the interface behind those of a list, and the connection goes
on or is aborted. -/
structure EmitsBehind (kind : TcpSegment → Prop) (sent : List TcpSegment) (s s' : TcpSocket) : Prop where
  lasting : s'.trace.aborted = true ∧ s'.finReceived = false ∨ s'.lasting = s.lasting
  wire : ∃ emitted, s'.trace.wire = emitted ++ sent ∧ ∀ segment ∈ emitted, kind segment

/-- Segments of a kind are handed to the interface, and the connection goes on or is aborted. -/
abbrev Emits (kind : TcpSegment → Prop) (s s' : TcpSocket) : Prop := EmitsBehind kind s.trace.wire s s'

variable {c : Config} {e : Env} {s s' s'' : TcpSocket} {r : ReceiveBuffer} {kind kind' : TcpSegment → Prop}
  {sent : List TcpSegment}

theorem Emits.of_same (lasting : s'.lasting = s.lasting) (wire : s'.trace.wire = s.trace.wire) : Emits kind s s' :=
  ⟨.inr lasting, [], wire, nofun⟩

theorem Emits.refl (s : TcpSocket) : Emits kind s s := .of_same rfl rfl

theorem EmitsBehind.mono (emits : EmitsBehind kind sent s s') (weaker : ∀ segment, kind segment → kind' segment) :
    EmitsBehind kind' sent s s' := by
  obtain ⟨emitted, wire, all⟩ := emits.wire
  exact ⟨emits.lasting, emitted, wire, fun segment member => weaker segment (all segment member)⟩

theorem EmitsBehind.trans (first : EmitsBehind kind sent s s') (second : Emits kind s' s'') : EmitsBehind kind sent s s'' := by
  obtain ⟨emitted, wire, all⟩ := first.wire
  obtain ⟨emitted', wire', all'⟩ := second.wire
  refine ⟨?_, emitted' ++ emitted, by rw [wire', wire, List.append_assoc], fun segment member => ?_⟩
  · rcases second.lasting with aborted | same
    · exact .inl aborted
    · rcases first.lasting with ⟨aborted, unfinished⟩ | same'
      · exact .inl ⟨(congrArg Lasting.aborted same).trans aborted, (congrArg Lasting.finReceived same).trans unfinished⟩
      · exact .inr (same.trans same')
  · rcases List.mem_append.mp member with later | earlier
    · exact all' segment later
    · exact all segment earlier

theorem EmitsBehind.aborts (emits : EmitsBehind kind sent s s') : EmitsBehind kind sent s s'.abort := ⟨.inl ⟨rfl, rfl⟩, emits.wire⟩

/-- Behind the handshake, a state that takes data is followed by another one, and a state that
takes none alike. -/
theorem EmitsBehind.moves {next : TcpState} (emits : EmitsBehind kind sent s s') (behind : s.synchronized)
    (behind' : ({ s' with state := next } : TcpSocket).synchronized)
    (takes : ({ s' with state := next } : TcpSocket).takesData ↔ s.takesData) :
    EmitsBehind kind sent s { s' with state := next } := by
  refine ⟨emits.lasting.imp_right fun same => ?_, emits.wire⟩
  have kept : ({ s' with state := next } : TcpSocket).lasting = { s'.lasting with
      opening := none, takesData := decide s.takesData } := by
    simp only [TcpSocket.lasting, behind', takes, if_true]
  rw [kept, same]
  simp only [TcpSocket.lasting, behind, if_true]

theorem Emits.one {segment : TcpSegment} (emitted : kind segment) (lasting : s'.lasting = s.lasting)
    (wire : s'.trace.wire = segment :: s.trace.wire) : Emits kind s s' := by
  refine ⟨.inr lasting, [segment], wire, fun other member => ?_⟩
  rw [List.mem_singleton.mp member]
  exact emitted

/-! ### Retransmissions -/

/-- `retransmit` sends the record's segment again. -/
def retransmits (c : Config) (s : TcpSocket) (record : TcpRecord) : Prop :=
  (c.slowStart = true → record.segment.seqnum = s.seqnumUnacked ∨ s.slowStart.cwndOpened) ∧ ¬OverLimit c record

instance (c : Config) (s : TcpSocket) (record : TcpRecord) : Decidable (s.retransmits c record) :=
  inferInstanceAs (Decidable (_ ∧ _))

theorem retransmitCounted_wire (c : Config) (e : Env) (s : TcpSocket) (record : TcpRecord) :
    (s.retransmitCounted c e record).1.trace.wire =
      if OverLimit c record then s.trace.wire else record.segment :: s.trace.wire := by
  unfold retransmitCounted
  by_cases exceeded : OverLimit c record
  · rw [if_pos exceeded, if_pos exceeded.1, if_pos exceeded.2]
  · rw [if_neg exceeded]
    split_ifs with counts above
    · exact absurd ⟨counts, above⟩ exceeded
    · rfl
    · rfl

theorem retransmitSlowStart_wire (c : Config) (e : Env) (s : TcpSocket) (record : TcpRecord) :
    (s.retransmitSlowStart c e record).1.trace.wire =
      if s.retransmits c record then record.segment :: s.trace.wire else s.trace.wire := by
  unfold retransmitSlowStart
  by_cases again : s.retransmits c record
  · rw [if_pos again]
    split_ifs with slow opened
    · rw [retransmitCounted_wire, if_neg again.2]
    · exact absurd (again.1 slow) opened
    · rw [retransmitCounted_wire, if_neg again.2]
  · rw [if_neg again]
    split_ifs with slow opened
    · rw [retransmitCounted_wire, if_pos (not_not.mp fun below => again ⟨fun _ => opened, below⟩)]
    · rfl
    · rw [retransmitCounted_wire, if_pos (not_not.mp fun below => again ⟨fun woven => absurd woven slow, below⟩)]

/-- The tracker closes the congestion window only for the record that is sent again in any case. -/
theorem retransmit_wire (c : Config) (e : Env) (s : TcpSocket) (record : TcpRecord) :
    (s.retransmit c e record).1.trace.wire =
      if s.retransmits c record then record.segment :: s.trace.wire else s.trace.wire := by
  unfold retransmit
  split
  · rename_i tracked
    have frame : (s.setRetransmitting c).seqnumUnacked = s.seqnumUnacked ∧
        (s.setRetransmitting c).trace.wire = s.trace.wire := by
      unfold setRetransmitting
      dsimp only
      split_ifs <;> exact ⟨rfl, rfl⟩
    have same : (s.setRetransmitting c).retransmits c record ↔ s.retransmits c record := by
      unfold retransmits
      rw [frame.1]
      exact and_congr_left' ⟨fun _ _ => .inl tracked.2, fun _ _ => .inl tracked.2⟩
    rw [retransmitSlowStart_wire, frame.2]
    simp only [same]
  · exact retransmitSlowStart_wire c e s record

/-- The records of a history that the loop of `updateHistory` sends again. -/
def resentRecords (c : Config) (e : Env) : TcpSocket → TcpHistory → List TcpRecord
  | _, [] => []
  | s, record :: rest =>
    if record.released e s.seqnumUnacked then resentRecords c e { s with mempool := s.mempool.free record.block } rest
    else if record.isTimedOut e.now then
      (if s.retransmits c record then [record] else []) ++ resentRecords c e (s.retransmit c e record).1 rest
    else resentRecords c e s rest

/-- The records that `updateHistory(true)` sends again. -/
def resent (c : Config) (e : Env) (s : TcpSocket) : List TcpRecord :=
  if e.interface then resentRecords c e s s.history else []

theorem updateRecords_wire (c : Config) (e : Env) (s : TcpSocket) (h : TcpHistory) :
    (updateRecords c e true s h).1.trace.wire =
      ((resentRecords c e s h).map TcpRecord.segment).reverse ++ s.trace.wire := by
  induction h generalizing s with
  | nil => rfl
  | cons record rest ih =>
    unfold updateRecords resentRecords
    by_cases released : record.released e s.seqnumUnacked
    · rw [if_pos released, if_pos released]
      exact ih _
    · rw [if_neg released, if_neg released]
      by_cases out : record.isTimedOut e.now = true
      · rw [if_pos ⟨rfl, out⟩, if_pos out]
        dsimp only
        rw [ih, retransmit_wire, List.map_append, List.reverse_append, List.append_assoc]
        split <;> rfl
      · rw [if_neg fun both => out both.2, if_neg out]
        exact ih s

theorem updateHistoryBody_wire (c : Config) (e : Env) (s : TcpSocket) :
    (s.updateHistoryBody c e true).trace.wire = ((s.resent c e).map TcpRecord.segment).reverse ++ s.trace.wire := by
  unfold resent updateHistoryBody
  cases e.interface with
  | false => rfl
  | true =>
    rw [if_pos rfl, if_pos rfl]
    dsimp only
    split
    · rename_i cleared
      have empty : (s.clearRetransmitting c).history = [] := by
        rw [(clearRetransmitting_retransmitted c s).frame, cleared.2]
      rw [empty, cleared.2]
      change (s.clearRetransmitting c).trace.wire = s.trace.wire
      unfold clearRetransmitting
      dsimp only
      split <;> rfl
    · exact updateRecords_wire c e s s.history

/-- What has been sent behind `updateHistory(true)`. -/
def resentWire (c : Config) (e : Env) (s : TcpSocket) : List TcpSegment :=
  ((s.resent c e).map TcpRecord.segment).reverse ++ s.trace.wire

theorem updateHistory_emits (c : Config) (e : Env) (s : TcpSocket) :
    EmitsBehind kind (s.resentWire c e) s (s.updateHistory c e true) := by
  have wire := updateHistoryBody_wire c e s
  rw [updateHistory_eq]
  split
  · exact ⟨.inl ⟨rfl, rfl⟩, [], wire, nofun⟩
  · rename_i kept
    refine ⟨.inr ?_, [], wire, nofun⟩
    cases interface : e.interface with
    | false =>
      have lost : s.updateHistoryBody c e true = s.clearHistory := by simp [updateHistoryBody, interface]
      rw [lost]
      rfl
    | true =>
      have updated := updateHistoryBody_updated (c := c) interface s true
      rcases updated.state with same | ⟨closed, -, _, -, exceeded⟩
      · rw [updated.frame, same]
        rfl
      · exact absurd ⟨exceeded.2.2.1, closed⟩ kept

/-! ### Acknowledgements and data -/

theorem HistoryOnly.emits (only : HistoryOnly s s') : Emits kind s s' := by
  unfold HistoryOnly at only
  exact .of_same (by rw [only]; rfl) (by rw [only])

theorem requestSendBufferTcp_emits (c : Config) (e : Env) (s : TcpSocket) :
    Emits kind s (s.requestSendBufferTcp c e).2 := by
  unfold requestSendBufferTcp
  split
  · rename_i full
    have updated : Emits kind s (s.updateHistory c e false) := by
      have body : Emits kind s (s.updateHistoryBody c e false) := (updateHistoryBody_false_requests full).1.emits
      rw [updateHistory_eq]
      split
      · exact body.aborts
      · exact body
    dsimp only
    split
    · exact updated
    · exact updated.trans (requestSendBuffer_historyOnly e _).emits
  · exact (requestSendBuffer_historyOnly e s).emits

theorem sendAckNum_emits (c : Config) (e : Env) (s : TcpSocket) (ackNum : SeqNum) :
    Emits (fun segment => (s.sendAckNum c e ackNum).1 = true ∧ segment.acks ackNum) s (s.sendAckNum c e ackNum).2 := by
  have requested : ∀ {kind}, Emits kind s (s.requestSendBufferTcp c e).2 := requestSendBufferTcp_emits c e s
  unfold sendAckNum
  generalize s.requestSendBufferTcp c e = result at requested ⊢
  obtain ⟨block, s₁⟩ := result
  cases block with
  | none => exact requested
  | some b => exact requested.trans (.one ⟨rfl, rfl, rfl⟩ rfl rfl)

theorem sendAck_emits (c : Config) (e : Env) (s : TcpSocket) :
    Emits (fun segment => (s.sendAck c e).1 = true ∧ segment.acks (s.receiveBuffer.getAckNum c)) s (s.sendAck c e).2 := by
  have cleared : ∀ {kind}, Emits kind s { s with ackTriggered := false } := .of_same rfl rfl
  exact cleared.trans (sendAckNum_emits c e _ _)

/-- The pending acknowledgement is sent. -/
def acksPending (c : Config) (e : Env) (s : TcpSocket) : Prop := s.ackTriggered = true ∧ (s.sendAck c e).1 = true

instance (c : Config) (e : Env) (s : TcpSocket) : Decidable (s.acksPending c e) := inferInstanceAs (Decidable (_ ∧ _))

theorem processAck_emits (c : Config) (e : Env) (s : TcpSocket) :
    Emits (fun segment => s.acksPending c e ∧ segment.acks (s.receiveBuffer.getAckNum c)) s (s.processAck c e) := by
  unfold processAck
  split
  · rename_i triggered
    exact (sendAck_emits c e s).mono fun _ sent => ⟨⟨triggered, sent.1⟩, sent.2⟩
  · exact .refl s

theorem sendSegmentIn_emits (c : Config) (e : Env) (s : TcpSocket) (block : Nat) (len : BitVec 32) :
    Emits (TcpSegment.acks · (s.receiveBuffer.getAckNum c)) s (s.sendSegmentIn c e block len) := by
  unfold sendSegmentIn lowerSendWindow
  dsimp only
  split_ifs <;> exact .one ⟨rfl, rfl⟩ rfl rfl

theorem sendSegment_emits (c : Config) (e : Env) (s : TcpSocket) (len : BitVec 32) :
    Emits (fun segment => (s.sendSegment c e len).1 = true ∧ segment.acks (s.receiveBuffer.getAckNum c)) s
      (s.sendSegment c e len).2 := by
  have requested : ∀ {kind}, Emits kind s (s.requestSendBufferTcp c e).2 := requestSendBufferTcp_emits c e s
  have same := (requestSendBufferTcp_spec c e s).receiveBuffer
  unfold sendSegment
  generalize s.requestSendBufferTcp c e = result at requested same ⊢
  obtain ⟨block, s₁⟩ := result
  cases block with
  | none => exact requested
  | some b =>
    refine requested.trans ((sendSegmentIn_emits c e s₁ b len).mono fun segment acks => ⟨rfl, ?_⟩)
    rwa [← same]

theorem Sends.emits {l : List SendAttempt} (sends : Sends c e s l s') :
    Emits (fun segment => (∃ a ∈ l, a.sends c = true) ∧ segment.acks (s.receiveBuffer.getAckNum c)) s s' := by
  induction sends with
  | done => exact .refl _
  | @refused s len due refused =>
    exact (sendSegment_emits c e s len).mono fun _ sent => absurd (refused.symm.trans sent.1) Bool.false_ne_true
  | @sent s s' len l due sent _ ih =>
    have first : ∃ a ∈ (⟨e, s, len⟩ : SendAttempt) :: l, a.sends c = true := ⟨_, List.mem_cons_self, sent⟩
    refine ((sendSegment_emits c e s len).mono fun _ sent => ⟨first, sent.2⟩).trans (ih.mono fun _ sent => ⟨first, ?_⟩)
    rw [← sendSegment_receiveBuffer c e s len]
    exact sent.2

/-- `processSendData` sends something. -/
def sendsData (c : Config) (e : Env) (s : TcpSocket) : Prop := ∃ a ∈ s.sendAttempts c e, a.sends c = true

instance (c : Config) (e : Env) (s : TcpSocket) : Decidable (s.sendsData c e) := inferInstanceAs (Decidable (∃ a ∈ _, _))

theorem processSendData_emits (c : Config) (e : Env) (s : TcpSocket) :
    Emits (fun segment => s.sendsData c e ∧ segment.acks (s.receiveBuffer.getAckNum c)) s (s.processSendData c e) :=
  (processSendData_sends c e s).emits

theorem finishSending_emits (s : TcpSocket) : Emits kind s s.finishSending := by
  unfold finishSending
  split
  · exact .of_same rfl rfl
  · exact .refl s

/-! ### Rounds without a segment -/

/-- In CLOSEWAIT a `write` sends data in this round. -/
def writesLate (c : Config) (e : Env) (s : TcpSocket) : Prop :=
  s.state = .closewait ∧ (s.updateHistory c e true).receiving = false ∧ (s.updateHistory c e true).waiting = true ∧
    (s.updateHistory c e true).sendsData c e

instance (c : Config) (e : Env) (s : TcpSocket) : Decidable (s.writesLate c e) := inferInstanceAs (Decidable (_ ∧ _))

/-- The segments of a round without a segment, apart from retransmissions: acknowledgements and data
with the number of the receive buffer. -/
def SentIdle (c : Config) (e : Env) (s : TcpSocket) (segment : TcpSegment) : Prop :=
  (s.takesData ∨ s.writesLate c e) ∧ segment.acks (s.receiveBuffer.getAckNum c)

/-- What is sent with the number of a receive buffer that has the number of the first socket. -/
theorem EmitsBehind.sentIdle {p : Prop} {n : SeqNum} (emits : EmitsBehind (fun segment => p ∧ segment.acks n) sent s' s'')
    (sends : p → s.takesData ∨ s.writesLate c e) (same : n = s.receiveBuffer.getAckNum c) :
    EmitsBehind (s.SentIdle c e) sent s' s'' :=
  emits.mono fun _ acked => ⟨sends acked.1, same ▸ acked.2⟩

theorem establishedReceive_emits (counted : s.receiveBuffer.Counted c) (e : Env) {t : TcpSocket} (takes : t.takesData)
    (same : s.receiveBuffer = t.receiveBuffer) : Emits (t.SentIdle c e) s (s.establishedReceive c e) := by
  unfold establishedReceive
  dsimp only
  split
  · have held : (if s.applicationBuflen < s.receiveBuffer.getRecvBytes c then s.applicationBuflen
        else s.receiveBuffer.getRecvBytes c) ≤ s.receiveBuffer.getRecvBytes c := by
      split
      · rename_i less
        exact BitVec.le_of_lt less
      · exact BitVec.le_refl _
    generalize (if s.applicationBuflen < s.receiveBuffer.getRecvBytes c then s.applicationBuflen
      else s.receiveBuffer.getRecvBytes c) = len at held ⊢
    have number : (s.readToApplication c len).receiveBuffer.getAckNum c = t.receiveBuffer.getAckNum c := by
      rw [← same]
      exact (counted.copyData held).2.2
    have read : Emits (t.SentIdle c e) s (s.readToApplication c len) := .of_same rfl rfl
    have sent := read.trans ((processAck_emits c e (s.readToApplication c len)).sentIdle (fun _ => .inl takes) number)
    split
    · exact sent.trans (.of_same rfl rfl)
    · exact sent
  · exact (processAck_emits c e s).sentIdle (fun _ => .inl takes) (by rw [same])

theorem establishedIdle_emits (counted : s.receiveBuffer.Counted c) (e : Env) (state : s.state = .established) :
    EmitsBehind (s.SentIdle c e) (s.resentWire c e) s (s.establishedIdle c e) := by
  have updated : EmitsBehind (s.SentIdle c e) _ s _ := updateHistory_emits c e s
  have same := updateHistory_receiveBuffer c e s true
  have takes : s.takesData := .inl state
  refine updated.trans ?_
  unfold establishedIdle
  generalize s.updateHistory c e true = s₁ at same ⊢
  dsimp only
  split_ifs
  · exact establishedReceive_emits (by rwa [same]) e takes same
  · have acked : Emits (s.SentIdle c e) s₁ (s₁.processAck c e) :=
      (processAck_emits c e s₁).sentIdle (fun _ => .inl takes) (by rw [same])
    have sent : Emits (s.SentIdle c e) (s₁.processAck c e) ((s₁.processAck c e).processSendData c e) :=
      (processSendData_emits c e _).sentIdle (fun _ => .inl takes) (by rw [processAck_receiveBuffer, same])
    exact acked.trans (sent.trans (finishSending_emits _))
  · exact .refl s₁

theorem closewaitIdle_emits (c : Config) (e : Env) (state : s.state = .closewait) :
    EmitsBehind (s.SentIdle c e) (s.resentWire c e) s (s.closewaitIdle c e) := by
  have updated : EmitsBehind (s.SentIdle c e) _ s _ := updateHistory_emits c e s
  have same := updateHistory_receiveBuffer c e s true
  refine updated.trans ?_
  unfold closewaitIdle
  have late : (s.updateHistory c e true).receiving = false → (s.updateHistory c e true).waiting = true →
      (s.updateHistory c e true).sendsData c e → s.takesData ∨ s.writesLate c e :=
    fun idle waits sends => .inr ⟨state, idle, waits, sends⟩
  generalize s.updateHistory c e true = s₁ at same late ⊢
  dsimp only
  split_ifs with receiving waiting
  · unfold closewaitReceive
    dsimp only
    split_ifs <;> exact .of_same rfl rfl
  · have sent : Emits (s.SentIdle c e) s₁ (s₁.processSendData c e) :=
      (processSendData_emits c e s₁).sentIdle (late (Bool.not_eq_true _ ▸ receiving) waiting) (by rw [same])
    exact sent.trans (finishSending_emits _)
  · exact .refl s₁

/-- The records that a round without a segment sends again. -/
def resentIdle (c : Config) (e : Env) (s : TcpSocket) : List TcpRecord :=
  if s.state = .closed ∨ s.state = .listen then [] else s.resent c e

theorem input_idle_emits (counted : s.receiveBuffer.Counted c) (e : Env) :
    EmitsBehind (s.SentIdle c e) (((s.resentIdle c e).map TcpRecord.segment).reverse ++ s.trace.wire) s (s.input c e none) := by
  have updated : EmitsBehind (s.SentIdle c e) _ s _ := updateHistory_emits c e s
  have same := updateHistory_receiveBuffer c e s true
  have acked : s.takesData → EmitsBehind (s.SentIdle c e) (s.resentWire c e) s ((s.updateHistory c e true).processAck c e) :=
    fun takes => updated.trans ((processAck_emits c e _).sentIdle (fun _ => .inl takes) (by rw [same]))
  unfold input resentIdle
  cases state : s.state with
  | closed => exact Emits.of_same rfl rfl
  | listen => exact Emits.refl s
  | synsent => exact updated
  | synrcvd => exact updated
  | established => exact establishedIdle_emits counted e state
  | closewait => exact closewaitIdle_emits c e state
  | finwait1 =>
    change EmitsBehind _ (s.resentWire c e) s (s.finwait1Idle c e)
    have sent := acked (.inr (.inl state))
    unfold finwait1Idle
    dsimp only
    split
    · exact sent.moves (by simp [synchronized, state]) (by simp [synchronized])
        (iff_of_true (.inr (.inr rfl)) (.inr (.inl state)))
    · exact sent
  | finwait2 => exact acked (.inr (.inr state))
  | lastack =>
    change EmitsBehind _ (s.resentWire c e) s (s.lastackIdle c e)
    unfold lastackIdle
    dsimp only
    split
    · exact updated.aborts
    · exact updated
  | closing =>
    change EmitsBehind _ (s.resentWire c e) s (s.closingIdle c e)
    unfold closingIdle
    dsimp only
    split
    · exact updated.moves (by simp [synchronized, state]) (by simp [synchronized])
        (iff_of_false (by simp [takesData]) (by simp [takesData, state]))
    · exact updated
  | timewait =>
    change EmitsBehind _ (s.resentWire c e) s (s.timewaitIdle c e)
    unfold timewaitIdle
    dsimp only
    split
    · exact updated.aborts
    · exact updated

/-! ### Segments behind the handshake -/

theorem freeReceivedSegment_emits (s : TcpSocket) (r : ReceiveBuffer) : Emits kind s (s.freeReceivedSegment r) :=
  .of_same rfl rfl

theorem handleRst_emits (s : TcpSocket) (r : ReceiveBuffer) : Emits kind s (s.handleRst r) :=
  (freeReceivedSegment_emits s r).aborts

theorem acceptAck_emits (c : Config) (e : Env) (s : TcpSocket) (segment : TcpSegment) :
    Emits kind s (s.acceptAck c e segment) := by
  rw [acceptAck_eq]
  exact .of_same rfl rfl

theorem updateSendWindow_emits (s : TcpSocket) (segment : TcpSegment) (seqnum acknum : SeqNum) :
    Emits kind s (s.updateSendWindow segment seqnum acknum) := by
  unfold updateSendWindow
  split
  · exact .of_same rfl rfl
  · exact .refl s

theorem ackFin_emits (c : Config) (e : Env) (s : TcpSocket) :
    Emits (TcpSegment.acks · (s.finSeqnum + 1)) s (s.ackFin c e) :=
  (sendAckNum_emits c e s (s.finSeqnum + 1)).mono fun _ sent => sent.2

theorem repeatFinAck_emits (c : Config) (e : Env) (s : TcpSocket) (segment : TcpSegment) :
    Emits (TcpSegment.acks · (s.finSeqnum + 1)) s (s.repeatFinAck c e segment) := by
  unfold repeatFinAck
  split
  · exact ackFin_emits c e s
  · exact .refl s

theorem acceptAck_repeat_emits (c : Config) (e : Env) (s : TcpSocket) (segment : TcpSegment) :
    Emits (TcpSegment.acks · (s.finSeqnum + 1)) s ((s.acceptAck c e segment).repeatFinAck c e segment) := by
  have repeated := repeatFinAck_emits c e (s.acceptAck c e segment) segment
  have same : (s.acceptAck c e segment).finSeqnum = s.finSeqnum := by rw [acceptAck_eq]
  rw [same] at repeated
  exact (acceptAck_emits c e s segment).trans repeated

/-- The number with which a SYN behind the handshake is answered. -/
def synAnswer (c : Config) (s : TcpSocket) : SeqNum :=
  if s.takesData then s.receiveBuffer.getAckNum c else s.finSeqnum + 1

theorem input_syn_emits (c : Config) (e : Env) (behind : s.synchronized) (noRst : r.segment.rst = false)
    (syn : r.segment.syn = true) : Emits (TcpSegment.acks · (s.synAnswer c)) s (s.input c e (some r)) := by
  rw [input_syn_eq c e behind noRst syn]
  unfold synAnswer
  split
  · exact (freeReceivedSegment_emits s r).trans ((sendAck_emits c e _).mono fun _ sent => sent.2)
  · exact (freeReceivedSegment_emits s r).trans ((sendAckNum_emits c e _ _).mono fun _ sent => sent.2)

/-- Segments of a kind are handed to the interface. -/
def Hands (kind : TcpSegment → Prop) (s s' : TcpSocket) : Prop :=
  ∃ emitted, s'.trace.wire = emitted ++ s.trace.wire ∧ ∀ segment ∈ emitted, kind segment

theorem Hands.of_same (hands : Hands kind s s') {s₁ s₁' : TcpSocket} (before : s.trace.wire = s₁.trace.wire)
    (behind : s₁'.trace.wire = s'.trace.wire) : Hands kind s₁ s₁' := by
  obtain ⟨emitted, wire, all⟩ := hands
  exact ⟨emitted, by rw [behind, wire, before], all⟩

/-- The acknowledgement of a FIN that a segment has completed, or of one that came again. -/
def FinAnswer (c : Config) (s : TcpSocket) (r : ReceiveBuffer) (segment : TcpSegment) : Prop :=
  (s.takesData → s.completesFin c r) ∧ segment.acks ((s.dataTaken c r).finSeqnum + 1)

/-- The end of a handler in the states that take data. -/
theorem complete_hands (c : Config) (e : Env) {taken : TcpSocket} (same : SameReceived (s.dataTaken c r) taken)
    (takes : s.takesData) (wire : taken.trace.wire = s.trace.wire) (next : TcpState) :
    Hands (s.FinAnswer c r) s (if taken.finComplete c then { taken.ackFin c e with state := next } else taken) := by
  split
  · rename_i complete
    have done : s.completesFin c r := by
      have known : (s.dataTaken c r).finComplete c := same.finComplete.mp complete
      rwa [dataTaken, if_pos takes] at known
    have answered := ackFin_emits c e taken
    rw [same.finSeqnum] at answered
    obtain ⟨emitted, more, all⟩ := answered.wire
    exact ⟨emitted, by rw [← wire]; exact more, fun segment member => ⟨fun _ => done, all segment member⟩⟩
  · exact ⟨[], wire, fun segment member => absurd member List.not_mem_nil⟩

theorem input_plain_hands (c : Config) (e : Env) (behind : s.synchronized) (plain : r.segment.plain) :
    Hands (s.FinAnswer c r) s (s.input c e (some r)) := by
  have unreset : ¬r.segment.rst = true := by simp [plain.1]
  have unsyn : ¬r.segment.syn = true := by simp [plain.2]
  have acked : ∀ t : TcpSocket, (t.acceptAck c e r.segment).trace.wire = t.trace.wire ∧ SameReceived t (t.acceptAck c e r.segment) := by
    intro t
    rw [acceptAck_eq]
    exact ⟨rfl, rfl, rfl, rfl⟩
  have taken : ∀ t : TcpSocket, s.takesData → SameReceived s t → t.trace.wire = s.trace.wire →
      SameReceived (s.dataTaken c r) ((t.handleFin r.segment r.segment.seqnum r.payloadLen).handleData c r r.segment.seqnum
        r.payloadLen).2 ∧ ((t.handleFin r.segment r.segment.seqnum r.payloadLen).handleData c r r.segment.seqnum
        r.payloadLen).2.trace.wire = s.trace.wire := by
    intro t takes same wire
    rw [dataTaken, if_pos takes]
    refine ⟨(same.handleFin _ _ _).handleData r _ _, ?_⟩
    rw [handleData_eq, handleFin_eq]
    exact wire
  have repeats : ∀ s' : TcpSocket, ¬s.takesData → Emits (TcpSegment.acks · (s.finSeqnum + 1)) s s' → Hands (s.FinAnswer c r) s s' := by
    intro s' final emits
    have number : (s.dataTaken c r).finSeqnum = s.finSeqnum := by rw [dataTaken, if_neg final]
    obtain ⟨emitted, wire, all⟩ := emits.wire
    exact ⟨emitted, wire, fun segment member => ⟨fun takes => absurd takes final, number ▸ all segment member⟩⟩
  obtain ⟨closed, listen, synsent, synrcvd⟩ := behind
  unfold input
  cases state : s.state with
  | closed => exact absurd state closed
  | listen => exact absurd state listen
  | synsent => exact absurd state synsent
  | synrcvd => exact absurd state synrcvd
  | established =>
    change Hands _ s (s.establishedSegment c e r)
    unfold establishedSegment
    rw [if_neg unreset, if_neg unsyn]
    dsimp only
    obtain ⟨same, wire⟩ := taken _ (.inl state) (acked s).2 (acked s).1
    generalize TcpSocket.handleData c _ r r.segment.seqnum r.payloadLen = data at same wire ⊢
    have windowed := updateSendWindow_sameReceived data.2 r.segment r.segment.seqnum r.segment.acknum
    have kept : (data.2.updateSendWindow r.segment r.segment.seqnum r.segment.acknum).trace.wire = data.2.trace.wire := by
      unfold updateSendWindow
      split <;> rfl
    have hands := complete_hands c e ((same.trans windowed).trans (freeUnless_sameReceived data.1 _ r)) (.inl state)
      ((by cases data.1 <;> rfl : _ = _).trans (kept.trans wire)) .closewait
    generalize ite (TcpSocket.finComplete c _) _ _ = s' at hands ⊢
    split
    · exact hands.of_same rfl rfl
    · exact hands
  | finwait1 =>
    change Hands _ s (s.finwait1Segment c e r)
    unfold finwait1Segment
    rw [if_neg unreset, if_neg unsyn]
    dsimp only
    obtain ⟨same, wire⟩ := taken _ (.inr (.inl state)) (acked s).2 (acked s).1
    generalize TcpSocket.handleData c _ r r.segment.seqnum r.payloadLen = data at same wire ⊢
    exact complete_hands c e (same.trans (freeUnless_sameReceived data.1 _ r)) (.inr (.inl state))
      ((by cases data.1 <;> rfl : _ = _).trans wire) _
  | finwait2 =>
    change Hands _ s (s.finwait2Segment c e r)
    unfold finwait2Segment
    rw [if_neg unreset, if_neg unsyn]
    dsimp only
    obtain ⟨same, wire⟩ := taken s (.inr (.inr state)) ⟨rfl, rfl, rfl⟩ rfl
    generalize TcpSocket.handleData c _ r r.segment.seqnum r.payloadLen = data at same wire ⊢
    exact complete_hands c e (same.trans (freeUnless_sameReceived data.1 _ r)) (.inr (.inr state))
      ((by cases data.1 <;> rfl : _ = _).trans wire) _
  | closewait =>
    refine repeats _ (by simp [takesData, state]) ?_
    change Emits _ s (s.closewaitSegment c e r)
    unfold closewaitSegment
    rw [if_neg unreset, if_neg unsyn]
    exact (acceptAck_repeat_emits c e s r.segment).trans
      ((updateSendWindow_emits _ r.segment _ _).trans (freeReceivedSegment_emits _ r))
  | lastack =>
    refine repeats _ (by simp [takesData, state]) ?_
    change Emits _ s (s.lastackSegment c e r)
    unfold lastackSegment
    rw [if_neg unreset, if_neg unsyn]
    exact (acceptAck_emits c e s r.segment).trans (freeReceivedSegment_emits _ r)
  | closing =>
    refine repeats _ (by simp [takesData, state]) ?_
    change Emits _ s (s.closingSegment c e r)
    unfold closingSegment
    rw [if_neg unreset, if_neg unsyn]
    exact (acceptAck_repeat_emits c e s r.segment).trans (freeReceivedSegment_emits _ r)
  | timewait =>
    refine repeats _ (by simp [takesData, state]) ?_
    change Emits _ s (s.timewaitSegment c e r)
    unfold timewaitSegment
    rw [if_neg unreset, if_neg unsyn]
    exact (repeatFinAck_emits c e s r.segment).trans (freeReceivedSegment_emits _ r)

end TcpSocket

end IPStack
