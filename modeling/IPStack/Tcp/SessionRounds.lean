import IPStack.Tcp.Connections
import IPStack.Tcp.SessionSocket

/-! Two sockets that no input can tell apart: what the handlers of the state machine make of them. -/

namespace IPStack

namespace TcpSocket

variable {c : Config} {e : Env} {w : Written} {s s' : TcpSocket} {r : ReceiveBuffer}

/-- The update of the history does not touch the number of the peer's FIN. -/
theorem updateHistory_finSeqnum (c : Config) (e : Env) (s : TcpSocket) (doRetransmit : Bool) :
    (s.updateHistory c e doRetransmit).finSeqnum = s.finSeqnum := by
  have body : (s.updateHistoryBody c e doRetransmit).finSeqnum = s.finSeqnum := by
    cases interface : e.interface with
    | false => simp [updateHistoryBody, interface, TcpSocket.clearHistory]
    | true =>
      have updated := updateHistoryBody_updated (c := c) interface s doRetransmit
      rw [updated.frame]
  rw [updateHistory_eq]
  split_ifs
  · exact body
  · exact body

/-- The update of the history changes the state only when it ends the connection. -/
theorem updateHistory_state (c : Config) (e : Env) (s : TcpSocket) (doRetransmit : Bool) :
    (s.updateHistory c e doRetransmit).state = s.state ∨ (s.updateHistory c e doRetransmit).state = .closed := by
  rw [updateHistory_eq]
  split_ifs
  · exact .inr rfl
  · cases interface : e.interface with
    | false => simp [updateHistoryBody, interface, TcpSocket.clearHistory]
    | true => exact (updateHistoryBody_updated (c := c) interface s doRetransmit).state.imp_right And.left

namespace Alike

/-- The state changes in both sockets. -/
theorem moves (alike : Alike c w s s') (state : TcpState) (number : s'.finSeqnum = s.finSeqnum) :
    Alike c w { s with state := state } { s' with state := state } :=
  { alike with state := rfl, finSeqnum := fun _ => number }

/-- The new state does not rely on the peer's FIN. -/
theorem enters (alike : Alike c w s s') {state : TcpState}
    (early : ¬(state = .closewait ∨ state = .lastack ∨ state = .closing ∨ state = .timewait)) :
    Alike c w { s with state := state } { s' with state := state } :=
  { alike with
    state := rfl
    finSeqnum := fun numbered => alike.finSeqnum (.inl (numbered.resolve_right early)) }

theorem firstSeqNum (alike : Alike c w s s') (seqnum : SeqNum) : Alike c { w with position := true }
    { s with receiveBuffer := s.receiveBuffer.setFirstSeqNum seqnum }
    { s' with receiveBuffer := s'.receiveBuffer.setFirstSeqNum seqnum } :=
  { alike with receiveBuffer := TcpReceiveBuffer.same_setFirstSeqNum alike.receiveBuffer seqnum }

/-- Another sequence number is taken. -/
theorem counts (alike : Alike c w s s') : Alike c w { s with seqnumNext := s.seqnumNext + 1 }
    { s' with seqnumNext := s'.seqnumNext + 1 } :=
  { alike with seqnumNext := by rw [alike.seqnumNext] }

/-- The call in progress is over. -/
theorem calms (alike : Alike c w s s') : Alike c w { s with waiting := false } { s' with waiting := false } :=
  { alike with waiting := rfl }

end Alike

/-- The sockets agree, and what the state relies on has been written. -/
def Matched (c : Config) (v : Written) (s s' : TcpSocket) : Prop :=
  ∃ w : Written, v.Within w ∧ Alike c w s s' ∧ (s.state = .synrcvd ∨ s.synchronized → w.position = true) ∧
    (s.synchronized → w.window = true)

theorem Matched.ite {v : Written} {p p' : Prop} [Decidable p] [Decidable p'] {t t' u u' : TcpSocket} (same : p' ↔ p)
    (yes : p → Matched c v t t') (no : ¬p → Matched c v u u') :
    Matched c v (if p then t else u) (if p' then t' else u') := same_branch same yes no

theorem Matched.mono {v v' : Written} (matched : Matched c v' s s') (within : v.Within v') : Matched c v s s' := by
  obtain ⟨w, covers, rest⟩ := matched
  exact ⟨w, within.trans covers, rest⟩

/-- The state stays, and the sockets still agree. -/
theorem Matched.keeps {v : Written} {t t' : TcpSocket} (matched : Matched c v s s') (state : t.state = s.state)
    (keeps : ∀ {w : Written}, Alike c w s s' → Alike c w t t') : Matched c v t t' := by
  obtain ⟨w, same, alike, position, window⟩ := matched
  unfold synchronized at position window
  rw [← state] at position window
  exact ⟨w, same, keeps alike, position, window⟩

theorem Matched.freed {v : Written} (matched : Matched c v s s') (r : ReceiveBuffer) :
    Matched c v (s.freeReceivedSegment r) (s'.freeReceivedSegment r) :=
  matched.keeps rfl (·.freeReceivedSegment r)

namespace Alike

theorem matched (alike : Alike c w s s') (position : w.position = true) (window : w.window = true) : Matched c w s s' :=
  ⟨w, .refl w, alike, fun _ => position, fun _ => window⟩

theorem matched_synrcvd (alike : Alike c w s s') (position : w.position = true) (half : s.state = .synrcvd) :
    Matched c w s s' := ⟨w, .refl w, alike, fun _ => position, fun behind => absurd half behind.2.2.2⟩

theorem matched_early (alike : Alike c w s s') (early : s.Unopened) : Matched c w s s' := by
  obtain ⟨unsynchronized, half⟩ := early.early
  exact ⟨w, .refl w, alike, fun late => absurd late (not_or_intro half unsynchronized),
    fun behind => absurd behind unsynchronized⟩

/-- The request of a buffer in a socket that is not closed. -/
theorem requested (alike : Alike c w s s') (e : Env) (alive : s.state ≠ .closed) : ∃ answer t t',
    s.requestSendBufferTcp c e = (answer, t) ∧ s'.requestSendBufferTcp c e = (answer, t') ∧
      Alike c w t t' ∧ HistoryOnly s t := by
  obtain ⟨answer, t, t', first, second, after⟩ := alike.requestSendBufferTcp e
  have only := (requestSendBufferTcp_spec c e s).historyOnly fun dead => alive dead.2.1
  rw [first] at only
  exact ⟨answer, t, t', first, second, after, only⟩

/-! ### LISTEN -/

theorem adoptMss (alike : Alike c w s s') (segment : TcpSegment) : Alike c w (s.adoptMss c segment) (s'.adoptMss c segment) :=
  .ite (by rw [alike.mss]) (fun adopts => alike.setMss adopts.1 _) (fun _ => alike)

theorem listenIn (alike : Alike c w s s') (known : w.position = true) (e : Env) (block : Nat) :
    Alike c w (s.listenIn c e block) (s'.listenIn c e block) := by
  have moved : Alike c w { s with state := .synrcvd } { s' with state := .synrcvd } := alike.enters (by simp)
  have counted := moved.counts
  unfold TcpSocket.listenIn
  dsimp only
  rw [moved.setSyn, moved.writeHeaderWithAck, alike.getAckNum known, counted.getRto]
  exact counted.transmit e block _ _

theorem listenSegment (alike : Alike c w s s') (state : s.state = .listen) (e : Env) (r : ReceiveBuffer) :
    Matched c w (s.listenSegment c e r) (s'.listenSegment c e r) := by
  unfold TcpSocket.listenSegment
  split_ifs with rst
  · exact (alike.handleRst r).matched_early (.inl rfl)
  · have taken := ((alike.firstSeqNum (r.segment.seqnum + 1)).adoptMss r.segment).freeReceivedSegment r
    have listening : ((TcpSocket.adoptMss c { s with receiveBuffer := s.receiveBuffer.setFirstSeqNum (r.segment.seqnum + 1) }
        r.segment).freeReceivedSegment r).state = .listen := by
      unfold TcpSocket.adoptMss TcpSocket.setMss initSlowStart
      dsimp only
      split_ifs <;> exact state
    obtain ⟨answer, t, t', first, second, after, only⟩ := taken.requested e (by rw [listening]; simp)
    dsimp only
    rw [first, second]
    cases answer with
    | none => exact (after.matched_early (.inr (.inl (only.requested.state.trans listening)))).mono ⟨fun _ => rfl, id⟩
    | some b => exact ((after.listenIn rfl e b).matched_synrcvd rfl rfl).mono ⟨fun _ => rfl, id⟩

/-! ### SYNSENT, SYNRCVD -/

theorem synsentReset (alike : Alike c w s s') (state : s.state = .synsent) (e : Env) (acknum : SeqNum) :
    Matched c w (s.synsentReset c e acknum) (s'.synsentReset c e acknum) := by
  obtain ⟨answer, t, t', first, second, after, only⟩ := alike.requested e (by rw [state]; simp)
  have still : t.state = .synsent := only.requested.state.trans state
  unfold TcpSocket.synsentReset
  rw [first, second]
  cases answer with
  | none => exact after.matched_early (.inr (.inr still))
  | some b =>
    dsimp only
    rw [after.writeHeader]
    exact (after.transmit e b _ 0).matched_early (.inr (.inr still))

theorem synsentEstablish (alike : Alike c w s s') (e : Env) (segment : TcpSegment) :
    Matched c w (s.synsentEstablish c e segment) (s'.synsentEstablish c e segment) := by
  have moved : Alike c w { s with state := .established } { s' with state := .established } := alike.enters (by simp)
  have opened := ((moved.initSendWindow segment.window segment.seqnum segment.acknum).firstSeqNum (segment.seqnum + 1)).clearHistory
  obtain ⟨answer, t, t', first, second, after⟩ := opened.sendAck rfl e
  unfold TcpSocket.synsentEstablish
  dsimp only
  rw [first, second]
  cases answer with
  | true => exact (after.calms.matched rfl rfl).mono ⟨fun _ => rfl, id⟩
  | false => exact (after.matched rfl rfl).mono ⟨fun _ => rfl, id⟩

theorem synsentSimultaneousIn (alike : Alike c w s s') (known : w.position = true) (e : Env) (block : Nat) :
    Alike c w (s.synsentSimultaneousIn c e block) (s'.synsentSimultaneousIn c e block) := by
  have moved : Alike c w { s with state := .synrcvd } { s' with state := .synrcvd } := alike.enters (by simp)
  unfold TcpSocket.synsentSimultaneousIn
  dsimp only
  rw [moved.setSyn, moved.writeHeaderWithAck, alike.getAckNum known, moved.getRto, alike.seqnumNext]
  have same : Alike c w { s with state := .synrcvd } { s' with state := .synrcvd, seqnumNext := s.seqnumNext } :=
    { moved with seqnumNext := rfl }
  exact same.transmit e block _ _

theorem synsentSimultaneous (alike : Alike c w s s') (state : s.state = .synsent) (e : Env) (segment : TcpSegment) :
    Matched c w (s.synsentSimultaneous c e segment) (s'.synsentSimultaneous c e segment) := by
  have crossed := alike.clearHistory.firstSeqNum (segment.seqnum + 1)
  have still : s.clearHistory.state = .synsent := state
  obtain ⟨answer, t, t', first, second, after, only⟩ := crossed.requested e (by rw [still]; simp)
  unfold TcpSocket.synsentSimultaneous
  dsimp only
  rw [first, second]
  cases answer with
  | none => exact (after.matched_early (.inr (.inr (only.requested.state.trans still)))).mono ⟨fun _ => rfl, id⟩
  | some b => exact ((after.synsentSimultaneousIn rfl e b).matched_synrcvd rfl rfl).mono ⟨fun _ => rfl, id⟩

theorem synsentSegment (alike : Alike c w s s') (state : s.state = .synsent) (e : Env) (r : ReceiveBuffer) :
    Matched c w (s.synsentSegment c e r) (s'.synsentSegment c e r) := by
  have taken := (alike.adoptMss r.segment).freeReceivedSegment r
  have opening : ((s.adoptMss c r.segment).freeReceivedSegment r).state = .synsent := by
    unfold TcpSocket.adoptMss TcpSocket.setMss initSlowStart
    dsimp only
    split_ifs <;> exact state
  unfold TcpSocket.synsentSegment
  dsimp only
  generalize (s.adoptMss c r.segment).freeReceivedSegment r = t at taken opening ⊢
  generalize (s'.adoptMss c r.segment).freeReceivedSegment r = t' at taken ⊢
  have acked := taken.handleAck e r.segment.acknum
  have still : (t.handleAck c e r.segment.acknum).state = .synsent := by
    rw [handleAck_eq]
    exact opening
  rw [acked.seqnumUnacked, acked.seqnumNext, taken.seqnumNext]
  split_ifs
  · exact acked.synsentEstablish e r.segment
  · exact acked.synsentReset still e r.segment.acknum
  · exact taken.abort.matched_early (.inl rfl)
  · exact taken.matched_early (.inr (.inr opening))
  · exact taken.synsentReset opening e r.segment.acknum
  · exact taken.synsentSimultaneous opening e r.segment
  · exact taken.matched_early (.inr (.inr opening))

theorem synsent (alike : Alike c w s s') (state : s.state = .synsent) (e : Env) (segment : Option ReceiveBuffer) :
    Matched c w (s.synsent c e segment) (s'.synsent c e segment) := by
  cases segment with
  | some r => exact alike.synsentSegment state e r
  | none =>
    refine (alike.updateHistory e true).matched_early ?_
    rcases updateHistory_state c e s true with same | killed
    · exact .inr (.inr (same.trans state))
    · exact .inl killed

theorem resendFirst (alike : Alike c w s s') : Alike c w s.resendFirst s'.resendFirst := by
  unfold TcpSocket.resendFirst
  rw [alike.history]
  cases s.history with
  | nil => exact alike
  | cons record rest =>
    obtain ⟨sent, after⟩ := alike.send record.sendbuffer
    dsimp only
    rw [sent]
    exact { after with history := rfl }

theorem synrcvdAck (alike : Alike c w s s') (state : s.state = .synrcvd) (e : Env) (segment : TcpSegment)
    (known : w.position = true) : Matched c w (s.synrcvdAck c e segment) (s'.synrcvdAck c e segment) := by
  have acked := alike.handleAck e segment.acknum
  have still : (s.handleAck c e segment.acknum).state = .synrcvd := by
    rw [handleAck_eq]
    exact state
  refine .ite (by rw [acked.seqnumNext]) (fun _ => ?_) (fun _ => acked.matched_synrcvd known still)
  have moved : Alike c w { s.handleAck c e segment.acknum with state := .established }
      { s'.handleAck c e segment.acknum with state := .established } := acked.enters (by simp)
  exact (moved.initSendWindow segment.window segment.seqnum segment.acknum).clearHistory.calms.matched known rfl |>.mono ⟨id, id⟩

theorem synrcvdSegment (alike : Alike c w s s') (state : s.state = .synrcvd) (e : Env) (r : ReceiveBuffer)
    (known : w.position = true) : Matched c w (s.synrcvdSegment c e r) (s'.synrcvdSegment c e r) := by
  refine .ite Iff.rfl (fun _ => (alike.handleRst r).matched_early (.inl rfl)) (fun _ => .freed ?_ r)
  refine .ite Iff.rfl (fun _ => alike.synrcvdAck state e r.segment known) (fun _ => ?_)
  refine .ite Iff.rfl (fun _ => alike.resendFirst.matched_synrcvd known ?_) (fun _ => alike.matched_synrcvd known state)
  rw [resendFirst_eq]
  exact state

theorem synrcvd (alike : Alike c w s s') (state : s.state = .synrcvd) (e : Env) (segment : Option ReceiveBuffer)
    (known : w.position = true) : Matched c w (s.synrcvd c e segment) (s'.synrcvd c e segment) := by
  cases segment with
  | some r => exact alike.synrcvdSegment state e r known
  | none =>
    have updated := alike.updateHistory e true
    rcases updateHistory_state c e s true with same | killed
    · exact updated.matched_synrcvd known (same.trans state)
    · exact updated.matched_early (.inl killed)

/-! ### Segments in ESTABLISHED, FINWAIT1 and FINWAIT2 -/

theorem acceptAck (alike : Alike c w s s') (e : Env) (segment : TcpSegment) :
    Alike c w (s.acceptAck c e segment) (s'.acceptAck c e segment) :=
  .ite Iff.rfl (fun _ => alike.handleAck e segment.acknum) (fun _ => alike)

theorem freeUnless (alike : Alike c w s s') (needToFree : Bool) (r : ReceiveBuffer) :
    Alike c w (s.freeUnless needToFree r) (s'.freeUnless needToFree r) :=
  .ite Iff.rfl (fun _ => alike.freeReceivedSegment r) (fun _ => alike)

/-- The peer's FIN is acknowledged, and the state changes. -/
theorem completes (alike : Alike c w s s') (known : w.position = true) (e : Env) (alive : s.state ≠ .closed)
    (next : TcpState) :
    Alike c w (if s.finComplete c then { s.ackFin c e with state := next } else s)
      (if s'.finComplete c then { s'.ackFin c e with state := next } else s') := by
  refine .ite (alike.finComplete known) (fun complete => ?_) (fun _ => alike)
  have acked := alike.ackFin (.inl complete.1) e
  have replied : Replied s (s.ackFin c e) := sendAckNum_replied c e _ alive
  have received : (s.ackFin c e).finReceived = true := by
    unfold Replied at replied
    rw [replied]
    exact complete.1
  exact acked.moves next (acked.finSeqnum (.inl received))

/-- The part of the handlers that takes the data of a segment behind its acknowledgement. -/
theorem takesData (alike : Alike c w s s') (position : w.position = true) (r : ReceiveBuffer) : ∃ needToFree t t',
    (s.handleFin r.segment r.segment.seqnum r.payloadLen).handleData c r r.segment.seqnum r.payloadLen = (needToFree, t) ∧
      (s'.handleFin r.segment r.segment.seqnum r.payloadLen).handleData c r r.segment.seqnum r.payloadLen = (needToFree, t') ∧
      Alike c w t t' ∧ t.state = s.state := by
  obtain ⟨needToFree, t, t', first, second, stored⟩ :=
    (alike.handleFin r.segment r.segment.seqnum r.payloadLen).handleData position r r.segment.seqnum r.payloadLen
  refine ⟨needToFree, t, t', first, second, stored, ?_⟩
  rw [← show _ = t from congrArg Prod.snd first, (handleData_received _ _ _ _ _).state, (handleFin_received _ _ _ _).state]

theorem establishedSegment (alike : Alike c w s s') (position : w.position = true) (window : w.window = true)
    (state : s.state = .established) (e : Env) (r : ReceiveBuffer) :
    Alike c w (s.establishedSegment c e r) (s'.establishedSegment c e r) := by
  refine .ite Iff.rfl (fun _ => alike.handleRst r) (fun _ => ?_)
  refine .ite Iff.rfl (fun _ => alike.handleSyn position e r) (fun _ => ?_)
  obtain ⟨needToFree, t, t', first, second, stored, same⟩ := (alike.acceptAck e r.segment).takesData position r
  dsimp only
  rw [first, second]
  have freed := (stored.updateSendWindow window r.segment r.segment.seqnum r.segment.acknum).freeUnless needToFree r
  have alive : ((t.updateSendWindow r.segment r.segment.seqnum r.segment.acknum).freeUnless needToFree r).state ≠ .closed := by
    rw [(freeUnless_received _ _ _).state, (updateSendWindow_received _ _ _ _).state, same, acceptAck_eq, state]
    simp
  have completed := freed.completes position e alive .closewait
  exact .ite (by rw [completed.getReceiveWindow]) (fun _ => completed.triggerAck) (fun _ => completed)

theorem finwait1Segment (alike : Alike c w s s') (position : w.position = true) (state : s.state = .finwait1) (e : Env)
    (r : ReceiveBuffer) : Alike c w (s.finwait1Segment c e r) (s'.finwait1Segment c e r) := by
  refine .ite Iff.rfl (fun _ => alike.handleRst r) (fun _ => ?_)
  refine .ite Iff.rfl (fun _ => alike.handleSyn position e r) (fun _ => ?_)
  obtain ⟨needToFree, t, t', first, second, stored, same⟩ := (alike.acceptAck e r.segment).takesData position r
  dsimp only
  rw [first, second, stored.seqnumNext]
  refine (stored.freeUnless needToFree r).completes position e ?_ _
  rw [(freeUnless_received _ _ _).state, same, acceptAck_eq, state]
  simp

theorem finwait2Segment (alike : Alike c w s s') (position : w.position = true) (state : s.state = .finwait2) (e : Env)
    (r : ReceiveBuffer) : Alike c w (s.finwait2Segment c e r) (s'.finwait2Segment c e r) := by
  refine .ite Iff.rfl (fun _ => alike.handleRst r) (fun _ => ?_)
  refine .ite Iff.rfl (fun _ => alike.handleSyn position e r) (fun _ => ?_)
  obtain ⟨needToFree, t, t', first, second, stored, same⟩ := alike.takesData position r
  dsimp only
  rw [first, second]
  refine (stored.freeUnless needToFree r).completes position e ?_ _
  rw [(freeUnless_received _ _ _).state, same, state]
  simp

/-! ### Segments in the other states behind the handshake -/

theorem repeatFinAck (alike : Alike c w s s') (numbered : s.finNumbered) (e : Env) (segment : TcpSegment) :
    Alike c w (s.repeatFinAck c e segment) (s'.repeatFinAck c e segment) :=
  .ite Iff.rfl (fun _ => alike.ackFin numbered e) (fun _ => alike)

/-- The acknowledgement of a segment does not change the state. -/
theorem acceptAck_finNumbered (numbered : s.finNumbered) (c : Config) (e : Env) (segment : TcpSegment) :
    (s.acceptAck c e segment).finNumbered := by
  unfold finNumbered
  rw [acceptAck_eq]
  exact numbered

theorem closewaitSegment (alike : Alike c w s s') (window : w.window = true) (numbered : s.finNumbered) (e : Env)
    (r : ReceiveBuffer) : Alike c w (s.closewaitSegment c e r) (s'.closewaitSegment c e r) := by
  refine .ite Iff.rfl (fun _ => alike.handleRst r) (fun _ => ?_)
  refine .ite Iff.rfl (fun _ => alike.handleSynFinal numbered e r) (fun _ => ?_)
  have acked := (alike.acceptAck e r.segment).repeatFinAck (acceptAck_finNumbered numbered c e r.segment) e r.segment
  exact (acked.updateSendWindow window r.segment r.segment.seqnum r.segment.acknum).freeReceivedSegment r

theorem lastackSegment (alike : Alike c w s s') (numbered : s.finNumbered) (e : Env) (r : ReceiveBuffer) :
    Alike c w (s.lastackSegment c e r) (s'.lastackSegment c e r) := by
  refine .ite Iff.rfl (fun _ => alike.handleRst r) (fun _ => ?_)
  exact .ite Iff.rfl (fun _ => alike.handleSynFinal numbered e r) (fun _ => (alike.acceptAck e r.segment).freeReceivedSegment r)

theorem closingSegment (alike : Alike c w s s') (numbered : s.finNumbered) (e : Env) (r : ReceiveBuffer) :
    Alike c w (s.closingSegment c e r) (s'.closingSegment c e r) := by
  refine .ite Iff.rfl (fun _ => alike.handleRst r) (fun _ => ?_)
  refine .ite Iff.rfl (fun _ => alike.handleSynFinal numbered e r) (fun _ => freeReceivedSegment ?_ r)
  exact (alike.acceptAck e r.segment).repeatFinAck (acceptAck_finNumbered numbered c e r.segment) e r.segment

theorem timewaitSegment (alike : Alike c w s s') (numbered : s.finNumbered) (e : Env) (r : ReceiveBuffer) :
    Alike c w (s.timewaitSegment c e r) (s'.timewaitSegment c e r) := by
  refine .ite Iff.rfl (fun _ => alike.handleRst r) (fun _ => ?_)
  refine .ite Iff.rfl (fun _ => alike.handleSynFinal numbered e r) (fun _ => freeReceivedSegment ?_ r)
  exact alike.repeatFinAck numbered e r.segment

/-! ### Rounds without a segment -/

theorem finishSending (alike : Alike c w s s') : Alike c w s.finishSending s'.finishSending :=
  .ite (by rw [alike.buflen, alike.history]) (fun _ => alike.calms) (fun _ => alike)

theorem readToApplication (alike : Alike c w s s') (known : w.position = true) (len : BitVec 32)
    (none : s.applicationBuflen = 0 → len = 0) : Alike c w (s.readToApplication c len) (s'.readToApplication c len) := by
  have copied := alike.copyToApplication known len
  exact { copied with
    buffer := fun some => by
      have more : s.applicationBuflen ≠ 0 := fun empty => some (by
        change s.applicationBuflen - len = 0
        rw [none empty, empty]
        rfl)
      simp only [TcpSocket.readToApplication, alike.buffer more]
    buflen := by simp only [TcpSocket.readToApplication, alike.buflen] }

theorem establishedReceive (alike : Alike c w s s') (known : w.position = true) (e : Env) :
    Alike c w (s.establishedReceive c e) (s'.establishedReceive c e) := by
  unfold TcpSocket.establishedReceive
  rw [TcpReceiveBuffer.same_getRecvBytes alike.receiveBuffer, TcpReceiveBuffer.same_pushFlag alike.receiveBuffer, alike.buflen]
  refine .ite Iff.rfl (fun some => ?_) (fun _ => alike.processAck known e)
  have none : s.applicationBuflen = 0 →
      (if s.applicationBuflen < s.receiveBuffer.getRecvBytes c then s.applicationBuflen else s.receiveBuffer.getRecvBytes c) = 0 := by
    intro empty
    rw [empty, if_pos some]
  have read := (alike.readToApplication known _ none).processAck known e
  refine .ite (by rw [read.buflen]) (fun _ => ?_) (fun _ => read)
  exact { read with receiving := rfl, waiting := rfl }

/-- A socket whose call goes on is not closed by the update of its history. -/
theorem updateHistory_waiting (alive : s.state ≠ .closed) (c : Config) (e : Env)
    (waits : (s.updateHistory c e true).waiting = true) : (s.updateHistory c e true).state ≠ .closed := by
  rcases updateHistory_cases c e true alive with updated | ⟨-, s₁, killed⟩
  · unfold Updated at updated
    rw [updated]
    exact alive
  · rw [killed] at waits
    exact absurd waits Bool.false_ne_true

theorem establishedIdle (alike : Alike c w s s') (known : w.position = true) (alive : s.state ≠ .closed) (e : Env) :
    Alike c w (s.establishedIdle c e) (s'.establishedIdle c e) := by
  have updated := alike.updateHistory e true
  refine .ite (by rw [updated.receiving]) (fun _ => updated.establishedReceive known e) (fun _ => ?_)
  refine .ite (by rw [updated.waiting]) (fun waits => ?_) (fun _ => updated)
  have open' := updateHistory_waiting alive c e waits
  refine ((updated.processAck known e).processSendData known ?_ e).finishSending
  unfold TcpSocket.processAck
  split_ifs
  · rw [(sendAck_replied c e open').state]
    exact open'
  · exact open'

theorem finwait1Idle (alike : Alike c w s s') (known : w.position = true) (e : Env) :
    Alike c w (s.finwait1Idle c e) (s'.finwait1Idle c e) := by
  have acked := (alike.updateHistory e true).processAck known e
  exact .ite (by rw [acked.history]) (fun _ => acked.enters (by simp)) (fun _ => acked)

theorem closewaitReceive (alike : Alike c w s s') (known : w.position = true) :
    Alike c w (s.closewaitReceive c) (s'.closewaitReceive c) := by
  have bounded : Alike c w
      (if s.receiveBuffer.getRecvBytes c < s.applicationBuflen then
        { s with applicationBuflen := s.receiveBuffer.getRecvBytes c } else s)
      (if s'.receiveBuffer.getRecvBytes c < s'.applicationBuflen then
        { s' with applicationBuflen := s'.receiveBuffer.getRecvBytes c } else s') := by
    rw [TcpReceiveBuffer.same_getRecvBytes alike.receiveBuffer]
    refine .ite (by rw [alike.buflen]) (fun less => ?_) (fun _ => alike)
    exact { alike with buflen := rfl, buffer := fun _ => alike.buffer (by bv_omega) }
  unfold TcpSocket.closewaitReceive
  dsimp only
  rw [bounded.buflen]
  exact { bounded.copyToApplication known _ with receiving := rfl, waiting := rfl }

theorem closewaitIdle (alike : Alike c w s s') (known : w.position = true) (alive : s.state ≠ .closed) (e : Env) :
    Alike c w (s.closewaitIdle c e) (s'.closewaitIdle c e) := by
  have updated := alike.updateHistory e true
  refine .ite (by rw [updated.receiving]) (fun _ => updated.closewaitReceive known) (fun _ => ?_)
  refine .ite (by rw [updated.waiting]) (fun waits => ?_) (fun _ => updated)
  exact (updated.processSendData known (updateHistory_waiting alive c e waits) e).finishSending

theorem lastackIdle (alike : Alike c w s s') (e : Env) : Alike c w (s.lastackIdle c e) (s'.lastackIdle c e) := by
  have updated := alike.updateHistory e true
  exact .ite (by rw [updated.history]) (fun _ => updated.abort) (fun _ => updated)

theorem closingIdle (alike : Alike c w s s') (numbered : s.finNumbered) (e : Env) :
    Alike c w (s.closingIdle c e) (s'.closingIdle c e) := by
  have updated := alike.updateHistory e true
  refine .ite (by rw [updated.history]) (fun _ => updated.moves .timewait ?_) (fun _ => updated)
  rw [updateHistory_finSeqnum, updateHistory_finSeqnum, alike.finSeqnum numbered]

theorem timewaitIdle (alike : Alike c w s s') (e : Env) : Alike c w (s.timewaitIdle c e) (s'.timewaitIdle c e) := by
  have updated := alike.updateHistory e true
  exact .ite Iff.rfl (fun _ => updated.abort) (fun _ => updated)

end Alike

theorem Matched.updateHistory {v : Written} (matched : Matched c v s s') (e : Env) (doRetransmit : Bool) :
    Matched c v (s.updateHistory c e doRetransmit) (s'.updateHistory c e doRetransmit) := by
  rcases updateHistory_state c e s doRetransmit with same | killed
  · exact matched.keeps same (·.updateHistory e doRetransmit)
  · obtain ⟨w, within, alike, -, -⟩ := matched
    exact ((alike.updateHistory e doRetransmit).matched_early (.inl killed)).mono within

/-- A request changes the state in no case. -/
theorem requestSendBufferTcp_state (c : Config) (e : Env) (s : TcpSocket) : (s.requestSendBufferTcp c e).2.state = s.state := by
  by_cases closed : s.state = .closed
  · rw [requestSendBufferTcp_closed c e closed, closed]
  · exact ((requestSendBufferTcp_spec c e s).historyOnly fun dead => closed dead.2.1).requested.state

theorem processAck_state (c : Config) (e : Env) (s : TcpSocket) : (s.processAck c e).state = s.state := by
  unfold processAck
  split_ifs
  · have requested := requestSendBufferTcp_state c e { s with ackTriggered := false }
    unfold sendAck sendAckNum
    dsimp only at requested ⊢
    generalize TcpSocket.requestSendBufferTcp c e _ = result at requested ⊢
    obtain ⟨answer, t⟩ := result
    cases answer <;> exact requested
  · rfl

theorem Matched.processAck {v : Written} (matched : Matched c v s s') (known : v.position = true) (e : Env) :
    Matched c v (s.processAck c e) (s'.processAck c e) := by
  obtain ⟨w, within, alike, position, window⟩ := matched
  unfold synchronized at position window
  rw [← processAck_state c e s] at position window
  exact ⟨w, within, alike.processAck (within.position known) e, position, window⟩

/-! ### The state machine -/

/-- The states behind the handshake. -/
theorem Alike.input_synchronized (alike : Alike c w s s') (position : w.position = true) (window : w.window = true)
    (behind : s.synchronized) (e : Env) (segment : Option ReceiveBuffer) :
    Alike c w (s.input c e segment) (s'.input c e segment) := by
  obtain ⟨alive, listening, opening, half⟩ := behind
  unfold TcpSocket.input
  rw [alike.state]
  cases state : s.state with
  | closed => exact absurd state alive
  | listen => exact absurd state listening
  | synsent => exact absurd state opening
  | synrcvd => exact absurd state half
  | established =>
    cases segment with
    | some r => exact alike.establishedSegment position window state e r
    | none => exact alike.establishedIdle position alive e
  | finwait1 =>
    cases segment with
    | some r => exact alike.finwait1Segment position state e r
    | none => exact alike.finwait1Idle position e
  | finwait2 =>
    cases segment with
    | some r => exact alike.finwait2Segment position state e r
    | none => exact (alike.updateHistory e true).processAck position e
  | closewait =>
    cases segment with
    | some r => exact alike.closewaitSegment window (.inr (.inl state)) e r
    | none => exact alike.closewaitIdle position alive e
  | lastack =>
    cases segment with
    | some r => exact alike.lastackSegment (.inr (.inr (.inl state))) e r
    | none => exact alike.lastackIdle e
  | closing =>
    cases segment with
    | some r => exact alike.closingSegment (.inr (.inr (.inr (.inl state)))) e r
    | none => exact alike.closingIdle (.inr (.inr (.inr (.inl state)))) e
  | timewait =>
    cases segment with
    | some r => exact alike.timewaitSegment (.inr (.inr (.inr (.inr state)))) e r
    | none => exact alike.timewaitIdle e

theorem Matched.input {v : Written} (matched : Matched c v s s') (e : Env) (segment : Option ReceiveBuffer) :
    Matched c v (s.input c e segment) (s'.input c e segment) := by
  obtain ⟨w, within, alike, position, window⟩ := matched
  refine Matched.mono ?_ within
  by_cases behind : s.synchronized
  · exact (alike.input_synchronized (position (.inr behind)) (window behind) behind e segment).matched
      (position (.inr behind)) (window behind)
  unfold TcpSocket.input
  rw [alike.state]
  cases state : s.state with
  | closed =>
    cases segment with
    | some r => exact (alike.freeReceivedSegment r).calms.matched_early (.inl state)
    | none => exact alike.calms.matched_early (.inl state)
  | listen =>
    cases segment with
    | some r => exact alike.listenSegment state e r
    | none => exact alike.matched_early (.inr (.inl state))
  | synsent => exact alike.synsent state e segment
  | synrcvd => exact alike.synrcvd state e segment (position (.inl state))
  | _ => exact absurd ⟨by simp [state], by simp [state], by simp [state], by simp [state]⟩ behind

end TcpSocket

end IPStack
