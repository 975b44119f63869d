import IPStack.Tcp.Actions

/-! The handlers of the state machine for a received segment, as actions. -/

namespace IPStack

namespace TcpSocket

/-- The handler passes the segment's acknowledgement number to `handleACK` first. -/
def acceptsAck (s : TcpSocket) (segment : TcpSegment) : Prop :=
  (s.isOpen ∨ s.state = .finwait1 ∨ s.state = .lastack ∨ s.state = .closing) ∧ segment.plain ∧ segment.ack = true

instance (s : TcpSocket) (segment : TcpSegment) : Decidable (s.acceptsAck segment) :=
  inferInstanceAs (Decidable (_ ∧ _))

/-- The socket after the acknowledgement a segment carries. -/
def ackedBy (c : Config) (e : Env) (s : TcpSocket) (segment : TcpSegment) : TcpSocket :=
  if s.acceptsAck segment then s.handleAck c e segment.acknum else s

/-- With this segment the stream is complete up to the peer's FIN. -/
def completesFin (c : Config) (s : TcpSocket) (r : ReceiveBuffer) : Prop :=
  let s := s.handleFin r.segment r.segment.seqnum r.payloadLen
  (s.handleData c r r.segment.seqnum r.payloadLen).2.finComplete c

instance (c : Config) (s : TcpSocket) (r : ReceiveBuffer) : Decidable (s.completesFin c r) :=
  inferInstanceAs (Decidable (finComplete _ _))

/-- The handler asks for a send buffer. -/
def replies (c : Config) (s : TcpSocket) (r : ReceiveBuffer) : Prop :=
  match s.state with
  | .listen => r.segment.rst = false
  | .synsent => True
  | .established | .finwait1 | .finwait2 =>
    r.segment.rst = false ∧ (r.segment.syn = true ∨ s.completesFin c r)
  | .closewait | .closing | .timewait => r.segment.rst = false ∧ (r.segment.syn = true ∨ r.segment.fin = true)
  | .lastack => r.segment.rst = false ∧ r.segment.syn = true
  | _ => False

instance (c : Config) (s : TcpSocket) (r : ReceiveBuffer) : Decidable (s.replies c r) := by
  unfold replies
  cases s.state <;> infer_instance

/-- The segment resets the connection. -/
def resetBy (s : TcpSocket) (segment : TcpSegment) : Prop :=
  match s.state with
  | .closed => False
  | .synsent =>
    segment.ack = true ∧ segment.syn = false ∧ segment.rst = true ∧ segment.acknum = s.seqnumNext
  | _ => segment.rst = true

instance (s : TcpSocket) (segment : TcpSegment) : Decidable (s.resetBy segment) := by
  unfold resetBy
  cases s.state <;> infer_instance

/-- An idle step finds a record over the retransmission limit. -/
def overdue (c : Config) (e : Env) (s : TcpSocket) : Prop :=
  e.interface = true ∧ ∃ r ∈ s.history, Overdue c e s r

instance (c : Config) (e : Env) (s : TcpSocket) : Decidable (s.overdue c e) := inferInstanceAs (Decidable (_ ∧ _))

/-- An idle step ends the connection: a record is over the limit, in LASTACK nothing is
left in the history, or TIMEWAIT is over. -/
def ends (c : Config) (e : Env) (s : TcpSocket) : Prop :=
  s.overdue c e ∨ s.state = .lastack ∧ (s.updateHistory c e true).history = [] ∨
    s.state = .timewait ∧ e.timeoutReached = true

instance (c : Config) (e : Env) (s : TcpSocket) : Decidable (s.ends c e) := inferInstanceAs (Decidable (_ ∨ _))

variable {c : Config} {d : Round} {e : Env} {s s' s'' : TcpSocket} {r : ReceiveBuffer}

/-! ### What the parts of a handler leave alone -/

/-- What a segment can change before the state does, its acknowledgement apart. -/
def Received (s s' : TcpSocket) : Prop :=
  s' = { s with
    finSeqnum := s'.finSeqnum, finReceived := s'.finReceived, receiveBuffer := s'.receiveBuffer
    ackTriggered := s'.ackTriggered, sendWindow := s'.sendWindow, lwseq := s'.lwseq, lwack := s'.lwack
    mempool := s'.mempool, trace := { s.trace with lastWindow := s'.trace.lastWindow } }

theorem Received.trans (first : Received s s') (second : Received s' s'') : Received s s'' := by
  unfold Received at *
  rw [second, first]

theorem Received.state (received : Received s s') : s'.state = s.state := by
  unfold Received at received
  rw [received]

theorem Received.history (received : Received s s') : s'.history = s.history := by
  unfold Received at received
  rw [received]

theorem Received.seqnumNext (received : Received s s') : s'.seqnumNext = s.seqnumNext := by
  unfold Received at received
  rw [received]

theorem Received.seqnumUnacked (received : Received s s') : s'.seqnumUnacked = s.seqnumUnacked := by
  unfold Received at received
  rw [received]

theorem handleFin_eq (s : TcpSocket) (segment : TcpSegment) (seqnum : SeqNum) (len : BitVec 32) :
    s.handleFin segment seqnum len = { s with
      finSeqnum := (s.handleFin segment seqnum len).finSeqnum
      finReceived := (s.handleFin segment seqnum len).finReceived } := by
  unfold handleFin
  split_ifs <;> rfl

theorem handleData_eq (c : Config) (s : TcpSocket) (r : ReceiveBuffer) (seqnum : SeqNum) (len : BitVec 32) :
    (s.handleData c r seqnum len).2 = { s with
      receiveBuffer := (s.handleData c r seqnum len).2.receiveBuffer
      ackTriggered := (s.handleData c r seqnum len).2.ackTriggered } := by
  unfold handleData
  split_ifs
  · split <;> rfl
  · rfl

theorem handleAck_eq (c : Config) (e : Env) (s : TcpSocket) (acknum : SeqNum) :
    s.handleAck c e acknum = { s with
      seqnumUnacked := (s.handleAck c e acknum).seqnumUnacked, slowStart := (s.handleAck c e acknum).slowStart
      rtt := (s.handleAck c e acknum).rtt } := by
  unfold handleAck setSeqnumUnacked
  split_ifs <;> rfl

theorem ackedBy_eq (c : Config) (e : Env) (s : TcpSocket) (segment : TcpSegment) :
    s.ackedBy c e segment = { s with
      seqnumUnacked := (s.ackedBy c e segment).seqnumUnacked, slowStart := (s.ackedBy c e segment).slowStart
      rtt := (s.ackedBy c e segment).rtt } := by
  unfold ackedBy
  split_ifs
  · exact handleAck_eq c e s _
  · rfl

theorem resendFirst_eq (s : TcpSocket) : s.resendFirst = { s with
    history := s.resendFirst.history
    trace := { s.trace with wire := s.resendFirst.trace.wire, refused := s.resendFirst.trace.refused } } := by
  unfold resendFirst send
  cases s.history with
  | nil => rfl
  | cons record rest =>
    dsimp only
    cases record.sendbuffer.state <;> rfl

theorem resendFirst_blocks (s : TcpSocket) : s.resendFirst.history.map TcpRecord.block = s.history.map TcpRecord.block := by
  unfold resendFirst send
  cases queued : s.history with
  | nil => rw [queued]
  | cons record rest =>
    dsimp only
    cases record.sendbuffer.state <;> rfl

theorem handleFin_received (s : TcpSocket) (segment : TcpSegment) (seqnum : SeqNum) (len : BitVec 32) :
    Received s (s.handleFin segment seqnum len) := by
  unfold Received
  rw [handleFin_eq]

theorem handleData_received (c : Config) (s : TcpSocket) (r : ReceiveBuffer) (seqnum : SeqNum) (len : BitVec 32) :
    Received s (s.handleData c r seqnum len).2 := by
  unfold Received
  rw [handleData_eq]

theorem updateSendWindow_received (s : TcpSocket) (segment : TcpSegment) (seqnum acknum : SeqNum) :
    Received s (s.updateSendWindow segment seqnum acknum) := by
  unfold updateSendWindow
  split_ifs <;> rfl

theorem freeUnless_received (h : Bool) (s : TcpSocket) (r : ReceiveBuffer) : Received s (s.freeUnless h r) := by
  cases h <;> rfl

theorem acceptAck_eq (c : Config) (e : Env) (s : TcpSocket) (segment : TcpSegment) :
    s.acceptAck c e segment = { s with
      seqnumUnacked := (s.acceptAck c e segment).seqnumUnacked, slowStart := (s.acceptAck c e segment).slowStart
      rtt := (s.acceptAck c e segment).rtt } := by
  unfold acceptAck
  split_ifs
  · exact handleAck_eq c e s _
  · rfl

/-- Two sockets that have received the same. -/
structure SameReceived (s s' : TcpSocket) : Prop where
  receiveBuffer : s'.receiveBuffer = s.receiveBuffer
  finReceived : s'.finReceived = s.finReceived
  finSeqnum : s'.finSeqnum = s.finSeqnum

theorem SameReceived.handleFin (same : SameReceived s s') (segment : TcpSegment) (seqnum : SeqNum) (len : BitVec 32) :
    SameReceived (s.handleFin segment seqnum len) (s'.handleFin segment seqnum len) := by
  unfold TcpSocket.handleFin
  rw [same.finReceived]
  split_ifs
  · exact ⟨same.receiveBuffer, rfl, rfl⟩
  · exact same

theorem SameReceived.handleData (same : SameReceived s s') (r : ReceiveBuffer) (seqnum : SeqNum) (len : BitVec 32) :
    SameReceived (s.handleData c r seqnum len).2 (s'.handleData c r seqnum len).2 := by
  unfold TcpSocket.handleData
  rw [same.receiveBuffer]
  split_ifs
  · cases s.receiveBuffer.insert c r seqnum len with
    | none => exact ⟨same.receiveBuffer, same.finReceived, same.finSeqnum⟩
    | some b => exact ⟨rfl, same.finReceived, same.finSeqnum⟩
  · exact same

theorem SameReceived.finComplete (same : SameReceived s s') : s'.finComplete c ↔ s.finComplete c := by
  unfold TcpSocket.finComplete
  rw [same.receiveBuffer, same.finReceived, same.finSeqnum]

theorem SameReceived.completesFin (same : SameReceived s s') : s'.completesFin c r ↔ s.completesFin c r :=
  ((same.handleFin _ _ _).handleData r _ _).finComplete

theorem acceptAck_sameReceived (c : Config) (e : Env) (s : TcpSocket) (segment : TcpSegment) :
    SameReceived s (s.acceptAck c e segment) := by
  constructor <;> rw [acceptAck_eq]

theorem Replied.sameReceived (replied : Replied s s') : SameReceived s s' := by
  unfold Replied at replied
  constructor <;> rw [replied]

theorem Replied.state (replied : Replied s s') : s'.state = s.state := by
  unfold Replied at replied
  rw [replied]

theorem Replied.unsent (replied : Replied s s') : Unsent s s' := by
  unfold Replied at replied
  constructor <;> rw [replied]

theorem Replied.seqnumNext (replied : Replied s s') : s'.seqnumNext = s.seqnumNext := by
  unfold Replied at replied
  rw [replied]

theorem Replied.seqnumUnacked (replied : Replied s s') : s'.seqnumUnacked = s.seqnumUnacked := by
  unfold Replied at replied
  rw [replied]

theorem SameReceived.trans (first : SameReceived s s') (second : SameReceived s' s'') : SameReceived s s'' where
  receiveBuffer := second.receiveBuffer.trans first.receiveBuffer
  finReceived := second.finReceived.trans first.finReceived
  finSeqnum := second.finSeqnum.trans first.finSeqnum

theorem updateSendWindow_sameReceived (s : TcpSocket) (segment : TcpSegment) (seqnum acknum : SeqNum) :
    SameReceived s (s.updateSendWindow segment seqnum acknum) := by
  unfold updateSendWindow
  split_ifs <;> exact ⟨rfl, rfl, rfl⟩

theorem freeUnless_sameReceived (h : Bool) (s : TcpSocket) (r : ReceiveBuffer) :
    SameReceived s (s.freeUnless h r) := by
  cases h <;> exact ⟨rfl, rfl, rfl⟩

/-! ### Segments -/

/-- The round processes the segment `r`, which the socket `s` has taken from its packet
buffer; the actions start behind the segment's acknowledgement. -/
structure Processes (c : Config) (d : Round) (s : TcpSocket) (r : ReceiveBuffer) : Prop where
  input : d.input = some r
  start : d.start = s.ackedBy c d.env r.segment
  updates : s.history.isFull c = true → s.replies c r → d.updates
  aborts : s.resetBy r.segment → d.aborts

namespace Processes

theorem start_of_not_plain (p : Processes c d s r) (special : ¬ r.segment.plain) : d.start = s := by
  rw [p.start, ackedBy, if_neg (fun accepts => special accepts.2.1)]

theorem start_of_plain (p : Processes c d s r) (plain : r.segment.plain)
    (state : s.isOpen ∨ s.state = .finwait1 ∨ s.state = .lastack ∨ s.state = .closing) :
    d.start = s.acceptAck c d.env r.segment := by
  rw [p.start, ackedBy, acceptAck]
  by_cases ack : r.segment.ack = true
  · rw [if_pos ⟨state, plain, ack⟩, if_pos ack]
  · rw [if_neg (fun accepts => ack accepts.2.2), if_neg ack]

theorem reset (p : Processes c d s r) (rst : r.segment.rst = true) (resets : s.resetBy r.segment) :
    Actions c d (true, d.start) (false, s.handleRst r) := by
  have same : d.start = s := p.start_of_not_plain (fun plain => by simp [plain.1] at rst)
  rw [same]
  exact handleRst_actions p.input (p.aborts resets) ⟨by rw [same], by rw [same]⟩

end Processes

/-- The FIN and the data of a segment. -/
theorem takeData_actions (input : d.input = some r) (state : s.takesData) (plain : r.segment.plain) :
    let s' := s.handleFin r.segment r.segment.seqnum r.payloadLen
    let data := s'.handleData c r r.segment.seqnum r.payloadLen
    Actions c d (true, s) (data.1, data.2) ∧ Received s data.2 ∧ (data.2.finComplete c ↔ s.completesFin c r) ∧
      Unsent s data.2 := by
  intro s' data
  have fin : Received s s' := handleFin_received s _ _ _
  have received : Received s' data.2 := handleData_received c s' r _ _
  have takes : s'.takesData := by rwa [takesData, fin.state]
  refine ⟨.head (.fin input state plain) (handleData_actions input takes plain), fin.trans received, Iff.rfl, ?_⟩
  simp only [data]
  rw [handleData_eq]
  simp only [s']
  rw [handleFin_eq]
  exact ⟨rfl, rfl, rfl, rfl, rfl, rfl, rfl⟩

/-- The states behind the handshake. -/
def synchronized (s : TcpSocket) : Prop :=
  s.state ≠ .closed ∧ s.state ≠ .listen ∧ s.state ≠ .synsent ∧ s.state ≠ .synrcvd

instance (s : TcpSocket) : Decidable s.synchronized := inferInstanceAs (Decidable (_ ∧ _))

theorem replies_of_syn (state : s.synchronized) (noRst : r.segment.rst = false) (syn : r.segment.syn = true) :
    s.replies c r := by
  unfold replies
  obtain ⟨closed, listen, synsent, synrcvd⟩ := state
  cases holds : s.state <;> simp_all

/-- The frame of the handlers behind the handshake: RST, then SYN, then the rest. -/
theorem Processes.segment_actions {onSyn rest : TcpSocket} (p : Processes c d s r) (state : s.synchronized)
    (syn : (s.history.isFull c = true → d.updates) → Actions c d (true, s) (false, onSyn))
    (plain : r.segment.plain → Actions c d (true, d.start) (false, rest)) :
    Actions c d (true, d.start)
      (false, if r.segment.rst then s.handleRst r else if r.segment.syn then onSyn else rest) := by
  by_cases rst : r.segment.rst = true
  · rw [if_pos rst]
    refine p.reset rst ?_
    obtain ⟨closed, -, synsent, -⟩ := state
    unfold resetBy
    cases holds : s.state <;> simp_all
  have noRst : r.segment.rst = false := by simpa using rst
  rw [if_neg rst]
  by_cases hasSyn : r.segment.syn = true
  · rw [if_pos hasSyn, p.start_of_not_plain (fun plain => by simp [plain.2] at hasSyn)]
    exact syn (fun full => p.updates full (replies_of_syn state noRst hasSyn))
  · rw [if_neg hasSyn]
    exact plain ⟨noRst, by simpa using hasSyn⟩

/-- Data, FIN and the change of the state in the states that take data. -/
theorem Processes.completeFin_actions {s₁ : TcpSocket} {h : Bool} (p : Processes c d s r) (next : TcpState)
    (state : s.takesData) (noRst : r.segment.rst = false) (same : s₁.finComplete c ↔ s.completesFin c r)
    (received : s₁.state = s.state ∧ s₁.history = s.history)
    (move : ∀ s', Replied s₁ s' → s'.finComplete c → Action c d (h, s') (h, { s' with state := next })) :
    Actions c d (h, s₁) (h, if s₁.finComplete c then { s₁.ackFin c d.env with state := next } else s₁) := by
  split_ifs with complete
  · have alive : s₁.state ≠ .closed := by
      rw [received.1]
      rcases state with state | state | state <;> simp [state]
    have sent := ackFin_actions (c := c) (d := d) (h := h) (s := s₁) (alive_of_open alive) (fun full => by
      refine p.updates (by rwa [received.2] at full) ?_
      have completes := same.mp complete
      rcases state with state | state | state <;> simpa only [replies, state] using ⟨noRst, .inr completes⟩)
    have replied := sent.2 alive
    exact sent.1.tail (move _ replied (replied.sameReceived.finComplete.mpr complete))
  · exact .refl

theorem establishedSegment_actions (p : Processes c d s r) (state : s.state = .established) :
    Actions c d (true, d.start) (false, s.establishedSegment c d.env r) := by
  refine p.segment_actions (by simp [synchronized, state]) (handleSyn_actions p.input (alive_of_open (by simp [state]))) (fun plain => ?_)
  have start := p.start_of_plain plain (.inl (.inl state))
  rw [← start]
  dsimp only
  have started : d.start.state = s.state ∧ d.start.history = s.history := by
    rw [start, acceptAck_eq]
    exact ⟨rfl, rfl⟩
  obtain ⟨taken, received, complete, last⟩ :=
    takeData_actions (c := c) p.input (.inl (started.1.trans state)) plain
  rw [start, (acceptAck_sameReceived c d.env s _).completesFin, ← start] at complete
  generalize (d.start.handleFin r.segment r.segment.seqnum r.payloadLen).handleData c r r.segment.seqnum r.payloadLen
    = data at *
  have open' : data.2.isOpen := .inl (received.state.trans (started.1.trans state))
  have window : Action c d (data.1, data.2) (data.1, data.2.updateSendWindow r.segment r.segment.seqnum r.segment.acknum) :=
    .window p.input open' plain last
  have windowed := updateSendWindow_received data.2 r.segment r.segment.seqnum r.segment.acknum
  have unchanged := updateSendWindow_sameReceived data.2 r.segment r.segment.seqnum r.segment.acknum
  generalize data.2.updateSendWindow r.segment r.segment.seqnum r.segment.acknum = s₂ at *
  have after := received.trans (windowed.trans (freeUnless_received data.1 s₂ r))
  have same := (unchanged.trans (freeUnless_sameReceived data.1 s₂ r)).finComplete (c := c)
  refine taken.trans (.head window ?_)
  refine (freeUnless_actions p.input data.1).trans ?_
  refine (p.completeFin_actions .closewait (.inl state) plain.1 (same.trans complete) ?_ ?_).trans ?_
  · exact ⟨after.state.trans started.1, after.history.trans started.2⟩
  · intro s' replied done
    exact .peerClosed (replied.state.trans (after.state.trans (started.1.trans state))) done
  · split_ifs
    · exact .single (.setAck true (by simp))
    · exact .refl
    · exact .single (.setAck true (by simp [after.state, started.1, state]))
    · exact .refl

/-- Once everything is acknowledged, the first unacknowledged number is not before the next. -/
theorem handleAck_seqnumNext (c : Config) (e : Env) (s : TcpSocket) :
    seqLeq s.seqnumNext (s.handleAck c e s.seqnumNext).seqnumUnacked := by
  unfold handleAck
  split_ifs with old future
  · exact old
  · simp [seqGt] at future
  · unfold setSeqnumUnacked
    split_ifs <;> simp [seqLeq]

theorem finwait1Segment_actions (p : Processes c d s r) (state : s.state = .finwait1) :
    Actions c d (true, d.start) (false, s.finwait1Segment c d.env r) := by
  refine p.segment_actions (by simp [synchronized, state]) (handleSyn_actions p.input (alive_of_open (by simp [state]))) (fun plain => ?_)
  have start := p.start_of_plain plain (.inr (.inl state))
  dsimp only
  rw [← start]
  have started : d.start.state = s.state ∧ d.start.history = s.history := by
    rw [start, acceptAck_eq]
    exact ⟨rfl, rfl⟩
  have acked : r.segment.ack = true → r.segment.acknum = d.start.seqnumNext →
      seqLeq d.start.seqnumNext d.start.seqnumUnacked := by
    intro ack all
    have next : d.start.seqnumNext = s.seqnumNext := by rw [start, acceptAck_eq]
    rw [next] at all ⊢
    rw [start, acceptAck, if_pos ack, all]
    exact handleAck_seqnumNext c d.env s
  obtain ⟨taken, received, complete, -⟩ :=
    takeData_actions (c := c) p.input (.inr (.inl (started.1.trans state))) plain
  rw [start, (acceptAck_sameReceived c d.env s _).completesFin, ← start] at complete
  generalize (d.start.handleFin r.segment r.segment.seqnum r.payloadLen).handleData c r r.segment.seqnum r.payloadLen
    = data at *
  have after := received.trans (freeUnless_received data.1 data.2 r)
  have same := (freeUnless_sameReceived data.1 data.2 r).finComplete (c := c)
  refine taken.trans ((freeUnless_actions p.input data.1).trans ?_)
  refine p.completeFin_actions _ (.inr (.inl state)) plain.1 (same.trans complete) ?_ ?_
  · exact ⟨after.state.trans started.1, after.history.trans started.2⟩
  · intro s' replied done
    have now : s'.state = .finwait1 := replied.state.trans (after.state.trans (started.1.trans state))
    split_ifs with all
    · refine .lastClosed done (.inr ⟨now, ?_⟩)
      rw [replied.seqnumNext, replied.seqnumUnacked, after.seqnumNext, after.seqnumUnacked]
      simp only [received.seqnumNext, decide_eq_true_eq] at all
      exact acked all.1 all.2
    · exact .bothClosed now done

theorem finwait2Segment_actions (p : Processes c d s r) (state : s.state = .finwait2) :
    Actions c d (true, d.start) (false, s.finwait2Segment c d.env r) := by
  refine p.segment_actions (by simp [synchronized, state]) (handleSyn_actions p.input (alive_of_open (by simp [state]))) (fun plain => ?_)
  have start : d.start = s := by
    rw [p.start, ackedBy, if_neg (by simp [acceptsAck, isOpen, state])]
  dsimp only
  rw [start]
  obtain ⟨taken, received, complete, -⟩ := takeData_actions (c := c) p.input (.inr (.inr state)) plain
  generalize (s.handleFin r.segment r.segment.seqnum r.payloadLen).handleData c r r.segment.seqnum r.payloadLen
    = data at *
  have after := received.trans (freeUnless_received data.1 data.2 r)
  have same := (freeUnless_sameReceived data.1 data.2 r).finComplete (c := c)
  refine taken.trans ((freeUnless_actions p.input data.1).trans ?_)
  refine p.completeFin_actions .timewait (.inr (.inr state)) plain.1 (same.trans complete) ⟨after.state, after.history⟩ ?_
  intro s' replied done
  exact .lastClosed done (.inl (replied.state.trans (after.state.trans state)))

/-- The repeated acknowledgement of the peer's FIN. -/
theorem Processes.repeatFinAck_actions {s₁ : TcpSocket} (p : Processes c d s r) (noRst : r.segment.rst = false)
    (state : s.state = .closewait ∨ s.state = .closing ∨ s.state = .timewait)
    (same : s₁.state = s.state ∧ s₁.history = s.history) :
    Actions c d (true, s₁) (true, s₁.repeatFinAck c d.env r.segment) ∧
      Replied s₁ (s₁.repeatFinAck c d.env r.segment) := by
  unfold repeatFinAck
  split_ifs with fin
  · have alive : s₁.state ≠ .closed := by
      rw [same.1]
      rcases state with state | state | state <;> simp [state]
    have sent := ackFin_actions (c := c) (d := d) (h := true) (s := s₁) (alive_of_open alive) (fun full => by
      refine p.updates (by rwa [same.2] at full) ?_
      rcases state with state | state | state <;> simpa only [replies, state] using ⟨noRst, .inr fin⟩)
    exact ⟨sent.1, sent.2 alive⟩
  · exact ⟨.refl, rfl⟩

theorem acceptAck_start (p : Processes c d s r) (plain : r.segment.plain)
    (state : s.isOpen ∨ s.state = .finwait1 ∨ s.state = .lastack ∨ s.state = .closing) :
    s.acceptAck c d.env r.segment = d.start ∧ d.start.state = s.state ∧ d.start.history = s.history := by
  rw [p.start_of_plain plain state]
  refine ⟨rfl, ?_⟩
  rw [acceptAck_eq]
  exact ⟨rfl, rfl⟩

theorem closewaitSegment_actions (p : Processes c d s r) (state : s.state = .closewait) :
    Actions c d (true, d.start) (false, s.closewaitSegment c d.env r) := by
  refine p.segment_actions (by simp [synchronized, state]) (handleSynFinal_actions p.input (alive_of_open (by simp [state]))) (fun plain => ?_)
  obtain ⟨start, started⟩ := acceptAck_start p plain (.inl (.inr state))
  dsimp only
  rw [start]
  obtain ⟨repeated, replied⟩ := p.repeatFinAck_actions plain.1 (.inl state) started
  exact repeated.trans (.head (.window p.input (.inr (replied.state.trans (started.1.trans state))) plain replied.unsent)
    (.single (.free p.input)))

theorem lastackSegment_actions (p : Processes c d s r) (state : s.state = .lastack) :
    Actions c d (true, d.start) (false, s.lastackSegment c d.env r) := by
  refine p.segment_actions (by simp [synchronized, state]) (handleSynFinal_actions p.input (alive_of_open (by simp [state]))) (fun plain => ?_)
  rw [(acceptAck_start p plain (.inr (.inr (.inl state)))).1]
  exact .single (.free p.input)

theorem closingSegment_actions (p : Processes c d s r) (state : s.state = .closing) :
    Actions c d (true, d.start) (false, s.closingSegment c d.env r) := by
  refine p.segment_actions (by simp [synchronized, state]) (handleSynFinal_actions p.input (alive_of_open (by simp [state]))) (fun plain => ?_)
  obtain ⟨start, started⟩ := acceptAck_start p plain (.inr (.inr (.inr state)))
  rw [start]
  exact (p.repeatFinAck_actions plain.1 (.inr (.inl state)) started).1.tail (.free p.input)

theorem timewaitSegment_actions (p : Processes c d s r) (state : s.state = .timewait) :
    Actions c d (true, d.start) (false, s.timewaitSegment c d.env r) := by
  refine p.segment_actions (by simp [synchronized, state]) (handleSynFinal_actions p.input (alive_of_open (by simp [state]))) (fun plain => ?_)
  rw [show d.start = s by rw [p.start, ackedBy, if_neg (by simp [acceptsAck, isOpen, state])]]
  exact (p.repeatFinAck_actions plain.1 (.inr (.inr state)) ⟨rfl, rfl⟩).1.tail (.free p.input)

theorem synrcvdSegment_actions (p : Processes c d s r) (state : s.state = .synrcvd) :
    Actions c d (true, d.start) (false, s.synrcvdSegment c d.env r) := by
  have start : d.start = s := by rw [p.start, ackedBy, if_neg (by simp [acceptsAck, isOpen, state])]
  have waiting : d.start.Waiting s := by
    rw [start]
    exact .refl s
  unfold synrcvdSegment
  split_ifs with rst ack syn
  · exact p.reset rst (by simpa only [resetBy, state] using rst)
  · rw [start]
    exact .head (.synrcvdAck state p.input ⟨Bool.not_eq_true _ ▸ rst, ack⟩ waiting) (.single (.free p.input))
  · rw [start]
    exact .head (.resend state p.input ⟨Bool.not_eq_true _ ▸ rst, Bool.not_eq_true _ ▸ ack, syn⟩ waiting) (.single (.free p.input))
  · rw [start]
    exact .single (.free p.input)

theorem adoptMss_actions {h : Bool} (segment : TcpSegment) (state : s.state = .listen ∨ s.state = .synsent) :
    Actions c d (h, s) (h, s.adoptMss c segment) := by
  unfold adoptMss
  split_ifs
  · exact .single (.setMss state)
  · exact .refl

theorem setMss_eq (c : Config) (s : TcpSocket) (mss : BitVec 32) :
    s.setMss c mss = { s with
      mss := (s.setMss c mss).mss, maxReceiveWindowBytes := (s.setMss c mss).maxReceiveWindowBytes
      slowStart := (s.setMss c mss).slowStart } := by
  unfold setMss initSlowStart
  split_ifs <;> rfl

theorem adoptMss_eq (c : Config) (s : TcpSocket) (segment : TcpSegment) :
    s.adoptMss c segment = { s with
      mss := (s.adoptMss c segment).mss, maxReceiveWindowBytes := (s.adoptMss c segment).maxReceiveWindowBytes
      slowStart := (s.adoptMss c segment).slowStart } := by
  unfold adoptMss
  split_ifs
  · exact setMss_eq c s _
  · rfl

theorem listenSegment_actions (p : Processes c d s r) (state : s.state = .listen) :
    Actions c d (true, d.start) (false, s.listenSegment c d.env r) := by
  have start : d.start = s := by rw [p.start, ackedBy, if_neg (by simp [acceptsAck, isOpen, state])]
  unfold listenSegment
  by_cases rst : r.segment.rst = true
  · rw [if_pos rst]
    exact p.reset rst (by simpa only [resetBy, state] using rst)
  rw [if_neg rst, start]
  have mss := adoptMss_eq c { s with receiveBuffer := s.receiveBuffer.setFirstSeqNum (r.segment.seqnum + 1) } r.segment
  have adopted := adoptMss_actions (c := c) (d := d) (h := true)
    (s := { s with receiveBuffer := s.receiveBuffer.setFirstSeqNum (r.segment.seqnum + 1) }) r.segment (.inl state)
  refine .head (.firstSeqNum state p.input) (adopted.trans (.head (.free p.input) ?_))
  dsimp only
  generalize adoptMss c { s with receiveBuffer := s.receiveBuffer.setFirstSeqNum (r.segment.seqnum + 1) } r.segment
    = s₁ at *
  have after : (s₁.freeReceivedSegment r).state = .listen ∧ (s₁.freeReceivedSegment r).history = s.history := by
    rw [mss]
    exact ⟨state, rfl⟩
  generalize s₁.freeReceivedSegment r = s₂ at *
  rcases requestSendBufferTcp_actions (c := c) (d := d) (h := false) (s := s₂) (fun full => p.updates
      (by rwa [after.2] at full) (by simpa [replies, state] using rst)) with
    ⟨s₃, requested, same, room, granted, eq⟩ | ⟨s₃, requested, same, eq⟩ <;> rw [eq]
  · exact requested.tail (.answerSyn (same.state.trans after.1) room granted)
  · exact requested

theorem synsentReset_actions (acknum : SeqNum) (alive : d.Alive s) (runs : s.history.isFull c = true → d.updates) :
    Actions c d (false, s) (false, s.synsentReset c d.env acknum) := by
  have replied := reply_actions (c := c) (d := d) (h := false)
    (fun s => { s.writeHeader c with seqnum := acknum, rst := true }) alive runs (fun _ => ⟨rfl, rfl, rfl⟩)
  exact replied.1

theorem synsentEstablish_actions (input : d.input = some r) (state : s.state = .synsent) (ack : r.segment.ack = true)
    (syn : r.segment.syn = true) (waiting : d.start.Waiting s)
    (acked : (s.handleAck c d.env r.segment.acknum).seqnumUnacked = s.seqnumNext) :
    Actions c d (false, s) (false, (s.handleAck c d.env r.segment.acknum).synsentEstablish c d.env r.segment) := by
  refine .head (.synAck state input ack syn waiting acked) ?_
  have empty : (s.synAcked c d.env r.segment).history.isFull c = false := by
    have := c.historyMaxPackets_pos
    simp [synAcked, clearHistory, TcpHistory.isFull]
    omega
  have alive : (s.synAcked c d.env r.segment).state ≠ .closed := by simp [synAcked, clearHistory, initSendWindow]
  have sent := sendAck_actions (c := c) (d := d) (h := false) (alive_of_open alive) (fun full => by simp [empty] at full)
  have established : ((s.synAcked c d.env r.segment).sendAck c d.env).2.state = .established := (sent.2 alive).state
  have same (s' : TcpSocket) (opened : s' = { s.handleAck c d.env r.segment.acknum with state := .established }.initSendWindow
      r.segment.window r.segment.seqnum r.segment.acknum) : { s' with
        receiveBuffer := s'.receiveBuffer.setFirstSeqNum (r.segment.seqnum + 1) }.clearHistory =
          s.synAcked c d.env r.segment := by
    rw [opened]
    rfl
  cases result : (s.synAcked c d.env r.segment).sendAck c d.env with
  | mk done s₁ =>
    rw [result] at sent established
    unfold synsentEstablish
    dsimp only
    rw [same _ rfl, result]
    cases done with
    | true => exact sent.1.tail (.opened established (waiting.state.symm.trans state))
    | false => exact sent.1

theorem synsentSegment_actions (p : Processes c d s r) (state : s.state = .synsent) :
    Actions c d (true, d.start) (false, s.synsentSegment c d.env r) := by
  have start : d.start = s := by rw [p.start, ackedBy, if_neg (by simp [acceptsAck, isOpen, state])]
  have runs : s.history.isFull c = true → d.updates := fun full => p.updates full (by simp [replies, state])
  unfold synsentSegment
  rw [start]
  have mss := adoptMss_eq c s r.segment
  refine (adoptMss_actions r.segment (.inr state)).trans (.head (.free p.input) ?_)
  dsimp only
  have after : s.Waiting ((s.adoptMss c r.segment).freeReceivedSegment r) ∧
      ((s.adoptMss c r.segment).freeReceivedSegment r).mempool.requests = s.mempool.requests ∧
      ((s.adoptMss c r.segment).freeReceivedSegment r).receiveBuffer = s.receiveBuffer := by
    rw [mss]
    exact ⟨⟨rfl, rfl, rfl, rfl, rfl⟩, rfl, rfl⟩
  generalize (s.adoptMss c r.segment).freeReceivedSegment r = s₁ at *
  obtain ⟨same, requests, receiveBuffer⟩ := after
  have state₁ : s₁.state = .synsent := same.state.trans state
  have waiting : d.start.Waiting s₁ := by rwa [start]
  have runs₁ : s₁.history.isFull c = true → d.updates := by rwa [same.history]
  by_cases ack : r.segment.ack = true
  · rw [if_pos ack]
    split_ifs with syn all rst reset
    · exact synsentEstablish_actions p.input state₁ ack syn waiting (by rw [all, handleAck_eq])
    · have other : (s₁.handleAck c d.env r.segment.acknum).seqnumUnacked ≠ s₁.seqnumNext := by
        intro same
        apply all
        rw [same, handleAck_eq]
      refine .head (.refuseSynAck state₁ p.input other) (synsentReset_actions _ (alive_of_open ?_) ?_)
      · rw [handleAck_eq]
        simp [state₁]
      · rwa [handleAck_eq]
    · refine .single (.abort (.inr ⟨p.aborts ?_, by rw [start]; exact receiveBuffer, waiting.nextBlock⟩))
      simp only [resetBy, state]
      exact ⟨ack, by simpa using syn, rst, by rw [reset, same.seqnumNext]⟩
    · exact .refl
    · exact synsentReset_actions _ (alive_of_open (by simp [state₁])) runs₁
  · rw [if_neg ack]
    split_ifs with syn
    · exact .single (.simultaneous state₁ p.input syn (by simpa using ack) waiting (by rw [start]; exact requests))
    · exact .refl

end TcpSocket

end IPStack
