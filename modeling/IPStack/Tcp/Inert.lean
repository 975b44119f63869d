import IPStack.Lib.Serial
import IPStack.Tcp.ReceiveQueue
import IPStack.Tcp.Steps

/-! What the handlers behind the handshake do with a segment outside the receive window. -/

namespace IPStack

open Serial Transition

/-- The part of a socket that a segment outside the window must not change. -/
structure Connection where
  state : TcpState
  finReceived : Bool
  finSeqnum : SeqNum
  seqnumUnacked : SeqNum
  sendWindow : BitVec 16
  lwseq : SeqNum
  lwack : SeqNum
  receiveBuffer : TcpReceiveBuffer
  applicationRecv : List UInt8

namespace TcpSocket

def connection (s : TcpSocket) : Connection where
  state := s.state
  finReceived := s.finReceived
  finSeqnum := s.finSeqnum
  seqnumUnacked := s.seqnumUnacked
  sendWindow := s.sendWindow
  lwseq := s.lwseq
  lwack := s.lwack
  receiveBuffer := s.receiveBuffer
  applicationRecv := s.applicationRecv

/-- The sequence number the socket acknowledges, past the peer's FIN once it is complete. -/
def nextExpected (c : Config) (s : TcpSocket) : SeqNum :=
  if s.finComplete c then s.finSeqnum + 1 else s.receiveBuffer.getAckNum c

/-- The segment does not start at the next expected number, and none of its sequence
numbers lies in the receive window. -/
def outOfWindow (c : Config) (s : TcpSocket) (r : ReceiveBuffer) : Prop :=
  r.segment.seqnum ≠ s.nextExpected c ∧
    ∀ i < r.payloadLen.toNat + r.segment.syn.toNat + r.segment.fin.toNat,
      (s.getReceiveWindow c).toNat ≤ gap (s.nextExpected c) (r.segment.seqnum + BitVec.ofNat 32 i)

instance (c : Config) (s : TcpSocket) (r : ReceiveBuffer) : Decidable (s.outOfWindow c r) :=
  inferInstanceAs (Decidable (_ ∧ _))

/-- `handleACK` accepts the number. -/
def ackAdvances (s : TcpSocket) (acknum : SeqNum) : Prop :=
  ¬ seqLeq acknum s.seqnumUnacked ∧ ¬ seqGt acknum s.seqnumNext

instance (s : TcpSocket) (acknum : SeqNum) : Decidable (s.ackAdvances acknum) := inferInstanceAs (Decidable (_ ∧ _))

/-- The receive buffer takes the segment's data. -/
def stores (c : Config) (s : TcpSocket) (r : ReceiveBuffer) : Prop :=
  0 < r.payloadLen ∧ (s.receiveBuffer.insert c r r.segment.seqnum r.payloadLen).isSome = true

instance (c : Config) (s : TcpSocket) (r : ReceiveBuffer) : Decidable (s.stores c r) := inferInstanceAs (Decidable (_ ∧ _))

/-- A window update that is not accepted, or repeats the last one while nothing was sent. -/
def keepsWindow (s : TcpSocket) (segment : TcpSegment) : Prop :=
  s.acceptsWindow segment.seqnum segment.acknum →
    s.sendWindow = segment.window ∧ s.lwseq = segment.seqnum ∧ s.lwack = segment.acknum

instance (s : TcpSocket) (segment : TcpSegment) : Decidable (s.keepsWindow segment) := inferInstanceAs (Decidable (_ → _))

/-- The segment resets nothing; and it is a SYN, or it acknowledges nothing new, brings no
FIN and no data the receive buffer would take, and updates no window. -/
def ignores (c : Config) (s : TcpSocket) (r : ReceiveBuffer) : Prop :=
  r.segment.rst = false ∧ (r.segment.syn = true ∨
    (s.acceptsAck r.segment → ¬ s.ackAdvances r.segment.acknum) ∧
    (s.takesData → ¬ s.finComplete c ∧ (r.segment.fin = true → s.finReceived = true) ∧
      ¬ (c.slidingWindowReceive = true ∧ s.stores c r)) ∧
    (s.isOpen → s.keepsWindow r.segment))

instance (c : Config) (s : TcpSocket) (r : ReceiveBuffer) : Decidable (s.ignores c r) := inferInstanceAs (Decidable (_ ∧ _))

/-- The segment's block is freed, and an ACK may be scheduled or sent. -/
def OnlyAcks (s s' : TcpSocket) : Prop :=
  s' = { s with
    history := s'.history, mempool := s'.mempool, ackTriggered := s'.ackTriggered
    trace := { s.trace with wire := s'.trace.wire, lastWindow := s'.trace.lastWindow } }

variable {c : Config} {e : Env} {s s' s'' : TcpSocket} {r : ReceiveBuffer}

/-! ### The parts of a handler -/

theorem handleAck_of_not_advances {acknum : SeqNum} (ignored : ¬ s.ackAdvances acknum) : s.handleAck c e acknum = s := by
  unfold handleAck
  unfold ackAdvances at ignored
  split_ifs with old future
  · rfl
  · rfl
  · exact absurd ⟨old, future⟩ ignored

theorem handleAck_of_advances {acknum : SeqNum} (advances : s.ackAdvances acknum) :
    (s.handleAck c e acknum).seqnumUnacked ≠ s.seqnumUnacked := by
  have moved : (s.handleAck c e acknum).seqnumUnacked = acknum := by
    unfold handleAck setSeqnumUnacked
    rw [if_neg advances.1, if_neg advances.2]
    split_ifs <;> rfl
  rw [moved]
  rintro rfl
  exact advances.1 (by simp [seqLeq])

theorem ackedBy_of_not_advances {segment : TcpSegment} (ignored : s.acceptsAck segment → ¬ s.ackAdvances segment.acknum) :
    s.ackedBy c e segment = s := by
  unfold ackedBy
  split_ifs with accepts
  · exact handleAck_of_not_advances (ignored accepts)
  · rfl

theorem ackedBy_seqnumUnacked (c : Config) (e : Env) (s : TcpSocket) (segment : TcpSegment) :
    (s.ackedBy c e segment).seqnumUnacked = s.seqnumUnacked ↔ (s.acceptsAck segment → ¬ s.ackAdvances segment.acknum) := by
  refine ⟨fun same accepts advances => ?_, fun ignored => by rw [ackedBy_of_not_advances ignored]⟩
  rw [ackedBy, if_pos accepts] at same
  exact handleAck_of_advances advances same

theorem handleFin_same (s : TcpSocket) (segment : TcpSegment) (seqnum : SeqNum) (len : BitVec 32) :
    (s.handleFin segment seqnum len).finReceived = s.finReceived ↔ (segment.fin = true → s.finReceived = true) := by
  unfold handleFin
  split_ifs with new
  · simp [new.1, new.2]
  · refine iff_of_true rfl (fun fin => ?_)
    by_contra absent
    exact new ⟨fin, by simpa using absent⟩

theorem handleFin_of_old {segment : TcpSegment} {seqnum : SeqNum} {len : BitVec 32}
    (old : segment.fin = true → s.finReceived = true) : s.handleFin segment seqnum len = s := by
  unfold handleFin
  rw [if_neg]
  rintro ⟨fin, new⟩
  simp [old fin] at new

theorem handleData_same (c : Config) (s : TcpSocket) (r : ReceiveBuffer) :
    (s.handleData c r r.segment.seqnum r.payloadLen).2.receiveBuffer = s.receiveBuffer ↔ ¬ s.stores c r := by
  unfold handleData
  by_cases payload : 0 < r.payloadLen
  · rw [if_pos payload]
    cases inserted : s.receiveBuffer.insert c r r.segment.seqnum r.payloadLen with
    | none => exact iff_of_true rfl (fun taken => by simp [stores, inserted] at taken)
    | some b =>
      refine iff_of_false (fun same => ?_) (fun refused => refused ⟨payload, by rw [inserted]; rfl⟩)
      obtain ⟨slot, permuted⟩ := TcpReceiveBuffer.insert_list inserted
      have longer := permuted.length_eq
      rw [show b = s.receiveBuffer from same] at longer
      simp at longer
  · rw [if_neg payload]
    exact iff_of_true rfl (fun taken => payload taken.1)

theorem updateSendWindow_same (s : TcpSocket) (segment : TcpSegment) :
    ((s.updateSendWindow segment segment.seqnum segment.acknum).sendWindow = s.sendWindow ∧
      (s.updateSendWindow segment segment.seqnum segment.acknum).lwseq = s.lwseq ∧
      (s.updateSendWindow segment segment.seqnum segment.acknum).lwack = s.lwack) ↔ s.keepsWindow segment := by
  unfold updateSendWindow keepsWindow
  split_ifs with accepted
  · simp [initSendWindow, accepted, eq_comm]
  · exact iff_of_true ⟨rfl, rfl, rfl⟩ (fun accepts => absurd accepts accepted)

/-! ### The handlers -/

/-- What processing a segment can change at all. -/
def Touched (s s' : TcpSocket) : Prop :=
  s' = { s with
    state := s'.state, finSeqnum := s'.finSeqnum, finReceived := s'.finReceived, receiveBuffer := s'.receiveBuffer
    sendWindow := s'.sendWindow, lwseq := s'.lwseq, lwack := s'.lwack, seqnumUnacked := s'.seqnumUnacked
    slowStart := s'.slowStart, rtt := s'.rtt, ackTriggered := s'.ackTriggered
    history := s'.history, mempool := s'.mempool
    trace := { s.trace with wire := s'.trace.wire, lastWindow := s'.trace.lastWindow } }

theorem Touched.trans (first : Touched s s') (second : Touched s' s'') : Touched s s'' := by
  unfold Touched at *
  rw [second, first]

theorem Received.touched (received : Received s s') : Touched s s' := by
  unfold Received at received
  unfold Touched
  rw [received]

theorem Replied.touched (replied : Replied s s') : Touched s s' := by
  unfold Replied at replied
  unfold Touched
  rw [replied]

/-- A handler's last steps: the block is freed, an ACK is sent, and the state may change. -/
def Quiet (s s' : TcpSocket) : Prop :=
  s' = { s with
    state := s'.state, ackTriggered := s'.ackTriggered, history := s'.history, mempool := s'.mempool
    trace := { s.trace with wire := s'.trace.wire } }

theorem Quiet.trans (first : Quiet s s') (second : Quiet s' s'') : Quiet s s'' := by
  unfold Quiet at *
  rw [second, first]

theorem Replied.quiet (replied : Replied s s') : Quiet s s' := by
  unfold Replied at replied
  unfold Quiet
  rw [replied]

theorem freeUnless_quiet (h : Bool) (s : TcpSocket) (r : ReceiveBuffer) : Quiet s (s.freeUnless h r) := by
  cases h <;> rfl

theorem sendAckNum_replied (c : Config) (e : Env) (ackNum : SeqNum) (alive : s.state ≠ .closed) :
    Replied s (s.sendAckNum c e ackNum).2 :=
  (sendAckNum_actions (c := c) (h := false)
    (d := { env := e, input := none, start := s, idle := false, updates := true, aborts := false })
    ackNum (alive_of_open alive) (fun _ => rfl)).2 alive

theorem sendAck_replied (c : Config) (e : Env) (alive : s.state ≠ .closed) : Replied s (s.sendAck c e).2 :=
  (sendAck_actions (c := c) (h := false)
    (d := { env := e, input := none, start := s, idle := false, updates := true, aborts := false })
    (alive_of_open alive) (fun _ => rfl)).2 alive

theorem repeatFinAck_quiet (c : Config) (e : Env) (segment : TcpSegment) (alive : s.state ≠ .closed) :
    Quiet s (s.repeatFinAck c e segment) ∧ (s.repeatFinAck c e segment).state = s.state := by
  unfold repeatFinAck ackFin
  split_ifs
  · have replied := sendAckNum_replied c e (s.finSeqnum + 1) alive
    exact ⟨replied.quiet, replied.state⟩
  · exact ⟨rfl, rfl⟩

/-- The window a handler has stored: in ESTABLISHED and CLOSEWAIT it takes window updates. -/
def windowTaken (s : TcpSocket) (segment : TcpSegment) : TcpSocket :=
  if s.isOpen then s.updateSendWindow segment segment.seqnum segment.acknum else s

def SameWindow (s s' : TcpSocket) : Prop := s'.sendWindow = s.sendWindow ∧ s'.lwseq = s.lwseq ∧ s'.lwack = s.lwack

theorem SameWindow.windowTaken (same : SameWindow s s') (state : s'.state = s.state) (segment : TcpSegment) :
    SameWindow (s.windowTaken segment) (s'.windowTaken segment) := by
  obtain ⟨window, seq, ack⟩ := same
  have opened : s'.isOpen ↔ s.isOpen := by rw [isOpen, isOpen, state]
  have accepts : s'.acceptsWindow segment.seqnum segment.acknum ↔ s.acceptsWindow segment.seqnum segment.acknum := by
    rw [acceptsWindow, acceptsWindow, seq, ack]
  unfold TcpSocket.windowTaken updateSendWindow
  simp only [opened, accepts]
  split_ifs
  · exact ⟨rfl, rfl, rfl⟩
  · exact ⟨window, seq, ack⟩
  · exact ⟨window, seq, ack⟩

theorem windowTaken_received (s : TcpSocket) (segment : TcpSegment) : Received s (s.windowTaken segment) := by
  unfold windowTaken
  split_ifs
  · exact updateSendWindow_received s segment _ _
  · rfl

theorem windowTaken_sameReceived (s : TcpSocket) (segment : TcpSegment) : SameReceived s (s.windowTaken segment) := by
  unfold windowTaken
  split_ifs
  · exact updateSendWindow_sameReceived s segment _ _
  · exact ⟨rfl, rfl, rfl⟩

/-- The FIN and the data a handler takes. -/
def dataTaken (c : Config) (s : TcpSocket) (r : ReceiveBuffer) : TcpSocket :=
  if s.takesData then
    ((s.handleFin r.segment r.segment.seqnum r.payloadLen).handleData c r r.segment.seqnum r.payloadLen).2
  else s

/-- What a handler behind the handshake makes of a segment without RST and SYN. -/
structure Processed (c : Config) (e : Env) (s : TcpSocket) (r : ReceiveBuffer) (s' : TcpSocket) : Prop where
  touched : Touched s s'
  acked : s'.seqnumUnacked = (s.ackedBy c e r.segment).seqnumUnacked ∧
    s'.slowStart = (s.ackedBy c e r.segment).slowStart ∧ s'.rtt = (s.ackedBy c e r.segment).rtt
  received : SameReceived (s.dataTaken c r) s'
  window : SameWindow (s.windowTaken r.segment) s'

theorem Processed.quiet (processed : Processed c e s r s') (quiet : Quiet s' s'') : Processed c e s r s'' := by
  unfold Quiet at quiet
  constructor
  case touched =>
    refine processed.touched.trans ?_
    unfold Touched
    rw [quiet]
  case acked =>
    rw [quiet]
    exact processed.acked
  case received =>
    obtain ⟨buffer, received, number⟩ := processed.received
    constructor <;> rw [quiet] <;> assumption
  case window =>
    rw [quiet]
    exact processed.window

/-- Acknowledgement, FIN, data and window, before the block is freed and the state changes. -/
theorem taken_processed (c : Config) (e : Env) (s : TcpSocket) (r : ReceiveBuffer) :
    Processed c e s r (((s.ackedBy c e r.segment).dataTaken c r).windowTaken r.segment) ∧
      (((s.ackedBy c e r.segment).dataTaken c r).windowTaken r.segment).state = s.state := by
  have acked := ackedBy_eq c e s r.segment
  set s₁ := s.ackedBy c e r.segment with def₁
  have state₁ : s₁.state = s.state := by rw [acked]
  have data : Received s₁ (s₁.dataTaken c r) := by
    unfold dataTaken
    split_ifs
    · exact (handleFin_received _ _ _ _).trans (handleData_received _ _ _ _ _)
    · rfl
  have received := data.trans (windowTaken_received (s₁.dataTaken c r) r.segment)
  have same : SameReceived (s.dataTaken c r) (s₁.dataTaken c r) := by
    have start : SameReceived s s₁ := by constructor <;> rw [acked]
    have takes : s₁.takesData ↔ s.takesData := by rw [takesData, takesData, state₁]
    unfold dataTaken
    simp only [takes]
    split_ifs
    · exact (start.handleFin _ _ _).handleData r _ _
    · exact start
  have window : SameWindow s (s₁.dataTaken c r) := by
    unfold dataTaken
    split_ifs
    · rw [handleData_eq, handleFin_eq, acked]
      exact ⟨rfl, rfl, rfl⟩
    · rw [acked]
      exact ⟨rfl, rfl, rfl⟩
  refine ⟨?_, received.state.trans state₁⟩
  constructor
  case touched =>
    have first : Touched s s₁ := by
      unfold Touched
      rw [acked]
    exact first.trans received.touched
  case acked =>
    unfold Received at received
    rw [received]
    exact ⟨rfl, rfl, rfl⟩
  case received => exact same.trans (windowTaken_sameReceived _ _)
  case window => exact window.windowTaken (data.state.trans state₁) r.segment

/-- The state changes with the last missing byte before a FIN. -/
theorem complete_quiet (c : Config) (e : Env) (alive : s.state ≠ .closed) (next : TcpState) (different : next ≠ s.state) :
    let s' := if s.finComplete c then { s.ackFin c e with state := next } else s
    Quiet s s' ∧ (s'.state = s.state ↔ ¬ s.finComplete c) := by
  intro s'
  simp only [s']
  split_ifs with complete
  · have replied := sendAckNum_replied c e (s.finSeqnum + 1) alive
    refine ⟨?_, iff_of_false different (fun absent => absent complete)⟩
    unfold Replied at replied
    unfold ackFin
    rw [replied]
    rfl
  · exact ⟨rfl, iff_of_true rfl complete⟩

/-- The end of a handler in the states that take data. -/
theorem taken_complete (alive : s.state ≠ .closed) (takes : s.takesData) (next : TcpState) (different : next ≠ s.state)
    (h : Bool) :
    let s₁ := (((s.ackedBy c e r.segment).dataTaken c r).windowTaken r.segment).freeUnless h r
    let s' := if s₁.finComplete c then { s₁.ackFin c e with state := next } else s₁
    Processed c e s r s' ∧ (s'.state = s.state ↔ ¬ (s.takesData ∧ s.completesFin c r)) := by
  intro s₁
  obtain ⟨processed, state⟩ := taken_processed c e s r
  have freed := freeUnless_quiet h (((s.ackedBy c e r.segment).dataTaken c r).windowTaken r.segment) r
  have same := freeUnless_sameReceived h (((s.ackedBy c e r.segment).dataTaken c r).windowTaken r.segment) r
  have state₁ : s₁.state = s.state := by
    rw [← state]
    cases h <;> rfl
  have complete : s₁.finComplete c ↔ s.completesFin c r := by
    refine (processed.received.trans same).finComplete.trans ?_
    unfold dataTaken
    rw [if_pos takes]
    rfl
  obtain ⟨quiet, changed⟩ := complete_quiet (s := s₁) c e (by rwa [state₁]) next (by rwa [state₁])
  refine ⟨(processed.quiet freed).quiet quiet, ?_⟩
  rw [← state₁]
  refine changed.trans (not_congr (complete.trans ?_))
  exact ⟨fun done => ⟨takes, done⟩, And.right⟩

theorem acceptAck_ackedBy (plain : r.segment.plain)
    (accepting : s.isOpen ∨ s.state = .finwait1 ∨ s.state = .lastack ∨ s.state = .closing) :
    s.acceptAck c e r.segment = s.ackedBy c e r.segment := by
  unfold acceptAck ackedBy
  by_cases ack : r.segment.ack = true
  · have accepts : s.acceptsAck r.segment := ⟨accepting, plain, ack⟩
    rw [if_pos ack, if_pos accepts]
  · have refuses : ¬ s.acceptsAck r.segment := fun accepts => ack accepts.2.2
    rw [if_neg ack, if_neg refuses]

theorem established_processed (c : Config) (e : Env) (state : s.state = .established) (plain : r.segment.plain) :
    Processed c e s r (s.establishedSegment c e r) ∧
      ((s.establishedSegment c e r).state = s.state ↔ ¬ (s.takesData ∧ s.completesFin c r)) := by
  have acked : (s.ackedBy c e r.segment).state = .established := by rw [ackedBy_eq, state]
  have takes : (s.ackedBy c e r.segment).takesData := .inl acked
  have taken : (s.ackedBy c e r.segment).dataTaken c r = (((s.ackedBy c e r.segment).handleFin r.segment r.segment.seqnum
      r.payloadLen).handleData c r r.segment.seqnum r.payloadLen).2 := if_pos takes
  have isOpen : ((s.ackedBy c e r.segment).dataTaken c r).isOpen := by
    rw [taken, isOpen, handleData_eq, handleFin_eq]
    exact .inl acked
  have windowed : ((s.ackedBy c e r.segment).dataTaken c r).windowTaken r.segment =
      ((s.ackedBy c e r.segment).dataTaken c r).updateSendWindow r.segment r.segment.seqnum r.segment.acknum := if_pos isOpen
  unfold establishedSegment
  rw [if_neg (by simp [plain.1]), if_neg (by simp [plain.2])]
  dsimp only
  rw [acceptAck_ackedBy plain (.inl (.inl state)), ← taken, ← windowed]
  obtain ⟨processed, same⟩ := taken_complete (c := c) (e := e) (r := r) (s := s) (by simp [state]) (.inl state) .closewait
    (by simp [state]) (((s.ackedBy c e r.segment).handleFin r.segment r.segment.seqnum r.payloadLen).handleData c r
      r.segment.seqnum r.payloadLen).1
  split_ifs at processed same ⊢
  · exact ⟨processed.quiet rfl, same⟩
  · exact ⟨processed, same⟩
  · exact ⟨processed.quiet rfl, same⟩
  · exact ⟨processed, same⟩

theorem finwait1_processed (c : Config) (e : Env) (state : s.state = .finwait1) (plain : r.segment.plain) :
    Processed c e s r (s.finwait1Segment c e r) ∧
      ((s.finwait1Segment c e r).state = s.state ↔ ¬ (s.takesData ∧ s.completesFin c r)) := by
  have acked : (s.ackedBy c e r.segment).state = .finwait1 := by rw [ackedBy_eq, state]
  have takes : (s.ackedBy c e r.segment).takesData := .inr (.inl acked)
  have taken : (s.ackedBy c e r.segment).dataTaken c r = (((s.ackedBy c e r.segment).handleFin r.segment r.segment.seqnum
      r.payloadLen).handleData c r r.segment.seqnum r.payloadLen).2 := if_pos takes
  have data : ((s.ackedBy c e r.segment).dataTaken c r).state = .finwait1 := by
    rw [taken, handleData_eq, handleFin_eq]
    exact acked
  have windowed : ((s.ackedBy c e r.segment).dataTaken c r).windowTaken r.segment = (s.ackedBy c e r.segment).dataTaken c r :=
    if_neg (by simp [isOpen, data])
  unfold finwait1Segment
  rw [if_neg (by simp [plain.1]), if_neg (by simp [plain.2])]
  dsimp only
  rw [acceptAck_ackedBy plain (.inr (.inl state)), ← taken, ← windowed]
  refine taken_complete (by simp [state]) (.inr (.inl state)) _ ?_ _
  split_ifs <;> simp [state]

theorem finwait2_processed (c : Config) (e : Env) (state : s.state = .finwait2) (plain : r.segment.plain) :
    Processed c e s r (s.finwait2Segment c e r) ∧
      ((s.finwait2Segment c e r).state = s.state ↔ ¬ (s.takesData ∧ s.completesFin c r)) := by
  have acked : s.ackedBy c e r.segment = s := if_neg (by simp [acceptsAck, isOpen, state])
  have takes : s.takesData := .inr (.inr state)
  have taken : s.dataTaken c r = ((s.handleFin r.segment r.segment.seqnum r.payloadLen).handleData c r r.segment.seqnum
      r.payloadLen).2 := if_pos takes
  have data : (s.dataTaken c r).state = .finwait2 := by
    rw [taken, handleData_eq, handleFin_eq]
    exact state
  have windowed : (s.dataTaken c r).windowTaken r.segment = s.dataTaken c r := if_neg (by simp [isOpen, data])
  have complete := taken_complete (c := c) (e := e) (r := r) (s := s) (by simp [state]) (.inr (.inr state)) .timewait
    (by simp [state]) ((s.handleFin r.segment r.segment.seqnum r.payloadLen).handleData c r r.segment.seqnum r.payloadLen).1
  rw [acked, windowed] at complete
  unfold finwait2Segment
  rw [if_neg (by simp [plain.1]), if_neg (by simp [plain.2])]
  dsimp only
  rw [← taken]
  exact complete

theorem Quiet.windowTaken (quiet : Quiet s s') (state : s'.state = s.state) (segment : TcpSegment) :
    Quiet (s.windowTaken segment) (s'.windowTaken segment) ∧ (s'.windowTaken segment).state = s'.state := by
  unfold Quiet at quiet
  have opened : s'.isOpen ↔ s.isOpen := by rw [isOpen, isOpen, state]
  have accepts : s'.acceptsWindow segment.seqnum segment.acknum ↔ s.acceptsWindow segment.seqnum segment.acknum := by
    rw [acceptsWindow, acceptsWindow, quiet]
  unfold TcpSocket.windowTaken updateSendWindow
  simp only [opened, accepts]
  rw [quiet]
  split_ifs <;> exact ⟨rfl, rfl⟩

/-- The handlers that do not look at data: acknowledgement, a repeated answer to a FIN, and
in CLOSEWAIT the window. -/
theorem noData_processed (c : Config) (e : Env) (noData : ¬ s.takesData) {s₁ : TcpSocket}
    (answered : Quiet (s.ackedBy c e r.segment) s₁ ∧ s₁.state = s.state) :
    Processed c e s r ((s₁.windowTaken r.segment).freeReceivedSegment r) ∧
      (((s₁.windowTaken r.segment).freeReceivedSegment r).state = s.state ↔ ¬ (s.takesData ∧ s.completesFin c r)) := by
  have acked : (s.ackedBy c e r.segment).state = s.state := by rw [ackedBy_eq]
  have none : (s.ackedBy c e r.segment).dataTaken c r = s.ackedBy c e r.segment :=
    if_neg (by rwa [takesData, acked])
  obtain ⟨taken, -⟩ := taken_processed c e s r
  rw [none] at taken
  obtain ⟨windowed, same⟩ := answered.1.windowTaken (answered.2.trans acked.symm) r.segment
  refine ⟨(taken.quiet windowed).quiet rfl, iff_of_true (same.trans answered.2) (fun data => noData data.1)⟩

theorem closewait_processed (c : Config) (e : Env) (state : s.state = .closewait) (plain : r.segment.plain) :
    Processed c e s r (s.closewaitSegment c e r) ∧
      ((s.closewaitSegment c e r).state = s.state ↔ ¬ (s.takesData ∧ s.completesFin c r)) := by
  have acked : (s.ackedBy c e r.segment).state = .closewait := by rw [ackedBy_eq, state]
  obtain ⟨quiet, same⟩ := repeatFinAck_quiet c e r.segment (s := s.ackedBy c e r.segment) (by simp [acked])
  have answered := noData_processed c e (by simp [takesData, state]) ⟨quiet, same.trans (acked.trans state.symm)⟩
  have windowed : ((s.ackedBy c e r.segment).repeatFinAck c e r.segment).windowTaken r.segment =
      ((s.ackedBy c e r.segment).repeatFinAck c e r.segment).updateSendWindow r.segment r.segment.seqnum r.segment.acknum :=
    if_pos (.inr (same.trans acked))
  rw [windowed] at answered
  unfold closewaitSegment
  rw [if_neg (by simp [plain.1]), if_neg (by simp [plain.2]), acceptAck_ackedBy plain (.inl (.inr state))]
  exact answered

theorem lastack_processed (c : Config) (e : Env) (state : s.state = .lastack) (plain : r.segment.plain) :
    Processed c e s r (s.lastackSegment c e r) ∧
      ((s.lastackSegment c e r).state = s.state ↔ ¬ (s.takesData ∧ s.completesFin c r)) := by
  have acked : (s.ackedBy c e r.segment).state = .lastack := by rw [ackedBy_eq, state]
  have answered := noData_processed c e (by simp [takesData, state])
    (⟨rfl, acked.trans state.symm⟩ : Quiet (s.ackedBy c e r.segment) (s.ackedBy c e r.segment) ∧ _)
  have windowed : (s.ackedBy c e r.segment).windowTaken r.segment = s.ackedBy c e r.segment := if_neg (by simp [isOpen, acked])
  rw [windowed] at answered
  unfold lastackSegment
  rw [if_neg (by simp [plain.1]), if_neg (by simp [plain.2]), acceptAck_ackedBy plain (.inr (.inr (.inl state)))]
  exact answered

theorem closing_processed (c : Config) (e : Env) (state : s.state = .closing) (plain : r.segment.plain) :
    Processed c e s r (s.closingSegment c e r) ∧
      ((s.closingSegment c e r).state = s.state ↔ ¬ (s.takesData ∧ s.completesFin c r)) := by
  have acked : (s.ackedBy c e r.segment).state = .closing := by rw [ackedBy_eq, state]
  obtain ⟨quiet, same⟩ := repeatFinAck_quiet c e r.segment (s := s.ackedBy c e r.segment) (by simp [acked])
  have answered := noData_processed c e (by simp [takesData, state]) ⟨quiet, same.trans (acked.trans state.symm)⟩
  have windowed : ((s.ackedBy c e r.segment).repeatFinAck c e r.segment).windowTaken r.segment =
      (s.ackedBy c e r.segment).repeatFinAck c e r.segment := if_neg (by simp [isOpen, same.trans acked])
  rw [windowed] at answered
  unfold closingSegment
  rw [if_neg (by simp [plain.1]), if_neg (by simp [plain.2]), acceptAck_ackedBy plain (.inr (.inr (.inr state)))]
  exact answered

theorem timewait_processed (c : Config) (e : Env) (state : s.state = .timewait) (plain : r.segment.plain) :
    Processed c e s r (s.timewaitSegment c e r) ∧
      ((s.timewaitSegment c e r).state = s.state ↔ ¬ (s.takesData ∧ s.completesFin c r)) := by
  have acked : s.ackedBy c e r.segment = s := if_neg (by simp [acceptsAck, isOpen, state])
  obtain ⟨quiet, same⟩ := repeatFinAck_quiet c e r.segment (s := s) (by simp [state])
  rw [← acked] at quiet
  have answered := noData_processed c e (by simp [takesData, state]) ⟨quiet, by rwa [acked]⟩
  rw [acked] at answered
  have windowed : (s.repeatFinAck c e r.segment).windowTaken r.segment = s.repeatFinAck c e r.segment :=
    if_neg (by simp [isOpen, same.trans state])
  rw [windowed] at answered
  unfold timewaitSegment
  rw [if_neg (by simp [plain.1]), if_neg (by simp [plain.2])]
  exact answered

theorem input_processed (c : Config) (e : Env) (behind : s.synchronized) (plain : r.segment.plain) :
    Processed c e s r (s.input c e (some r)) ∧
      ((s.input c e (some r)).state = s.state ↔ ¬ (s.takesData ∧ s.completesFin c r)) := by
  obtain ⟨closed, listen, synsent, synrcvd⟩ := behind
  cases state : s.state with
  | closed => exact absurd state closed
  | listen => exact absurd state listen
  | synsent => exact absurd state synsent
  | synrcvd => exact absurd state synrcvd
  | established => simpa only [input, established, state] using established_processed c e state plain
  | finwait1 => simpa only [input, finwait1, state] using finwait1_processed c e state plain
  | finwait2 => simpa only [input, finwait2, state] using finwait2_processed c e state plain
  | closewait => simpa only [input, closewait, state] using closewait_processed c e state plain
  | lastack => simpa only [input, lastack, state] using lastack_processed c e state plain
  | closing => simpa only [input, closing, state] using closing_processed c e state plain
  | timewait => simpa only [input, timewait, state] using timewait_processed c e state plain

theorem input_rst (c : Config) (e : Env) (behind : s.synchronized) (rst : r.segment.rst = true) :
    s.input c e (some r) = s.handleRst r := by
  obtain ⟨closed, listen, synsent, synrcvd⟩ := behind
  unfold input
  cases state : s.state with
  | closed => exact absurd state closed
  | listen => exact absurd state listen
  | synsent => exact absurd state synsent
  | synrcvd => exact absurd state synrcvd
  | established => exact if_pos rst
  | finwait1 => exact if_pos rst
  | finwait2 => exact if_pos rst
  | closewait => exact if_pos rst
  | lastack => exact if_pos rst
  | closing => exact if_pos rst
  | timewait => exact if_pos rst

theorem input_syn_eq (c : Config) (e : Env) (behind : s.synchronized) (noRst : r.segment.rst = false)
    (syn : r.segment.syn = true) :
    s.input c e (some r) = if s.takesData then s.handleSyn c e r else s.handleSynFinal c e r := by
  have unreset : ¬ r.segment.rst = true := by simp [noRst]
  obtain ⟨closed, listen, synsent, synrcvd⟩ := behind
  unfold input
  cases state : s.state with
  | closed => exact absurd state closed
  | listen => exact absurd state listen
  | synsent => exact absurd state synsent
  | synrcvd => exact absurd state synrcvd
  | established =>
    rw [if_pos (.inl state)]
    exact (if_neg unreset).trans (if_pos syn)
  | finwait1 =>
    rw [if_pos (.inr (.inl state))]
    exact (if_neg unreset).trans (if_pos syn)
  | finwait2 =>
    rw [if_pos (.inr (.inr state))]
    exact (if_neg unreset).trans (if_pos syn)
  | closewait | lastack | closing | timewait =>
    rw [if_neg (by simp [takesData, state])]
    exact (if_neg unreset).trans (if_pos syn)

/-- A SYN behind the handshake is only answered. -/
theorem input_syn (c : Config) (e : Env) (behind : s.synchronized) (noRst : r.segment.rst = false)
    (syn : r.segment.syn = true) : Replied (s.freeReceivedSegment r) (s.input c e (some r)) := by
  have alive : (s.freeReceivedSegment r).state ≠ .closed := behind.1
  rw [input_syn_eq c e behind noRst syn]
  split
  · exact sendAck_replied c e alive
  · exact sendAckNum_replied c e _ alive

/-- Outside the window, the build with a single segment has no place for data. -/
theorem stores_outside (outside : s.outOfWindow c r) (incomplete : ¬ s.finComplete c) (stores : s.stores c r) :
    c.slidingWindowReceive = true ∧ s.stores c r := by
  refine ⟨?_, stores⟩
  by_contra single
  rw [Bool.not_eq_true] at single
  obtain ⟨b, inserted⟩ := Option.isSome_iff_exists.mp stores.2
  unfold TcpReceiveBuffer.insert at inserted
  rw [if_neg (by simp [single])] at inserted
  obtain ⟨first, empty, -⟩ := TcpReceiveBuffer.insertSingle_eq inserted
  refine outside.1 ?_
  rw [nextExpected, if_neg incomplete, TcpReceiveBuffer.getAckNum, if_neg (by simp [single]), empty]
  exact first

/-- Nothing is taken from a segment without a new FIN and without data to store. -/
theorem nothing_taken (old : r.segment.fin = true → s.finReceived = true) (unstored : ¬ s.stores c r) :
    SameReceived s (s.dataTaken c r) ∧ (s.completesFin c r ↔ s.finComplete c) := by
  have same : SameReceived s (s.handleData c r r.segment.seqnum r.payloadLen).2 := by
    refine ⟨(handleData_same c s r).mpr unstored, ?_, ?_⟩ <;> rw [handleData_eq]
  unfold dataTaken completesFin
  rw [handleFin_of_old old]
  refine ⟨?_, same.finComplete⟩
  split_ifs
  · exact same
  · exact ⟨rfl, rfl, rfl⟩

/-- What the receive buffer and the FIN tell about a segment that was processed. -/
theorem taken_of_same (takes : s.takesData) (same : SameReceived s (s.dataTaken c r)) :
    (r.segment.fin = true → s.finReceived = true) ∧ ¬ s.stores c r := by
  unfold dataTaken at same
  rw [if_pos takes] at same
  obtain ⟨buffer, received, -⟩ := same
  rw [handleData_eq] at received
  have old := (handleFin_same s _ _ _).mp received
  rw [handleFin_of_old old] at buffer
  exact ⟨old, (handleData_same c s r).mp buffer⟩

theorem plain_inert (behind : s.synchronized) (plain : r.segment.plain) (outside : s.outOfWindow c r) :
    ((s.input c e (some r)).connection = s.connection ↔ s.ignores c r) ∧
      (s.ignores c r → OnlyAcks s (s.input c e (some r))) := by
  obtain ⟨processed, state⟩ := input_processed c e behind plain
  generalize s.input c e (some r) = s' at processed state
  have acked : s'.seqnumUnacked = s.seqnumUnacked ↔ (s.acceptsAck r.segment → ¬ s.ackAdvances r.segment.acknum) := by
    rw [processed.acked.1]
    exact ackedBy_seqnumUnacked c e s r.segment
  have window : s.isOpen → (SameWindow s s' ↔ s.keepsWindow r.segment) := by
    intro isOpen
    have taken := processed.window
    unfold windowTaken at taken
    rw [if_pos isOpen] at taken
    rw [← updateSendWindow_same s r.segment, SameWindow, taken.1, taken.2.1, taken.2.2]
  have ignored : s.ignores c r → OnlyAcks s s' ∧ s'.connection = s.connection := by
    rintro ⟨-, syn | ⟨ack, data, keeps⟩⟩
    · simp [plain.2] at syn
    have received : SameReceived s s' ∧ s'.state = s.state := by
      by_cases takes : s.takesData
      · obtain ⟨incomplete, old, unstored⟩ := data takes
        have nothing := nothing_taken (c := c) old (fun stores => unstored (stores_outside outside incomplete stores))
        exact ⟨nothing.1.trans processed.received, state.mpr (fun completes => incomplete (nothing.2.mp completes.2))⟩
      · have taken := processed.received
        unfold dataTaken at taken
        rw [if_neg takes] at taken
        exact ⟨taken, state.mpr (fun completes => takes completes.1)⟩
    have windows : SameWindow s s' := by
      by_cases isOpen : s.isOpen
      · exact (window isOpen).mpr (keeps isOpen)
      · have taken := processed.window
        unfold windowTaken at taken
        rwa [if_neg isOpen] at taken
    have links := processed.acked
    rw [ackedBy_of_not_advances ack] at links
    obtain ⟨⟨buffer, fin, number⟩, same⟩ := received
    obtain ⟨send, seq, lwack⟩ := windows
    obtain ⟨unacked, slow, rtt⟩ := links
    have frame := processed.touched
    unfold Touched at frame
    rw [buffer, fin, number, same, send, seq, lwack, unacked, slow, rtt] at frame
    refine ⟨frame, ?_⟩
    rw [frame]
    rfl
  refine ⟨⟨fun same => ?_, fun ignores => (ignored ignores).2⟩, fun ignores => (ignored ignores).1⟩
  simp only [connection, Connection.mk.injEq] at same
  obtain ⟨stays, fin, number, unacked, send, seq, lwack, buffer, -⟩ := same
  refine ⟨plain.1, .inr ⟨acked.mp unacked, fun takes => ?_, fun isOpen => (window isOpen).mp ⟨send, seq, lwack⟩⟩⟩
  have taken := processed.received
  have same : SameReceived s (s.dataTaken c r) :=
    ⟨taken.1.symm.trans buffer, taken.2.symm.trans fin, taken.3.symm.trans number⟩
  obtain ⟨old, unstored⟩ := taken_of_same takes same
  refine ⟨fun complete => state.mp stays ⟨takes, (nothing_taken old unstored).2.mpr complete⟩, old, fun stores => unstored stores.2⟩

/-- A segment outside the receive window changes nothing but acknowledgements to be sent
exactly if the socket ignores it: without RST it is a SYN, or none of its parts is taken. -/
theorem outOfWindow_inert (behind : s.synchronized) (outside : s.outOfWindow c r) :
    ((s.input c e (some r)).connection = s.connection ↔ s.ignores c r) ∧
      (s.ignores c r → OnlyAcks s (s.input c e (some r))) := by
  cases rst : r.segment.rst with
  | true =>
    have closed : (s.input c e (some r)).connection.state = .closed := by
      rw [input_rst c e behind rst]
      rfl
    refine ⟨iff_of_false (fun same => ?_) (fun ignores => by simp [ignores.1] at rst), fun ignores => by simp [ignores.1] at rst⟩
    rw [same] at closed
    exact behind.1 closed
  | false =>
    cases syn : r.segment.syn with
    | true =>
      have replied := input_syn c e behind rst syn
      unfold Replied at replied
      refine ⟨iff_of_true ?_ ⟨rst, .inl syn⟩, fun _ => ?_⟩
      · rw [replied]
        rfl
      · unfold OnlyAcks
        rw [replied]
        rfl
    | false => exact plain_inert behind ⟨rst, syn⟩ outside

/-- A reset with a sequence number far ahead of the window. -/
def blindReset : ReceiveBuffer := ⟨99, 20, { Sample.segment 0x40000000 0 0 [] with rst := true }⟩

theorem blindReset_closes : ∃ m, Reach (Machine.step Sample.config) (fun _ _ => True) Sample.machine m ∧
    m.sock.synchronized ∧ m.sock.outOfWindow Sample.config blindReset ∧
    (m.sock.input Sample.config Sample.env (some blindReset)).connection ≠ m.sock.connection := by
  refine ⟨Sample.run Sample.opening, Reach.start.foldl (.of_forall (fun _ _ => trivial) _ _), by decide +kernel,
    by decide +kernel, fun same => ?_⟩
  have closed : ((Sample.run Sample.opening).sock.input Sample.config Sample.env (some blindReset)).connection.state = .closed := by
    decide +kernel
  have opened : (Sample.run Sample.opening).sock.connection.state = .established := by decide +kernel
  rw [same, opened] at closed
  exact absurd closed (by decide)

/-- Two bytes from before the start of the peer's stream. -/
def oldData : ReceiveBuffer := ⟨99, 22, Sample.segment 900 1 1000 [1, 2]⟩

theorem outOfWindow_inert_oldData :
    ((Sample.run Sample.opening).sock.input Sample.config Sample.env (some oldData)).connection =
      (Sample.run Sample.opening).sock.connection :=
  (outOfWindow_inert (by decide +kernel) (by decide +kernel)).1.mpr (by decide +kernel)

end TcpSocket

end IPStack
