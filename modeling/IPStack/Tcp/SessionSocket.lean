import IPStack.Tcp.CallFrames
import IPStack.Tcp.SessionBuffer

/-! Two sockets that no input can tell apart. A member that a connection writes before it reads
counts from then on only. -/

namespace IPStack

/-- A measurement that is not active has no number and no time. -/
def RttEstimation.running (t : RttEstimation) : RttEstimation :=
  { t with
    rttSeqnum := if t.rrtActive then t.rttSeqnum else 0
    rrtTime := if t.rrtActive then t.rrtTime else 0 }

/-- Which of the members that a connection writes in its course have been written. -/
structure Written where
  /-- The read position of the receive buffer. -/
  position : Bool
  /-- The numbers of the last window update. -/
  window : Bool
  /-- What `receive` has copied. -/
  received : Bool

/-- What `v` says of the read position and of `receive`, `w` says too. -/
structure Written.Within (v w : Written) : Prop where
  position : v.position = true → w.position = true
  received : v.received = true → w.received = true

theorem Written.Within.refl (w : Written) : w.Within w := ⟨id, id⟩

theorem Written.Within.trans {u v w : Written} (first : u.Within v) (second : v.Within w) : u.Within w :=
  ⟨second.position ∘ first.position, second.received ∘ first.received⟩

namespace TcpSocket

/-- The number of the peer's FIN is known, or counts as known in the state. -/
def finNumbered (s : TcpSocket) : Prop :=
  s.finReceived = true ∨ s.state = .closewait ∨ s.state = .lastack ∨ s.state = .closing ∨ s.state = .timewait

/-- The sockets agree in every member that can still be read. -/
structure Alike (c : Config) (w : Written) (s s' : TcpSocket) : Prop where
  state : s'.state = s.state
  receiving : s'.receiving = s.receiving
  received : w.received = true → s'.applicationRecv = s.applicationRecv ∧ s'.applicationRecvLen = s.applicationRecvLen
  receiveBuffer : s'.receiveBuffer.unplacedFrom w.position = s.receiveBuffer.unplacedFrom w.position
  windowMss : c.mssOption = true → s'.maxReceiveWindowMss = s.maxReceiveWindowMss
  windowBytes : s'.maxReceiveWindowBytes = s.maxReceiveWindowBytes
  seqnumUnacked : s'.seqnumUnacked = s.seqnumUnacked
  seqnumNext : s'.seqnumNext = s.seqnumNext
  history : s'.history = s.history
  sendWindow : s'.sendWindow = s.sendWindow
  window : w.window = true → s'.lwack = s.lwack ∧ s'.lwseq = s.lwseq
  mempool : s'.mempool = s.mempool
  packetbuffer : s'.packetbuffer = s.packetbuffer
  finReceived : s'.finReceived = s.finReceived
  finSeqnum : s.finNumbered → s'.finSeqnum = s.finSeqnum
  ackTriggered : s'.ackTriggered = s.ackTriggered
  ports : s'.dport = s.dport ∧ s'.sport = s.sport
  mss : s'.mss = s.mss
  buffer : s.applicationBuflen ≠ 0 → s'.applicationBuf = s.applicationBuf
  buflen : s'.applicationBuflen = s.applicationBuflen
  waiting : s'.waiting = s.waiting
  slowStart : c.slowStart = true → s'.slowStart = s.slowStart ∧ s'.retransmitting = s.retransmitting
  rtt : c.rttEstimation = true → s'.rtt.running = s.rtt.running
  trace : s'.trace = s.trace

end TcpSocket

variable {c : Config} {e : Env} {w : Written} {s s' : TcpSocket}

/-! ### The round trip time -/

namespace RttEstimation

variable {t t' : RttEstimation}

theorem running_eq (same : t'.running = t.running) : t'.rrtActive = t.rrtActive ∧ t'.srtt = t.srtt ∧
    t'.rttVar = t.rttVar ∧ t'.rto = t.rto ∧ (t.rrtActive = true → t' = t) := by
  obtain ⟨seqnum, time, active, srtt, rttVar, rto⟩ := t
  obtain ⟨seqnum', time', active', srtt', rttVar', rto'⟩ := t'
  simp only [running, mk.injEq] at same ⊢
  obtain ⟨number, at', rfl, rfl, rfl, rfl⟩ := same
  refine ⟨rfl, rfl, rfl, rfl, ?_⟩
  rintro rfl
  exact ⟨number, at', rfl, rfl, rfl, rfl⟩

theorem running_of_idle (idle : t.rrtActive = false) (idle' : t'.rrtActive = false) (srtt : t'.srtt = t.srtt)
    (rttVar : t'.rttVar = t.rttVar) (rto : t'.rto = t.rto) : t'.running = t.running := by
  simp [running, idle, idle', srtt, rttVar, rto]

theorem running_start (same : t'.running = t.running) (seqnumNext : SeqNum) (now : BitVec 64) :
    (t'.start seqnumNext now).running = (t.start seqnumNext now).running := by
  obtain ⟨active, srtt, rttVar, rto, _⟩ := running_eq same
  unfold start
  rw [active]
  split_ifs
  · exact same
  · simp [running, srtt, rttVar, rto]

theorem running_abort (same : t'.running = t.running) : (t'.abort c).running = (t.abort c).running := by
  obtain ⟨-, srtt, rttVar, rto, -⟩ := running_eq same
  unfold abort
  split_ifs
  · exact running_of_idle rfl rfl srtt rttVar (by simp only [backoff, rto])
  · exact running_of_idle rfl rfl srtt rttVar rto

theorem running_update (same : t'.running = t.running) (acknum : SeqNum) (now : BitVec 64) :
    (t'.update c acknum now).running = (t.update c acknum now).running := by
  obtain ⟨active, -, -, -, whole⟩ := running_eq same
  cases active' : t.rrtActive with
  | true => rw [whole active']
  | false =>
    rw [active'] at active
    simp only [update, active', active, Bool.false_eq_true, false_and, if_false]
    exact same

end RttEstimation

namespace TcpSocket

/-- Two runs take the same branch. -/
theorem same_branch {α : Type*} {P : α → α → Prop} {p p' : Prop} [Decidable p] [Decidable p'] {t t' u u' : α}
    (same : p' ↔ p) (yes : p → P t t') (no : ¬p → P u u') : P (if p then t else u) (if p' then t' else u') := by
  by_cases holds : p
  · rw [if_pos holds, if_pos (same.mpr holds)]
    exact yes holds
  · rw [if_neg holds, if_neg (holds ∘ same.mp)]
    exact no holds

/-- Two calls give the same answer and leave sockets that agree. -/
def Answers (c : Config) (w : Written) {α : Type*} (p p' : α × TcpSocket) : Prop :=
  ∃ answer t t', p = (answer, t) ∧ p' = (answer, t') ∧ Alike c w t t'

theorem Answers.after {α : Type*} {p p' : α × TcpSocket} (answers : Answers c w p p') : Alike c w p.2 p'.2 := by
  obtain ⟨answer, t, t', rfl, rfl, after⟩ := answers
  exact after

theorem Alike.answers {α : Type*} {t t' : TcpSocket} (alike : Alike c w t t') (answer : α) :
    Answers c w (answer, t) (answer, t') := ⟨answer, t, t', rfl, rfl, alike⟩

namespace Alike

theorem ite {p p' : Prop} [Decidable p] [Decidable p'] {t t' u u' : TcpSocket} (same : p' ↔ p) (yes : p → Alike c w t t')
    (no : ¬p → Alike c w u u') : Alike c w (if p then t else u) (if p' then t' else u') := same_branch same yes no

/-! ### Memory -/

theorem freeReceivedSegment (alike : Alike c w s s') (r : ReceiveBuffer) :
    Alike c w (s.freeReceivedSegment r) (s'.freeReceivedSegment r) :=
  { alike with mempool := by simp only [TcpSocket.freeReceivedSegment, alike.mempool] }

theorem requestSendBuffer (alike : Alike c w s s') (e : Env) :
    Answers c w (s.requestSendBuffer e) (s'.requestSendBuffer e) := by
  unfold TcpSocket.requestSendBuffer
  rw [alike.mempool]
  dsimp only
  cases e.alloc s.mempool.requests with
  | ok => exact ⟨_, _, _, rfl, rfl, { alike with mempool := rfl }⟩
  | noMemory => exact ⟨_, _, _, rfl, rfl, { alike with mempool := rfl }⟩
  | invalid => exact ⟨_, _, _, rfl, rfl, { alike with mempool := rfl }⟩

theorem addToReceiveQueue (alike : Alike c w s s') (e : Env) (segment : TcpSegment) (size : BitVec 16) :
    Alike c w (s.addToReceiveQueue c e segment size) (s'.addToReceiveQueue c e segment size) := by
  unfold TcpSocket.addToReceiveQueue
  rw [alike.mempool, alike.packetbuffer]
  dsimp only
  split_ifs
  · exact alike
  · cases e.alloc s.mempool.requests with
    | ok => exact { alike with mempool := rfl, packetbuffer := rfl }
    | noMemory => exact { alike with mempool := rfl, packetbuffer := rfl }
    | invalid => exact { alike with mempool := rfl, packetbuffer := rfl }

theorem clearHistory (alike : Alike c w s s') : Alike c w s.clearHistory s'.clearHistory :=
  { alike with
    history := rfl
    mempool := by simp only [TcpSocket.clearHistory, alike.mempool, alike.history] }

/-! ### Life cycle -/

theorem setMss (alike : Alike c w s s') (woven : c.mssOption = true) (mss : BitVec 32) :
    Alike c w (s.setMss c mss) (s'.setMss c mss) := by
  unfold TcpSocket.setMss initSlowStart
  rw [alike.windowMss woven]
  dsimp only
  by_cases slow : c.slowStart = true
  · rw [if_pos slow, if_pos slow]
    exact { alike with
      windowMss := fun _ => rfl, windowBytes := rfl, mss := rfl, slowStart := fun _ => ⟨rfl, (alike.slowStart slow).2⟩ }
  · rw [if_neg slow, if_neg slow]
    exact { alike with windowMss := fun _ => rfl, windowBytes := rfl, mss := rfl }

theorem abort (alike : Alike c w s s') : Alike c w s.abort s'.abort :=
  { alike with
    state := rfl, receiving := rfl, windowMss := fun _ => rfl, windowBytes := rfl, history := rfl
    mempool := by
      simp only [TcpSocket.abort, resetSocketState, TcpSocket.clearHistory, alike.mempool, alike.history, alike.packetbuffer]
    packetbuffer := rfl, finReceived := rfl
    finSeqnum := by rintro (known | known | known | known | known) <;> cases known
    ackTriggered := rfl, mss := rfl, buffer := fun some => absurd rfl some, buflen := rfl, waiting := rfl
    trace := by simp only [TcpSocket.abort, resetSocketState, TcpSocket.clearHistory, alike.trace] }

/-! ### Windows and timeouts -/

theorem getRto (alike : Alike c w s s') : s'.getRto c = s.getRto c := by
  unfold TcpSocket.getRto
  split_ifs with woven
  · exact (RttEstimation.running_eq (alike.rtt woven)).2.2.2.1
  · rfl

theorem getReceiveWindow (alike : Alike c w s s') : s'.getReceiveWindow c = s.getReceiveWindow c := by
  unfold TcpSocket.getReceiveWindow
  rw [alike.state, alike.windowBytes, TcpReceiveBuffer.same_getRecvBytes alike.receiveBuffer]

theorem getSendWindow (alike : Alike c w s s') : s'.getSendWindow c = s.getSendWindow c := by
  unfold TcpSocket.getSendWindow
  rw [alike.sendWindow]
  by_cases slow : c.slowStart = true
  · obtain ⟨window, retransmitting⟩ := alike.slowStart slow
    rw [window, retransmitting]
  · rw [if_neg slow, if_neg slow]

theorem lowerSendWindow (alike : Alike c w s s') (subtract : BitVec 16) :
    Alike c w (s.lowerSendWindow c subtract) (s'.lowerSendWindow c subtract) := by
  unfold TcpSocket.lowerSendWindow
  rw [alike.sendWindow]
  by_cases slow : c.slowStart = true
  · rw [if_pos slow, if_pos slow]
    obtain ⟨same, retransmitting⟩ := alike.slowStart slow
    dsimp only
    rw [same]
    exact { alike with sendWindow := rfl, slowStart := fun _ => ⟨rfl, retransmitting⟩ }
  · rw [if_neg slow, if_neg slow]
    exact { alike with sendWindow := rfl }

theorem initSendWindow (alike : Alike c w s s') (window : BitVec 16) (seqnum acknum : SeqNum) :
    Alike c { w with window := true } (s.initSendWindow window seqnum acknum) (s'.initSendWindow window seqnum acknum) :=
  { alike with
    sendWindow := rfl, window := fun _ => ⟨rfl, rfl⟩
    trace := by simp only [TcpSocket.initSendWindow, alike.trace] }

theorem updateSendWindow (alike : Alike c w s s') (written : w.window = true) (segment : TcpSegment) (seqnum acknum : SeqNum) :
    Alike c w (s.updateSendWindow segment seqnum acknum) (s'.updateSendWindow segment seqnum acknum) := by
  obtain ⟨lwack, lwseq⟩ := alike.window written
  have accepts : s'.acceptsWindow seqnum acknum ↔ s.acceptsWindow seqnum acknum := by
    unfold acceptsWindow
    rw [lwack, lwseq]
  refine .ite accepts (fun _ => ?_) (fun _ => alike)
  exact { alike.initSendWindow segment.window seqnum acknum with window := fun _ => ⟨rfl, rfl⟩ }

/-! ### Sending -/

theorem writeHeader (alike : Alike c w s s') : s'.writeHeader c = s.writeHeader c := by
  unfold TcpSocket.writeHeader
  rw [alike.ports.1, alike.ports.2, alike.seqnumNext, alike.getReceiveWindow]

theorem writeHeaderWithAck (alike : Alike c w s s') (ack : SeqNum) :
    s'.writeHeaderWithAck c ack = s.writeHeaderWithAck c ack := by
  unfold TcpSocket.writeHeaderWithAck
  rw [alike.writeHeader]

theorem setSyn (alike : Alike c w s s') (segment : TcpSegment) : s'.setSyn c segment = s.setSyn c segment := by
  unfold TcpSocket.setSyn
  rw [alike.mss]

theorem send (alike : Alike c w s s') (b : SendBuffer) :
    (s'.send b).1 = (s.send b).1 ∧ Alike c w (s.send b).2 (s'.send b).2 := by
  unfold TcpSocket.send
  rw [alike.trace]
  cases b.state <;> exact ⟨rfl, { alike with trace := rfl }⟩

theorem historyAdd (alike : Alike c w s s') (e : Env) (b : SendBuffer) (msec : BitVec 32) :
    Alike c w (s.historyAdd c e b msec) (s'.historyAdd c e b msec) :=
  { alike with history := by simp only [TcpSocket.historyAdd, alike.history] }

theorem transmit (alike : Alike c w s s') (e : Env) (block : Nat) (segment : TcpSegment) (msec : BitVec 32) :
    Alike c w (s.transmit c e block segment msec) (s'.transmit c e block segment msec) := by
  obtain ⟨sent, after⟩ := alike.send ⟨block, .writing, segment⟩
  unfold TcpSocket.transmit
  dsimp only
  rw [sent]
  exact after.historyAdd e _ msec

/-! ### Retransmission -/

/-- The measurement is given up, and the flag is set. -/
theorem flagRetransmitting (alike : Alike c w s s') :
    Alike c w { (if c.rttEstimation then { s with rtt := s.rtt.abort c } else s) with retransmitting := true }
      { (if c.rttEstimation then { s' with rtt := s'.rtt.abort c } else s') with retransmitting := true } := by
  by_cases woven : c.rttEstimation = true
  · rw [if_pos woven, if_pos woven]
    exact { alike with
      slowStart := fun slow => ⟨(alike.slowStart slow).1, rfl⟩
      rtt := fun _ => RttEstimation.running_abort (alike.rtt woven) }
  · rw [if_neg woven, if_neg woven]
    exact { alike with slowStart := fun slow => ⟨(alike.slowStart slow).1, rfl⟩ }

theorem setRetransmitting (alike : Alike c w s s') : Alike c w (s.setRetransmitting c) (s'.setRetransmitting c) := by
  unfold TcpSocket.setRetransmitting
  apply flagRetransmitting
  refine .ite (and_congr_right fun slow => by rw [(alike.slowStart slow).2]) (fun ⟨slow, _⟩ => ?_) (fun _ => alike)
  rw [alike.mss, (alike.slowStart slow).1]
  exact { alike with mss := rfl, slowStart := fun _ => ⟨rfl, (alike.slowStart slow).2⟩ }

theorem clearRetransmitting (alike : Alike c w s s') : Alike c w (s.clearRetransmitting c) (s'.clearRetransmitting c) := by
  unfold TcpSocket.clearRetransmitting
  by_cases slow : c.slowStart = true
  · rw [if_pos slow, if_pos slow, (alike.slowStart slow).1]
    exact { alike with slowStart := fun _ => ⟨rfl, rfl⟩ }
  · rw [if_neg slow, if_neg slow]
    exact { alike with slowStart := fun woven => absurd woven slow }

/-- The records that two runs of a function over the history leave. -/
def Both (c : Config) (w : Written) {α : Type*} (p p' : TcpSocket × α) : Prop := Alike c w p.1 p'.1 ∧ p'.2 = p.2

theorem retransmitBuffer (alike : Alike c w s s') (e : Env) (record : TcpRecord) :
    Both c w (s.retransmitBuffer c e record) (s'.retransmitBuffer c e record) := by
  obtain ⟨sent, after⟩ := alike.send { record.sendbuffer with state := .writing }
  refine ⟨after, ?_⟩
  simp only [TcpSocket.retransmitBuffer, sent, alike.getRto]

theorem retransmitCounted (alike : Alike c w s s') (e : Env) (record : TcpRecord) :
    Both c w (s.retransmitCounted c e record) (s'.retransmitCounted c e record) := by
  unfold TcpSocket.retransmitCounted
  split_ifs
  · refine ⟨{ alike with state := rfl, finSeqnum := ?_ }, rfl⟩
    rintro (known | known | known | known | known)
    · exact alike.finSeqnum (.inl known)
    all_goals exact nomatch known
  · exact alike.retransmitBuffer e _
  · exact alike.retransmitBuffer e _

theorem retransmitSlowStart (alike : Alike c w s s') (e : Env) (record : TcpRecord) :
    Both c w (s.retransmitSlowStart c e record) (s'.retransmitSlowStart c e record) := by
  unfold TcpSocket.retransmitSlowStart
  by_cases slow : c.slowStart = true
  · obtain ⟨window, retransmitting⟩ := alike.slowStart slow
    rw [if_pos slow, if_pos slow, alike.seqnumUnacked, window]
    dsimp only
    split_ifs
    · refine retransmitCounted ?_ e record
      exact { alike with slowStart := fun _ => ⟨rfl, retransmitting⟩, seqnumUnacked := rfl }
    · exact ⟨alike, rfl⟩
  · rw [if_neg slow, if_neg slow]
    exact alike.retransmitCounted e record

theorem retransmit (alike : Alike c w s s') (e : Env) (record : TcpRecord) :
    Both c w (s.retransmit c e record) (s'.retransmit c e record) := by
  unfold TcpSocket.retransmit
  rw [alike.seqnumUnacked]
  dsimp only
  split_ifs
  · exact alike.setRetransmitting.retransmitSlowStart e record
  · exact alike.retransmitSlowStart e record

theorem updateRecords (e : Env) (doRetransmit : Bool) (history : TcpHistory) (alike : Alike c w s s') :
    Both c w (TcpSocket.updateRecords c e doRetransmit s history) (TcpSocket.updateRecords c e doRetransmit s' history) := by
  induction history generalizing s s' with
  | nil => exact ⟨alike, rfl⟩
  | cons record rest ih =>
    unfold TcpSocket.updateRecords
    rw [alike.seqnumUnacked]
    by_cases released : record.released e s.seqnumUnacked
    · rw [if_pos released, if_pos released]
      exact ih { alike with mempool := by rw [alike.mempool], seqnumUnacked := rfl }
    · rw [if_neg released, if_neg released]
      have kept : Both c w (if doRetransmit = true ∧ record.isTimedOut e.now = true then s.retransmit c e record else (s, record))
          (if doRetransmit = true ∧ record.isTimedOut e.now = true then s'.retransmit c e record else (s', record)) := by
        split_ifs
        · exact alike.retransmit e record
        · exact ⟨alike, rfl⟩
      obtain ⟨after, same⟩ := ih kept.1
      refine ⟨after, ?_⟩
      dsimp only
      rw [same, kept.2]

theorem updateHistoryBody (alike : Alike c w s s') (e : Env) (doRetransmit : Bool) :
    Alike c w (s.updateHistoryBody c e doRetransmit) (s'.updateHistoryBody c e doRetransmit) := by
  have updated : ∀ {t t' : TcpSocket}, Alike c w t t' →
      Alike c w { (TcpSocket.updateRecords c e doRetransmit t t.history).1 with
          history := (TcpSocket.updateRecords c e doRetransmit t t.history).2 }
        { (TcpSocket.updateRecords c e doRetransmit t' t'.history).1 with
          history := (TcpSocket.updateRecords c e doRetransmit t' t'.history).2 } := by
    intro t t' cleared
    rw [cleared.history]
    obtain ⟨after, same⟩ := updateRecords e doRetransmit t.history cleared
    exact { after with history := same }
  unfold TcpSocket.updateHistoryBody
  refine .ite Iff.rfl (fun _ => updated ?_) (fun _ => alike.clearHistory)
  exact .ite (by rw [alike.history]) (fun _ => alike.clearRetransmitting) (fun _ => alike)

theorem updateHistory (alike : Alike c w s s') (e : Env) (doRetransmit : Bool) :
    Alike c w (s.updateHistory c e doRetransmit) (s'.updateHistory c e doRetransmit) := by
  have body := alike.updateHistoryBody e doRetransmit
  exact .ite (by rw [body.state]) (fun _ => body.abort) (fun _ => body)

theorem requestSendBufferTcp (alike : Alike c w s s') (e : Env) :
    Answers c w (s.requestSendBufferTcp c e) (s'.requestSendBufferTcp c e) := by
  unfold TcpSocket.requestSendBufferTcp
  rw [alike.history]
  have updated := alike.updateHistory e false
  dsimp only
  split_ifs with full later later' later'
  · exact updated.answers none
  · exact absurd (updated.history ▸ later) later'
  · exact absurd (updated.history ▸ later') later
  · exact updated.requestSendBuffer e
  · exact alike.requestSendBuffer e

/-! ### Acknowledgements -/

theorem triggerAck (alike : Alike c w s s') : Alike c w s.triggerAck s'.triggerAck := { alike with ackTriggered := rfl }

theorem sendAckNum (alike : Alike c w s s') (e : Env) (ackNum : SeqNum) :
    Answers c w (s.sendAckNum c e ackNum) (s'.sendAckNum c e ackNum) := by
  obtain ⟨answer, t, t', first, second, after⟩ := alike.requestSendBufferTcp e
  unfold TcpSocket.sendAckNum
  rw [first, second]
  cases answer with
  | none => exact after.answers false
  | some b =>
    dsimp only
    rw [after.writeHeaderWithAck]
    exact (after.transmit e b _ 0).answers true

theorem getAckNum (alike : Alike c w s s') (known : w.position = true) :
    s'.receiveBuffer.getAckNum c = s.receiveBuffer.getAckNum c := by
  have same := alike.receiveBuffer
  rw [known] at same
  exact TcpReceiveBuffer.same_getAckNum same

theorem sendAck (alike : Alike c w s s') (known : w.position = true) (e : Env) :
    Answers c w (s.sendAck c e) (s'.sendAck c e) := by
  unfold TcpSocket.sendAck
  dsimp only
  rw [alike.getAckNum known]
  have lowered : Alike c w { s with ackTriggered := false } { s' with ackTriggered := false } :=
    { alike with ackTriggered := rfl }
  exact lowered.sendAckNum e _

theorem processAck (alike : Alike c w s s') (known : w.position = true) (e : Env) :
    Alike c w (s.processAck c e) (s'.processAck c e) :=
  .ite (by rw [alike.ackTriggered]) (fun _ => (alike.sendAck known e).after) (fun _ => alike)

theorem setSeqnumUnacked (alike : Alike c w s s') (e : Env) (acknum : SeqNum) :
    Alike c w (s.setSeqnumUnacked c e acknum) (s'.setSeqnumUnacked c e acknum) := by
  have estimated : ∀ {t t' : TcpSocket}, Alike c w t t' →
      Alike c w (if c.rttEstimation then { t with seqnumUnacked := acknum, rtt := t.rtt.update c acknum e.now }
          else { t with seqnumUnacked := acknum })
        (if c.rttEstimation then { t' with seqnumUnacked := acknum, rtt := t'.rtt.update c acknum e.now }
          else { t' with seqnumUnacked := acknum }) := fun same =>
    .ite Iff.rfl
      (fun woven => { same with
        seqnumUnacked := rfl, rtt := fun _ => RttEstimation.running_update (same.rtt woven) acknum e.now })
      (fun _ => { same with seqnumUnacked := rfl })
  refine estimated (.ite Iff.rfl (fun slow => ?_) (fun _ => alike))
  rw [(alike.slowStart slow).1, alike.mss, alike.seqnumUnacked]
  exact { alike with
    slowStart := fun _ => ⟨rfl, (alike.slowStart slow).2⟩, mss := rfl, seqnumUnacked := rfl }

theorem handleAck (alike : Alike c w s s') (e : Env) (acknum : SeqNum) :
    Alike c w (s.handleAck c e acknum) (s'.handleAck c e acknum) := by
  refine .ite (by rw [alike.seqnumUnacked]) (fun _ => alike) (fun _ => ?_)
  exact .ite (by rw [alike.seqnumNext]) (fun _ => alike) (fun _ => alike.setSeqnumUnacked e acknum)

/-! ### Flags of a received segment -/

theorem handleFin (alike : Alike c w s s') (segment : TcpSegment) (seqnum : SeqNum) (payloadLen : BitVec 32) :
    Alike c w (s.handleFin segment seqnum payloadLen) (s'.handleFin segment seqnum payloadLen) :=
  .ite (by rw [alike.finReceived]) (fun _ => { alike with finReceived := rfl, finSeqnum := fun _ => rfl }) (fun _ => alike)

theorem finComplete (alike : Alike c w s s') (known : w.position = true) : s'.finComplete c ↔ s.finComplete c := by
  unfold TcpSocket.finComplete
  rw [alike.finReceived, alike.getAckNum known]
  exact and_congr_right fun received => by rw [alike.finSeqnum (.inl received)]

theorem ackFin (alike : Alike c w s s') (numbered : s.finNumbered) (e : Env) : Alike c w (s.ackFin c e) (s'.ackFin c e) := by
  unfold TcpSocket.ackFin
  rw [alike.finSeqnum numbered]
  exact (alike.sendAckNum e _).after

theorem handleData (alike : Alike c w s s') (known : w.position = true) (r : ReceiveBuffer) (seqnum : SeqNum)
    (payloadLen : BitVec 32) : Answers c w (s.handleData c r seqnum payloadLen) (s'.handleData c r seqnum payloadLen) := by
  have same := alike.receiveBuffer
  rw [known] at same
  have inserted := TcpReceiveBuffer.same_insert (c := c) same r seqnum payloadLen
  unfold TcpSocket.handleData
  split_ifs
  · generalize s.receiveBuffer.insert c r seqnum payloadLen = b at inserted ⊢
    generalize s'.receiveBuffer.insert c r seqnum payloadLen = b' at inserted ⊢
    cases b with
    | none =>
      obtain rfl := Option.map_eq_none_iff.mp inserted
      exact alike.triggerAck.answers true
    | some b =>
      obtain ⟨b', rfl, stored⟩ := Option.map_eq_some_iff.mp inserted
      refine answers (triggerAck ?_) false
      exact { alike with receiveBuffer := TcpReceiveBuffer.unplaced_from stored w.position }
  · exact alike.answers true

theorem handleSyn (alike : Alike c w s s') (known : w.position = true) (e : Env) (r : ReceiveBuffer) :
    Alike c w (s.handleSyn c e r) (s'.handleSyn c e r) := ((alike.freeReceivedSegment r).sendAck known e).after

theorem handleSynFinal (alike : Alike c w s s') (numbered : s.finNumbered) (e : Env) (r : ReceiveBuffer) :
    Alike c w (s.handleSynFinal c e r) (s'.handleSynFinal c e r) := by
  unfold TcpSocket.handleSynFinal
  rw [alike.finSeqnum numbered]
  exact ((alike.freeReceivedSegment r).sendAckNum e _).after

theorem handleRst (alike : Alike c w s s') (r : ReceiveBuffer) : Alike c w (s.handleRst r) (s'.handleRst r) :=
  (alike.freeReceivedSegment r).abort

/-! ### Application data -/

theorem sendSegmentIn (alike : Alike c w s s') (known : w.position = true) (some : s.applicationBuflen ≠ 0) (e : Env)
    (block : Nat) (len : BitVec 32) : Alike c w (s.sendSegmentIn c e block len) (s'.sendSegmentIn c e block len) := by
  have transmitted : ∀ {t t' : TcpSocket} (segment : TcpSegment), Alike c w t t' →
      Alike c w (t.transmit c e block segment (t.getRto c)) (t'.transmit c e block segment (t'.getRto c)) := by
    intro t t' segment same
    rw [same.getRto]
    exact same.transmit e block segment _
  have timed : ∀ {t t' : TcpSocket}, Alike c w t t' →
      Alike c w (if c.rttEstimation ∧ c.rttSampling then { t with rtt := t.rtt.start t.seqnumNext e.now } else t)
        (if c.rttEstimation ∧ c.rttSampling then { t' with rtt := t'.rtt.start t'.seqnumNext e.now } else t') := by
    intro t t' same
    refine .ite Iff.rfl (fun woven => ?_) (fun _ => same)
    rw [same.seqnumNext]
    exact { same with seqnumNext := rfl, rtt := fun _ => RttEstimation.running_start (same.rtt woven.1) _ _ }
  have taken : Alike c w
      { s with
        applicationBuflen := s.applicationBuflen - len, applicationBuf := s.applicationBuf.drop len.toNat
        seqnumNext := s.seqnumNext + len }
      { s' with
        applicationBuflen := s.applicationBuflen - len, applicationBuf := s.applicationBuf.drop len.toNat
        seqnumNext := s.seqnumNext + len } :=
    { alike with buflen := rfl, buffer := fun _ => rfl, seqnumNext := rfl }
  unfold TcpSocket.sendSegmentIn
  dsimp only
  rw [alike.getAckNum known, alike.writeHeaderWithAck, alike.buffer some, alike.buflen, alike.seqnumNext]
  refine transmitted _ (timed (.ite (by rw [alike.sendWindow]) (fun _ => taken.lowerSendWindow _) (fun _ => ?_)))
  exact { taken with trace := by rw [alike.trace] }

theorem sendSegment (alike : Alike c w s s') (known : w.position = true) (alive : s.state ≠ .closed)
    (some : s.applicationBuflen ≠ 0) (e : Env) (len : BitVec 32) :
    Answers c w (s.sendSegment c e len) (s'.sendSegment c e len) := by
  obtain ⟨answer, t, t', first, second, after⟩ := alike.requestSendBufferTcp e
  have only := (requestSendBufferTcp_spec c e s).historyOnly fun dead => alive dead.2.1
  rw [first] at only
  dsimp only at only
  have buflen : t.applicationBuflen = s.applicationBuflen := by
    unfold HistoryOnly at only
    rw [only]
  unfold TcpSocket.sendSegment
  rw [first, second]
  cases answer with
  | none => exact after.answers false
  | some b => exact (after.sendSegmentIn known (buflen ▸ some) e b len).answers true

theorem sendNextSegment (alike : Alike c w s s') (known : w.position = true) (alive : s.state ≠ .closed)
    (some : s.applicationBuflen ≠ 0) (e : Env) : Answers c w (s.sendNextSegment c e) (s'.sendNextSegment c e) := by
  unfold TcpSocket.sendNextSegment
  rw [alike.getSendWindow, alike.buflen, alike.mss]
  exact alike.sendSegment known alive some e _

theorem sendLoop (known : w.position = true) (e : Env) (fuel : Nat) (alike : Alike c w s s') (alive : s.state ≠ .closed) :
    Alike c w (TcpSocket.sendLoop c e fuel s) (TcpSocket.sendLoop c e fuel s') := by
  induction fuel generalizing s s' with
  | zero => exact alike
  | succ fuel ih =>
    unfold TcpSocket.sendLoop
    refine .ite (by rw [alike.buflen, alike.getSendWindow]) (fun more => ?_) (fun _ => alike)
    have some : s.applicationBuflen ≠ 0 := by
      have := more.1
      bv_omega
    obtain ⟨answer, t, t', first, second, after⟩ := alike.sendNextSegment known alive some e
    rw [first, second]
    cases answer with
    | true =>
      obtain ⟨segment, sending⟩ := sendSegment_sent alive (congrArg Prod.fst first)
      have state : t.state = s.state := (congrArg (·.2.state) first).symm.trans sending.state
      exact ih after (by rwa [state])
    | false => exact after

theorem processSendData (alike : Alike c w s s') (known : w.position = true) (alive : s.state ≠ .closed) (e : Env) :
    Alike c w (s.processSendData c e) (s'.processSendData c e) := by
  refine .ite (by rw [alike.buflen]) (fun _ => alike) (fun some => ?_)
  refine .ite (by rw [alike.sendWindow]) (fun _ => ?_) (fun _ => ?_)
  · exact .ite (by rw [alike.history]) (fun _ => (alike.sendSegment known alive some e 1).after) (fun _ => alike)
  · have rounds : s'.sendRounds c = s.sendRounds c := by
      unfold sendRounds
      rw [alike.buflen]
    rw [rounds]
    exact sendLoop known e _ alike alive

theorem copyToApplication (alike : Alike c w s s') (known : w.position = true) (len : BitVec 32) :
    Alike c w (s.copyToApplication c len) (s'.copyToApplication c len) := by
  have same := alike.receiveBuffer
  rw [known] at same
  obtain ⟨bytes, freed, left⟩ := TcpReceiveBuffer.same_copyData (c := c) same len
  exact { alike with
    received := fun reading => by
      obtain ⟨recv, recvLen⟩ := alike.received reading
      simp only [TcpSocket.copyToApplication, bytes, recv, recvLen, and_self]
    receiveBuffer := TcpReceiveBuffer.unplaced_from left w.position
    mempool := by simp only [TcpSocket.copyToApplication, freed, alike.mempool] }

end Alike

end TcpSocket

end IPStack
