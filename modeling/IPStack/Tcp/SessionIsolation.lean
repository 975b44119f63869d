import IPStack.Lib.Reach
import IPStack.Tcp.CallRuns
import IPStack.Tcp.Ownership
import IPStack.Tcp.SessionRuns

/-! A second connection on the same socket. What the first one leaves behind in CLOSED is either
re-established before it is read, or one of the members that `TcpSocket.Restored` names. -/

namespace IPStack

open Machine

/-- A closed socket has no record, no acknowledgement to send and no FIN of its peer. -/
def Settled (s : TcpSocket) : Prop :=
  s.state = .closed → s.history = [] ∧ s.ackTriggered = false ∧ s.finReceived = false

namespace Settled

variable {c : Config} {d : Round} {e : Env} {s s' : TcpSocket}

theorem of_alive (alive : s.state ≠ .closed) : Settled s := fun closed => absurd closed alive

theorem of_state (state : TcpState) (same : s.state = state) (alive : state ≠ .closed) : Settled s := of_alive (same ▸ alive)

theorem updated (settled : Settled s) {doRetransmit : Bool} (interface : e.interface = true)
    (same : (s.updateHistoryBody c e doRetransmit).state = s.state) : Settled (s.updateHistoryBody c e doRetransmit) := by
  intro closed
  obtain ⟨empty, quiet, unfinished⟩ := settled (same.symm.trans closed)
  have updated := TcpSocket.updateHistoryBody_updated (c := c) interface s doRetransmit
  have kept := updated.kept
  rw [empty] at kept
  rw [updated.frame]
  exact ⟨List.forall₂_nil_left_iff.mp kept, quiet, unfinished⟩

theorem action (quiet : d.start.state = .closed → d.start.ackTriggered = false) {x y : Bool × TcpSocket}
    (action : Action c d x y) (settled : Settled x.2) : Settled y.2 := by
  cases action with
  | dequeue => exact settled
  | free => exact settled
  | abort => exact fun _ => ⟨rfl, rfl, rfl⟩
  | update runs interface alive => exact settled.updated interface alive
  | kill => exact fun _ => ⟨rfl, rfl, rfl⟩
  | lose => exact fun closed => ⟨rfl, (settled closed).2⟩
  | @refuse h s =>
    dsimp only
    unfold TcpSocket.requestSendBuffer
    dsimp only
    cases d.env.alloc s.mempool.requests <;> exact settled
  | reply room granted bare alive =>
    refine of_alive fun closed => ?_
    obtain ⟨started, triggered⟩ := alive closed
    exact absurd ((quiet started).symm.trans triggered) Bool.false_ne_true
  | send isOpen =>
    refine of_alive ?_
    dsimp only
    rw [(TcpSocket.sendSegmentIn_frame _ _ _ _ _).1]
    exact (TcpSocket.synchronized_of_open isOpen).1
  | sendSyn => exact of_state .synsent rfl (by simp)
  | answerSyn => exact of_state .synrcvd rfl (by simp)
  | sendFin => rcases TcpSocket.closeIn_late _ _ _ _ with late | late <;> exact of_state _ late (by simp)
  | resend state =>
    dsimp only
    rw [TcpSocket.resendFirst_eq]
    exact of_state _ state (by simp)
  | firstSeqNum => exact settled
  | setMss =>
    dsimp only
    unfold TcpSocket.setMss TcpSocket.initSlowStart
    dsimp only
    split_ifs <;> exact settled
  | refuseSynAck state =>
    dsimp only
    rw [TcpSocket.handleAck_eq]
    exact of_state _ state (by simp)
  | synAck => exact of_state .established rfl (by simp)
  | @simultaneous h s r state =>
    dsimp only
    rcases TcpSocket.synsentSimultaneous_cases c d.env s r.segment with ⟨-, answered⟩ | ⟨-, refused⟩
    · rw [answered]
      exact of_state .synrcvd rfl (by simp)
    · rw [refused]
      refine of_state .synsent ?_ (by simp)
      exact (TcpSocket.requestSendBuffer_historyOnly d.env (s.crossed r.segment)).requested.state.trans state
  | synrcvdAck state =>
    dsimp only
    unfold TcpSocket.synrcvdAck
    dsimp only
    split_ifs
    · exact of_state .established rfl (by simp)
    · rw [TcpSocket.handleAck_eq]
      exact of_state _ state (by simp)
  | setAck trigger alive =>
    cases trigger with
    | true => exact of_alive (alive rfl)
    | false => exact fun closed => ⟨(settled closed).1, rfl, (settled closed).2.2⟩
  | fin input takes =>
    refine of_alive ?_
    dsimp only
    rw [(TcpSocket.handleFin_received _ _ _ _).state]
    rcases takes with state | state | state <;> simp [state]
  | insert input takes =>
    refine of_alive ?_
    dsimp only
    rcases takes with state | state | state <;> simp [state]
  | window input isOpen =>
    refine of_alive ?_
    dsimp only
    rw [(TcpSocket.updateSendWindow_received _ _ _ _).state]
    exact (TcpSocket.synchronized_of_open isOpen).1
  | peerClosed => exact of_state .closewait rfl (by simp)
  | bothClosed => exact of_state .closing rfl (by simp)
  | lastClosed => exact of_state .timewait rfl (by simp)
  | finAcked => exact of_state .finwait2 rfl (by simp)
  | closingAcked => exact of_state .timewait rfl (by simp)
  | setPorts => exact settled
  | setMaxReceiveWindow => exact settled
  | arrive =>
    dsimp only
    rw [Machine.addToReceiveQueue_frame]
    exact settled
  | listen closed => exact of_state _ (TcpSocket.listenBase_state c d.env closed) (by simp)
  | initConnect =>
    dsimp only
    unfold TcpSocket.genInitialSeqnum
    dsimp only
    split_ifs <;> exact settled
  | write isOpen => exact of_alive (TcpSocket.synchronized_of_open isOpen).1
  | receive isOpen => exact of_alive (TcpSocket.synchronized_of_open isOpen).1
  | read => exact settled
  | received => exact settled
  | readRest =>
    dsimp only
    unfold TcpSocket.closewaitReceive
    dsimp only
    split_ifs <;> exact settled
  | finish => exact settled
  | opened => exact settled
  | idle => exact settled

end Settled

namespace Machine

variable {c : Config} {memory : TcpSocket} {m : Machine}

theorem step_settled (settled : Settled m.sock) (c : Config) (a : Env × Event) : Settled (m.step c a).sock := by
  obtain ⟨e, event⟩ := a
  have quiet : (m.round c e event).start.state = .closed → (m.round c e event).start.ackTriggered = false := by
    rcases round_start c e m event with start | ⟨r, rest, dport, -, -, start⟩ <;> rw [start]
    · exact fun closed => (settled closed).2.1
    · rw [TcpSocket.ackedBy_eq]
      exact fun closed => (settled closed).2.1
  refine step_keeps (P := fun x => Settled x.2) (fun _ => settled) ?_ fun x y action => Settled.action quiet action
  intro r rest dport tick queued input start
  rw [start, TcpSocket.ackedBy_eq]
  exact settled

/-- What a socket can have been through: steps of its own, and its user's abort of the connection. -/
inductive Used (c : Config) (memory : TcpSocket) : Machine → Prop
  | constructed : Used c memory (construct c memory)
  | stepped {m : Machine} (used : Used c memory m) (a : Env × Event) : Used c memory (m.step c a)
  | aborted {m : Machine} (used : Used c memory m) : Used c memory { m with sock := m.sock.abort }

theorem Used.run (used : Used c memory m) (inputs : List (Env × Event)) : Used c memory (inputs.foldl (step c) m) := by
  induction inputs generalizing m with
  | nil => exact used
  | cons a rest ih => exact ih (used.stepped a)

theorem Used.settled (used : Used c memory m) : Settled m.sock := by
  induction used with
  | constructed =>
    change Settled (memory.construct c)
    rw [TcpSocket.construct_eq]
    exact fun _ => ⟨rfl, rfl, rfl⟩
  | stepped _ a ih => exact step_settled ih c a
  | aborted => exact fun _ => ⟨rfl, rfl, rfl⟩

theorem Used.callInv (used : Used c memory m) : CallInv m := by
  induction used with
  | constructed => exact construct_callInv c memory
  | stepped _ a ih => exact step_callInv ih a
  | aborted _ ih => exact ih.steady (TcpSocket.abort_steady _ _)

end Machine

/-- Nothing is left of the connection where CLOSED does not re-establish it: no packet in the queue,
no element, no byte and no flag in the receive buffer, and the MSS, the receive window and the
congestion window of the freshly constructed socket. -/
structure TcpSocket.Restored (c : Config) (s fresh : TcpSocket) : Prop where
  queue : s.packetbuffer = []
  elements : s.receiveBuffer.list = []
  free : s.receiveBuffer.free.length = c.receivebufferMaxPackets
  counters : s.receiveBuffer.recvBytes = 0 ∧ s.receiveBuffer.pushFlag = false
  mss : s.mss = fresh.mss
  windowBytes : s.maxReceiveWindowBytes = fresh.maxReceiveWindowBytes
  windowMss : c.mssOption = true → s.maxReceiveWindowMss = fresh.maxReceiveWindowMss
  slowStart : c.slowStart = true → s.slowStart = fresh.slowStart ∧ s.retransmitting = fresh.retransmitting

namespace Machine

variable {c : Config} {memory : TcpSocket} {m : Machine}

/-- The machine with the observations beginning again. -/
def reopened (m : Machine) : Machine := ⟨{ m.sock with trace := ⟨[], 0, none, false, 0⟩ }, none, [], false⟩

/-- A machine on a freshly constructed socket, with the ports and the pool of the used one. -/
def replaced (c : Config) (memory : TcpSocket) (m : Machine) : Machine :=
  ⟨{ memory.construct c with dport := m.sock.dport, sport := m.sock.sport, mempool := m.sock.mempool }, none, [], false⟩

theorem Used.unstarted (used : Used c memory m) (closed : m.sock.state = .closed) (idle : m.call = none)
    (memory' : TcpSocket) (restored : m.sock.Restored c (memory'.construct c)) :
    Unstarted c m.reopened (m.replaced c memory') := by
  obtain ⟨empty, quiet, unfinished⟩ := used.settled closed
  obtain ⟨rests, receiving⟩ := used.callInv.closed closed
  have waiting := used.callInv.returned idle
  have fresh := TcpSocket.construct_eq c memory'
  refine .same (.inl rfl) closed waiting ?_
  constructor
  -- what the constructor sets, CLOSED has re-established
  case state => exact (congrArg TcpSocket.state fresh).trans closed.symm
  case receiving => exact (congrArg TcpSocket.receiving fresh).trans receiving.symm
  case history => exact (congrArg TcpSocket.history fresh).trans empty.symm
  case finReceived => exact (congrArg TcpSocket.finReceived fresh).trans unfinished.symm
  case ackTriggered => exact (congrArg TcpSocket.ackTriggered fresh).trans quiet.symm
  case buflen => exact (congrArg TcpSocket.applicationBuflen fresh).trans rests.symm
  case waiting => exact (congrArg TcpSocket.waiting fresh).trans waiting.symm
  case buffer => exact fun some => absurd rests some
  case finSeqnum =>
    rintro (known | known | known | known | known)
    · exact absurd (unfinished.symm.trans known) Bool.false_ne_true
    all_goals exact nomatch closed.symm.trans known
  -- the condition
  case packetbuffer => exact (congrArg TcpSocket.packetbuffer fresh).trans restored.queue.symm
  case receiveBuffer =>
    have constructed : (memory'.construct c).receiveBuffer = memory'.receiveBuffer.construct c :=
      congrArg TcpSocket.receiveBuffer fresh
    have left := TcpReceiveBuffer.unplacedFrom_empty restored.elements restored.counters.1 restored.counters.2
    have none := TcpReceiveBuffer.unplacedFrom_empty (b := memory'.receiveBuffer.construct c) rfl rfl rfl
    rw [restored.free] at left
    rw [show (memory'.receiveBuffer.construct c).free.length = c.receivebufferMaxPackets from List.length_range] at none
    change (memory'.construct c).receiveBuffer.unplacedFrom false = m.sock.receiveBuffer.unplacedFrom false
    rw [constructed, none, left]
  case mss => exact restored.mss.symm
  case windowBytes => exact restored.windowBytes.symm
  case windowMss => exact fun woven => (restored.windowMss woven).symm
  case slowStart => exact fun slow => ⟨(restored.slowStart slow).1.symm, (restored.slowStart slow).2.symm⟩
  -- what the next connection writes before it reads it
  case received => exact nofun
  case window => exact nofun
  case seqnumUnacked => rfl
  case seqnumNext => rfl
  case sendWindow => rfl
  case rtt => exact fun _ => rfl
  -- what both are given
  case mempool => rfl
  case ports => exact ⟨rfl, rfl⟩
  case trace => exact (congrArg TcpSocket.trace fresh).trans rfl

/-- A second connection on a used socket that has been restored goes like one on a freshly
constructed socket: it emits the same segments and delivers the same bytes for all inputs. -/
theorem sessions_isolated (used : Used c memory m) (closed : m.sock.state = .closed) (idle : m.call = none)
    (memory' : TcpSocket) (restored : m.sock.Restored c (memory'.construct c)) (second : List (Env × Event)) :
    let again := second.foldl (step c) m.reopened
    let fresh := second.foldl (step c) (m.replaced c memory')
    again.sock.trace = fresh.sock.trace ∧ again.returned = fresh.returned ∧ again.endOfStream = fresh.endOfStream ∧
      again.sock.state = fresh.sock.state ∧ again.call = fresh.call := by
  have start : Indistinct c m.reopened (m.replaced c memory') := .inl (used.unstarted closed idle memory' restored)
  obtain ⟨trace, state, call, returned, endOfStream⟩ := (start.run second).observed
  exact ⟨trace.symm, returned.symm, endOfStream.symm, state.symm, call.symm⟩

/-- The next connection to the same peer, and a read of three bytes that nobody has sent on it. -/
def reading : List (Env × Event) :=
  Sample.opening ++ [(Sample.env, .receive (List.replicate 3 0) (by decide)), (Sample.env, .tick), (Sample.env, .tick)]

theorem sessions_isolated_readReset :
    (reading.foldl (step Sample.config) (Sample.run readReset).reopened).sock.trace =
        (reading.foldl (step Sample.config) ((Sample.run readReset).replaced Sample.config Sample.memory)).sock.trace ∧
      (reading.foldl (step Sample.config) (Sample.run readReset).reopened).returned =
        (reading.foldl (step Sample.config) ((Sample.run readReset).replaced Sample.config Sample.memory)).returned := by
  have used : Used Sample.config Sample.memory (Sample.run readReset) := .run .constructed readReset
  have restored : (Sample.run readReset).sock.Restored Sample.config (Sample.memory.construct Sample.config) :=
    ⟨by decide +kernel, by decide +kernel, by decide +kernel, by decide +kernel, by decide +kernel, by decide +kernel,
      nofun, nofun⟩
  obtain ⟨trace, returned, -⟩ :=
    sessions_isolated used (by decide +kernel) (by decide +kernel) Sample.memory restored reading
  exact ⟨trace, returned⟩

/-- Three bytes are unread when the peer resets the connection. On the next one, the socket
acknowledges a number that is three too far, and `receive` returns the bytes of the first. -/
theorem sessions_unisolated : ¬∀ (c : Config) (memory memory' : TcpSocket) (m : Machine), Used c memory m →
    m.sock.state = .closed → m.call = none → ∀ second : List (Env × Event),
      (second.foldl (step c) m.reopened).sock.trace.wire = (second.foldl (step c) (m.replaced c memory')).sock.trace.wire ∧
        (second.foldl (step c) m.reopened).returned = (second.foldl (step c) (m.replaced c memory')).returned := by
  intro isolated
  have used : Used Sample.config Sample.memory (Sample.run unreadReset) := .run .constructed unreadReset
  have same := isolated Sample.config Sample.memory Sample.memory _ used (by decide +kernel) (by decide +kernel) reading
  have leaked : (reading.foldl (step Sample.config) (Sample.run unreadReset).reopened).returned = [1, 2, 3] := by
    decide +kernel
  have none : (reading.foldl (step Sample.config)
      ((Sample.run unreadReset).replaced Sample.config Sample.memory)).returned = [] := by
    decide +kernel
  rw [leaked, none] at same
  exact List.cons_ne_nil _ _ same.2

end Machine

end IPStack
