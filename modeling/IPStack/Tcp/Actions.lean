import IPStack.Tcp.Calls
import IPStack.Tcp.HistoryUpdate
import Mathlib.Logic.Relation

/-! Every step of a socket as a sequence of actions. An invariant is proved once for each
action and then holds after every handler. -/

namespace IPStack

/-- What is fixed while one step runs: the segment it processes, the segment that arrives,
the socket the actions start from, whether the step runs a handler without a segment, runs
`updateHistory`, aborts the connection, and retransmits in `updateHistory`. -/
structure Round where
  env : Env
  input : Option ReceiveBuffer
  arrival : Option (TcpSegment × BitVec 16) := none
  start : TcpSocket
  idle : Bool
  updates : Bool
  aborts : Bool
  again : Bool := false

/-- A call of `sendSegment` with the socket it starts from. -/
structure SendAttempt where
  env : Env
  before : TcpSocket
  len : BitVec 32

namespace SendAttempt

def sends (c : Config) (a : SendAttempt) : Bool := (a.before.sendSegment c a.env a.len).1

def after (c : Config) (a : SendAttempt) : TcpSocket := (a.before.sendSegment c a.env a.len).2

end SendAttempt

namespace TcpSocket

def loopAttempts (c : Config) (e : Env) : Nat → TcpSocket → List SendAttempt
  | 0, _ => []
  | fuel + 1, s =>
    if 0 < s.applicationBuflen ∧ 0 < s.getSendWindow c then
      let len := min3 ((s.getSendWindow c).setWidth 32) s.applicationBuflen s.mss
      ⟨e, s, len⟩ ::
        if (s.sendSegment c e len).1 then loopAttempts c e fuel (s.sendSegment c e len).2 else []
    else []

/-- The calls of `sendSegment` in `processSendData`. -/
def sendAttempts (c : Config) (e : Env) (s : TcpSocket) : List SendAttempt :=
  if s.applicationBuflen = 0 then []
  else if s.sendWindow = 0 then if s.history.getNextTimeout c e.now = 0 then [⟨e, s, 1⟩] else []
  else loopAttempts c e (s.sendRounds c) s


/-- The socket after a successful buffer request; the block is `s.mempool.nextBlock`. -/
def allocated (s : TcpSocket) : TcpSocket :=
  { s with mempool := { s.mempool with requests := s.mempool.requests + 1, nextBlock := s.mempool.nextBlock + 1 } }

def canAllocate (e : Env) (s : TcpSocket) : Prop := e.alloc s.mempool.requests = .ok

instance (e : Env) (s : TcpSocket) : Decidable (s.canAllocate e) := inferInstanceAs (Decidable (_ = _))

def takesData (s : TcpSocket) : Prop :=
  s.state = .established ∨ s.state = .finwait1 ∨ s.state = .finwait2

instance (s : TcpSocket) : Decidable s.takesData := inferInstanceAs (Decidable (_ ∨ _))

/-- The history as `processSendData` finds it in an idle step. -/
def beforeSending (c : Config) (e : Env) (s : TcpSocket) : TcpSocket :=
  let s := s.updateHistory c e true
  if s.state = .established then s.processAck c e else s

/-- The zero window probe is due. -/
def probeDue (c : Config) (e : Env) (s : TcpSocket) : Prop :=
  (s.beforeSending c e).history.getNextTimeout c e.now = 0

instance (c : Config) (e : Env) (s : TcpSocket) : Decidable (s.probeDue c e) := inferInstanceAs (Decidable (_ = _))

/-- An idle step sends a zero window probe. -/
def probes (c : Config) (e : Env) (s : TcpSocket) : Prop :=
  s.isOpen ∧ s.waiting = true ∧ s.receiving = false ∧ 0 < s.applicationBuflen ∧ s.sendWindow = 0 ∧ s.probeDue c e ∧
    ((s.beforeSending c e).requestSendBufferTcp c e).1.isSome = true

instance (c : Config) (e : Env) (s : TcpSocket) : Decidable (s.probes c e) := inferInstanceAs (Decidable (_ ∧ _))

/-- The socket `processSendData` is called with in a round without a segment. -/
def sendingSocket (c : Config) (e : Env) (s : TcpSocket) : Option TcpSocket :=
  if s.isOpen then
    let s' := s.updateHistory c e true
    if s'.receiving = false ∧ s'.waiting = true then some (if s.state = .established then s'.processAck c e else s')
    else none
  else none

/-- Only the history and the memory pool differ. -/
def HistoryOnly (s s' : TcpSocket) : Prop := s' = { s with history := s'.history, mempool := s'.mempool }

/-- The result of `SYN_ACK` in SYNSENT: our SYN is acknowledged. -/
def synAcked (c : Config) (e : Env) (s : TcpSocket) (segment : TcpSegment) : TcpSocket :=
  let s := s.handleAck c e segment.acknum
  let s := { s with state := .established }
  let s := s.initSendWindow segment.window segment.seqnum segment.acknum
  { s with receiveBuffer := s.receiveBuffer.setFirstSeqNum (segment.seqnum + 1) }.clearHistory

end TcpSocket

/-- The second socket has sent no data since the first and has taken no window update. -/
structure TcpSocket.Unsent (s s' : TcpSocket) : Prop where
  state : s'.state = s.state
  seqnumNext : s'.seqnumNext = s.seqnumNext
  sendWindow : s'.sendWindow = s.sendWindow
  lwack : s'.lwack = s.lwack
  lwseq : s'.lwseq = s.lwseq
  lastWindow : s'.trace.lastWindow = s.trace.lastWindow
  lastProbe : s'.trace.lastProbe = s.trace.lastProbe

/-- The second socket has stored nothing and got no block since the first. -/
structure TcpSocket.Unfilled (s s' : TcpSocket) : Prop where
  receiveBuffer : s'.receiveBuffer = s.receiveBuffer
  nextBlock : s'.mempool.nextBlock = s.mempool.nextBlock

/-- The second socket has done nothing for its connection since the first. -/
structure TcpSocket.Waiting (s s' : TcpSocket) : Prop where
  state : s'.state = s.state
  history : s'.history = s.history
  nextBlock : s'.mempool.nextBlock = s.mempool.nextBlock
  seqnumNext : s'.seqnumNext = s.seqnumNext
  seqnumUnacked : s'.seqnumUnacked = s.seqnumUnacked

theorem TcpSocket.Waiting.refl (s : TcpSocket) : Waiting s s := ⟨rfl, rfl, rfl, rfl, rfl⟩

theorem TcpSocket.Unsent.trans {s s' s'' : TcpSocket} (first : Unsent s s') (second : Unsent s' s'') : Unsent s s'' where
  state := second.state.trans first.state
  seqnumNext := second.seqnumNext.trans first.seqnumNext
  sendWindow := second.sendWindow.trans first.sendWindow
  lwack := second.lwack.trans first.lwack
  lwseq := second.lwseq.trans first.lwseq
  lastWindow := second.lastWindow.trans first.lastWindow
  lastProbe := second.lastProbe.trans first.lastProbe

/-- A segment without RST and SYN, the kind whose data and FIN are looked at. -/
def TcpSegment.plain (segment : TcpSegment) : Prop := segment.rst = false ∧ segment.syn = false

instance (segment : TcpSegment) : Decidable segment.plain := inferInstanceAs (Decidable (_ ∧ _))

open TcpSocket

/-- The socket is not closed, unless the round found a closed socket with an
acknowledgement to send. -/
def Round.Alive (d : Round) (s : TcpSocket) : Prop :=
  s.state = .closed → d.start.state = .closed ∧ d.start.ackTriggered = true

/-- `processSendData` calls `sendSegment` in the round. -/
def Round.Attempts (c : Config) (d : Round) (a : SendAttempt) : Prop :=
  d.idle = true ∧ ∃ s₁, d.start.sendingSocket c d.env = some s₁ ∧ a ∈ s₁.sendAttempts c d.env

/-- The socket behind the `updateHistory` that the round begins with. -/
def Round.begun (c : Config) (d : Round) : TcpSocket := if d.again then d.start.updateHistory c d.env true else d.start

/-- One of these calls gets a buffer: the request leaves this socket behind, which the segment is
sent from. -/
def Round.Sends (c : Config) (d : Round) (s : TcpSocket) (len : BitVec 32) : Prop :=
  ∃ a, d.Attempts c a ∧ a.len = len ∧ a.sends c = true ∧ HistoryOnly a.before s ∧
    a.after c = s.allocated.sendSegmentIn c d.env s.mempool.nextBlock len

theorem Round.Attempts.sends {c : Config} {d : Round} {s s' : TcpSocket} {len : BitVec 32}
    (attempt : d.Attempts c ⟨d.env, s, len⟩) (sent : (⟨d.env, s, len⟩ : SendAttempt).sends c = true) (only : HistoryOnly s s')
    (after : (s.sendSegment c d.env len).2 = s'.allocated.sendSegmentIn c d.env s'.mempool.nextBlock len) :
    d.Sends c s' len := ⟨_, attempt, rfl, sent, only, after⟩

/-- The actions of a step. The flag says whether the running handler owns the block of
the segment it processes. -/
inductive Action (c : Config) (d : Round) : Bool × TcpSocket → Bool × TcpSocket → Prop
  | dequeue {s : TcpSocket} {r : ReceiveBuffer} {rest : List ReceiveBuffer} (input : d.input = some r)
      (queued : s.packetbuffer = r :: rest) : Action c d (false, s) (true, { s with packetbuffer := rest })
  | free {s : TcpSocket} {r : ReceiveBuffer} (input : d.input = some r) :
      Action c d (true, s) (false, s.freeReceivedSegment r)
  | abort {h : Bool} {s : TcpSocket}
      (reason : s.state = .closed ∨ d.aborts ∧ d.start.Unfilled s) :
      Action c d (h, s) (h, s.abort)
  -- `updateHistory`
  | update {h : Bool} {s : TcpSocket} {doRetransmit : Bool} (runs : d.updates) (interface : d.env.interface = true)
      (alive : (s.updateHistoryBody c d.env doRetransmit).state = s.state)
      (first : doRetransmit = true → d.again = true ∧ s = d.start) (cleans : doRetransmit = false → s.history ≠ []) :
      Action c d (h, s) (h, s.updateHistoryBody c d.env doRetransmit)
  | kill {h : Bool} {s : TcpSocket} (runs : d.updates) (interface : d.env.interface = true) (aborts : d.aborts)
      (same : d.start.Unfilled s) (overdue : ∃ r ∈ s.history, Overdue c d.env s r) :
      Action c d (h, s) (h, (s.updateHistoryBody c d.env true).abort)
  | lose {h : Bool} {s : TcpSocket} (runs : d.updates) (interface : d.env.interface = false) :
      Action c d (h, s) (h, s.clearHistory)
  -- buffer requests and what is sent
  | refuse {h : Bool} {s : TcpSocket} (refused : ¬ s.canAllocate d.env) :
      Action c d (h, s) (h, (s.requestSendBuffer d.env).2)
  | reply {h : Bool} {s : TcpSocket} {segment : TcpSegment} (room : s.history.isFull c = false)
      (granted : s.canAllocate d.env) (bare : segment.data = [] ∧ segment.syn = false ∧ segment.fin = false)
      (alive : d.Alive s) :
      Action c d (h, s) (h, s.allocated.transmit c d.env s.mempool.nextBlock segment 0)
  | send {h : Bool} {s : TcpSocket} {len : BitVec 32} (isOpen : s.isOpen) (waiting : s.waiting = true)
      (sending : s.receiving = false) (some : 0 < s.applicationBuflen)
      (amount : len = min3 ((s.getSendWindow c).setWidth 32) s.applicationBuflen s.mss ∧ 0 < s.getSendWindow c ∨
        len = 1 ∧ s.sendWindow = 0 ∧ d.idle ∧ d.start.probes c d.env ∧ Unsent d.start s)
      (room : s.history.isFull c = false) (granted : s.canAllocate d.env) (attempt : d.Sends c s len) :
      Action c d (h, s) (h, s.allocated.sendSegmentIn c d.env s.mempool.nextBlock len)
  | sendSyn {h : Bool} {s : TcpSocket} (closed : s.state = .closed) (fresh : s.seqnumNext = s.seqnumUnacked)
      (window : s.sendWindow = 0) (rto : s.RtoPos c) (room : s.history.isFull c = false)
      (granted : s.canAllocate d.env) (rest : c.rttEstimation = true → s.rtt.rrtActive = false) :
      Action c d (h, s) (h, s.allocated.connectIn c d.env s.mempool.nextBlock)
  | answerSyn {h : Bool} {s : TcpSocket} (listening : s.state = .listen) (room : s.history.isFull c = false)
      (granted : s.canAllocate d.env) : Action c d (h, s) (h, s.allocated.listenIn c d.env s.mempool.nextBlock)
  | sendFin {h : Bool} {s : TcpSocket} (isOpen : s.isOpen) (room : s.history.isFull c = false)
      (granted : s.canAllocate d.env) : Action c d (h, s) (h, s.allocated.closeIn c d.env s.mempool.nextBlock)
  | resend {h : Bool} {s : TcpSocket} {r : ReceiveBuffer} (state : s.state = .synrcvd) (input : d.input = some r)
      (repeated : r.segment.rst = false ∧ r.segment.ack = false ∧ r.segment.syn = true) (waiting : d.start.Waiting s) :
      Action c d (h, s) (h, s.resendFirst)
  -- the handshake
  | firstSeqNum {h : Bool} {s : TcpSocket} {r : ReceiveBuffer} (listening : s.state = .listen)
      (input : d.input = some r) :
      Action c d (h, s) (h, { s with receiveBuffer := s.receiveBuffer.setFirstSeqNum (r.segment.seqnum + 1) })
  | setMss {h : Bool} {s : TcpSocket} {mss : BitVec 32} (state : s.state = .listen ∨ s.state = .synsent) :
      Action c d (h, s) (h, s.setMss c mss)
  | refuseSynAck {h : Bool} {s : TcpSocket} {r : ReceiveBuffer} (state : s.state = .synsent) (input : d.input = some r)
      (other : (s.handleAck c d.env r.segment.acknum).seqnumUnacked ≠ s.seqnumNext) :
      Action c d (h, s) (h, s.handleAck c d.env r.segment.acknum)
  | synAck {h : Bool} {s : TcpSocket} {r : ReceiveBuffer} (state : s.state = .synsent) (input : d.input = some r)
      (ack : r.segment.ack = true) (syn : r.segment.syn = true) (waiting : d.start.Waiting s)
      (acked : (s.handleAck c d.env r.segment.acknum).seqnumUnacked = s.seqnumNext) :
      Action c d (h, s) (h, s.synAcked c d.env r.segment)
  | simultaneous {h : Bool} {s : TcpSocket} {r : ReceiveBuffer} (state : s.state = .synsent) (input : d.input = some r)
      (syn : r.segment.syn = true) (noAck : r.segment.ack = false) (waiting : d.start.Waiting s)
      (requests : s.mempool.requests = d.start.mempool.requests) :
      Action c d (h, s) (h, s.synsentSimultaneous c d.env r.segment)
  | synrcvdAck {h : Bool} {s : TcpSocket} {r : ReceiveBuffer} (state : s.state = .synrcvd) (input : d.input = some r)
      (accepted : r.segment.rst = false ∧ r.segment.ack = true) (waiting : d.start.Waiting s) :
      Action c d (h, s) (h, s.synrcvdAck c d.env r.segment)
  -- received segments
  | setAck {h : Bool} {s : TcpSocket} (trigger : Bool) (alive : trigger = true → s.state ≠ .closed) :
      Action c d (h, s) (h, { s with ackTriggered := trigger })
  | fin {h : Bool} {s : TcpSocket} {r : ReceiveBuffer} (input : d.input = some r) (state : s.takesData)
      (plain : r.segment.plain) : Action c d (h, s) (h, s.handleFin r.segment r.segment.seqnum r.payloadLen)
  | insert {s : TcpSocket} {r : ReceiveBuffer} {b : TcpReceiveBuffer} (input : d.input = some r) (state : s.takesData)
      (plain : r.segment.plain) (payload : 0 < r.payloadLen)
      (inserted : s.receiveBuffer.insert c r r.segment.seqnum r.payloadLen = some b) :
      Action c d (true, s) (false, { s with receiveBuffer := b, ackTriggered := true })
  | window {h : Bool} {s : TcpSocket} {r : ReceiveBuffer} (input : d.input = some r) (isOpen : s.isOpen)
      (plain : r.segment.plain) (same : Unsent d.start s) :
      Action c d (h, s) (h, s.updateSendWindow r.segment r.segment.seqnum r.segment.acknum)
  -- the closing states
  | peerClosed {h : Bool} {s : TcpSocket} (state : s.state = .established) (complete : s.finComplete c) :
      Action c d (h, s) (h, { s with state := .closewait })
  | bothClosed {h : Bool} {s : TcpSocket} (state : s.state = .finwait1) (complete : s.finComplete c) :
      Action c d (h, s) (h, { s with state := .closing })
  | lastClosed {h : Bool} {s : TcpSocket} (complete : s.finComplete c)
      (state : s.state = .finwait2 ∨ s.state = .finwait1 ∧ seqLeq s.seqnumNext s.seqnumUnacked) :
      Action c d (h, s) (h, { s with state := .timewait })
  | finAcked {h : Bool} {s : TcpSocket} (empty : s.history = [])
      (state : s.state = .finwait1 ∨ s.state = .closed ∧ d.start.state = .finwait1 ∧ d.input = none ∧ d.aborts) :
      Action c d (h, s) (h, { s with state := .finwait2 })
  | closingAcked {h : Bool} {s : TcpSocket} (empty : s.history = [])
      (state : s.state = .closing ∨ s.state = .closed ∧ d.start.state = .closing ∧ d.input = none ∧ d.aborts) :
      Action c d (h, s) (h, { s with state := .timewait })
  -- calls of the application
  | setPorts {h : Bool} {s : TcpSocket} (sport dport : BitVec 16) :
      Action c d (h, s) (h, { s with sport := sport, dport := dport })
  | setMaxReceiveWindow {h : Bool} {s : TcpSocket} (max : BitVec 32) :
      Action c d (h, s) (h, { s with maxReceiveWindowMss := max })
  | arrive {h : Bool} {s : TcpSocket} {segment : TcpSegment} {size : BitVec 16} (start : s = d.start)
      (arrival : d.arrival = some (segment, size)) : Action c d (h, s) (h, s.addToReceiveQueue c d.env segment size)
  | listen {h : Bool} {s : TcpSocket} (closed : s.state = .closed) : Action c d (h, s) (h, s.listenBase c d.env)
  | initConnect {h : Bool} {s : TcpSocket} (closed : s.state = .closed) :
      Action c d (h, s) (h, { s.genInitialSeqnum c d.env with sendWindow := 0 })
  | write {h : Bool} {s : TcpSocket} {data : List UInt8} (isOpen : s.isOpen) (size_lt : data.length < 2 ^ 32) :
      Action c d (h, s) (h, s.writeBase data)
  | receive {h : Bool} {s : TcpSocket} {buffer : List UInt8} (isOpen : s.isOpen) (size_lt : buffer.length < 2 ^ 32) :
      Action c d (h, s) (h, s.receiveBase buffer)
  | read {h : Bool} {s : TcpSocket} {len : BitVec 32} (state : s.state = .established) (receiving : s.receiving = true)
      (held : len ≤ s.receiveBuffer.getRecvBytes c) (fits : len ≤ s.applicationBuflen) :
      Action c d (h, s) (h, s.readToApplication c len)
  | received {h : Bool} {s : TcpSocket} (receiving : s.receiving = true) :
      Action c d (h, s) (h, { s with receiving := false, waiting := false })
  | readRest {h : Bool} {s : TcpSocket} (state : s.state = .closewait) (receiving : s.receiving = true) :
      Action c d (h, s) (h, s.closewaitReceive c)
  | finish {h : Bool} {s : TcpSocket} (isOpen : s.isOpen) (sent : s.applicationBuflen = 0) (acked : s.history = []) :
      Action c d (h, s) (h, { s with waiting := false })
  | opened {h : Bool} {s : TcpSocket} (state : s.state = .established) (start : d.start.state = .synsent) :
      Action c d (h, s) (h, { s with waiting := false })
  | idle {h : Bool} {s : TcpSocket} (state : s.state = .closed) : Action c d (h, s) (h, { s with waiting := false })

abbrev Actions (c : Config) (d : Round) : Bool × TcpSocket → Bool × TcpSocket → Prop :=
  Relation.ReflTransGen (Action c d)

namespace TcpSocket

variable {c : Config} {d : Round} {h : Bool} {s s' : TcpSocket} {r : ReceiveBuffer}

theorem alive_of_open (open' : s.state ≠ .closed) : d.Alive s := fun closed => absurd closed open'

/-! ### Buffers and the history -/

theorem requestSendBuffer_granted {e : Env} (granted : s.canAllocate e) :
    s.requestSendBuffer e = (some s.mempool.nextBlock, s.allocated) := by
  unfold requestSendBuffer
  rw [granted]
  rfl

theorem requestSendBuffer_refused {e : Env} (refused : ¬ s.canAllocate e) :
    s.requestSendBuffer e = (none, (s.requestSendBuffer e).2) := by
  unfold requestSendBuffer
  cases answer : e.alloc s.mempool.requests with
  | ok => exact absurd answer refused
  | noMemory => rfl
  | invalid => rfl

theorem min3_le (a b c : BitVec 32) : min3 a b c ≤ a ∧ min3 a b c ≤ b := by
  unfold min3
  split_ifs <;> constructor <;> bv_omega

/-- The socket whose SYN another SYN has crossed, before the buffer for the answer is
requested. -/
def crossed (s : TcpSocket) (segment : TcpSegment) : TcpSocket :=
  { s.clearHistory with receiveBuffer := s.receiveBuffer.setFirstSeqNum (segment.seqnum + 1) }

theorem synsentSimultaneous_cases (c : Config) (e : Env) (s : TcpSocket) (segment : TcpSegment) :
    s.canAllocate e ∧ s.synsentSimultaneous c e segment =
        (s.crossed segment).allocated.synsentSimultaneousIn c e s.mempool.nextBlock ∨
      ¬ s.canAllocate e ∧ s.synsentSimultaneous c e segment = ((s.crossed segment).requestSendBuffer e).2 := by
  have room : (s.crossed segment).history.isFull c = false := by
    have := c.historyMaxPackets_pos
    simp [crossed, clearHistory, TcpHistory.isFull]
    omega
  have request : (s.crossed segment).requestSendBufferTcp c e = (s.crossed segment).requestSendBuffer e := by
    unfold requestSendBufferTcp
    rw [room]
    rfl
  have same : { s.clearHistory with
      receiveBuffer := s.clearHistory.receiveBuffer.setFirstSeqNum (segment.seqnum + 1) } = s.crossed segment := rfl
  unfold synsentSimultaneous
  dsimp only
  rw [same, request]
  by_cases granted : (s.crossed segment).canAllocate e
  · rw [requestSendBuffer_granted granted]
    exact .inl ⟨granted, rfl⟩
  · rw [requestSendBuffer_refused granted]
    exact .inr ⟨granted, rfl⟩

theorem HistoryOnly.trans {s'' : TcpSocket} (first : HistoryOnly s s') (second : HistoryOnly s' s'') : HistoryOnly s s'' := by
  unfold HistoryOnly at *
  rw [second, first]

theorem requestSendBuffer_historyOnly (e : Env) (s : TcpSocket) : HistoryOnly s (s.requestSendBuffer e).2 := by
  unfold requestSendBuffer
  cases e.alloc s.mempool.requests <;> rfl

theorem updateHistory_eq (e : Env) (s : TcpSocket) (doRetransmit : Bool) :
    s.updateHistory c e doRetransmit =
      if c.retransmissionCounter = true ∧ (s.updateHistoryBody c e doRetransmit).state = .closed then
        (s.updateHistoryBody c e doRetransmit).abort
      else s.updateHistoryBody c e doRetransmit := rfl

theorem updateHistory_actions (doRetransmit : Bool) (runs : d.updates)
    (aborts : (∃ r ∈ s.history, Overdue c d.env s r) → doRetransmit = true → d.env.interface = true → d.aborts)
    (first : doRetransmit = true → d.again = true ∧ s = d.start) (cleans : doRetransmit = false → s.history ≠ []) :
    Actions c d (h, s) (h, s.updateHistory c d.env doRetransmit) := by
  rw [updateHistory_eq]
  cases interface : d.env.interface with
  | false =>
    have body : s.updateHistoryBody c d.env doRetransmit = s.clearHistory := by simp [updateHistoryBody, interface]
    rw [body]
    have lost : Actions c d (h, s) (h, s.clearHistory) := .single (.lose runs interface)
    split_ifs with closed
    · exact lost.tail (.abort (.inl closed.2))
    · exact lost
  | true =>
    have updated := updateHistoryBody_updated (c := c) interface s doRetransmit
    rcases updated.state with alive | ⟨closed, again, overdue⟩
    · have first : Actions c d (h, s) (h, s.updateHistoryBody c d.env doRetransmit) := .single (.update runs interface alive first cleans)
      split_ifs with closed
      · exact first.tail (.abort (.inl closed.2))
      · exact first
    · subst again
      have counts : c.retransmissionCounter = true := by
        obtain ⟨_, _, exceeded⟩ := overdue
        exact exceeded.2.2.1
      simp only [counts, closed, and_self, if_true]
      have same : d.start.Unfilled s := (first rfl).2 ▸ ⟨rfl, rfl⟩
      exact .single (.kill runs interface (aborts overdue rfl interface) same overdue)

/-- What a buffer request leaves behind. Only in a closed socket more than the history
can change: there the cleaned up history is taken for a killed connection. -/
structure Requested (s s' : TcpSocket) : Prop where
  state : s'.state = s.state
  seqnumNext : s'.seqnumNext = s.seqnumNext
  seqnumUnacked : s'.seqnumUnacked = s.seqnumUnacked
  sendWindow : s'.sendWindow = s.sendWindow
  rtt : s'.rtt = s.rtt
  historyOnly : s.state ≠ .closed → HistoryOnly s s'

theorem HistoryOnly.requested (only : HistoryOnly s s') : Requested s s' := by
  unfold HistoryOnly at only
  constructor
  case historyOnly => exact fun _ => only
  all_goals rw [only]

theorem Requested.trans {s'' : TcpSocket} (first : Requested s s') (second : Requested s' s'') : Requested s s'' where
  state := second.state.trans first.state
  seqnumNext := second.seqnumNext.trans first.seqnumNext
  seqnumUnacked := second.seqnumUnacked.trans first.seqnumUnacked
  sendWindow := second.sendWindow.trans first.sendWindow
  rtt := second.rtt.trans first.rtt
  historyOnly alive := (first.historyOnly alive).trans (second.historyOnly (by rwa [first.state]))

theorem abort_requested (only : HistoryOnly s s') (closed : s.state = .closed) : Requested s s'.abort := by
  unfold HistoryOnly at only
  constructor
  case historyOnly => exact fun alive => absurd closed alive
  all_goals rw [only]
  case state => exact closed.symm
  all_goals rfl

theorem updateHistory_false_requested (e : Env) (full : s.history.isFull c = true) :
    Requested s (s.updateHistory c e false) := by
  have nonempty : s.history ≠ [] := by
    intro empty
    have := c.historyMaxPackets_pos
    simp [TcpHistory.isFull, empty] at full
    omega
  have only : HistoryOnly s (s.updateHistoryBody c e false) := by
    cases interface : e.interface with
    | false => simp [updateHistoryBody, interface, clearHistory, HistoryOnly]
    | true =>
      rw [updateHistoryBody_false (c := c) interface nonempty]
      rfl
  rw [updateHistory_eq]
  split_ifs with closed
  · refine abort_requested only ?_
    rw [← only.requested.state, closed.2]
  · exact only.requested

/-- A buffer request as a sequence of actions: it is refused, or the block is there. -/
theorem requestSendBufferTcp_actions (runs : s.history.isFull c = true → d.updates) :
    (∃ s', Actions c d (h, s) (h, s') ∧ Requested s s' ∧ s'.history.isFull c = false ∧ s'.canAllocate d.env ∧
      s.requestSendBufferTcp c d.env = (some s'.mempool.nextBlock, s'.allocated)) ∨
    ∃ s', Actions c d (h, s) (h, s') ∧ Requested s s' ∧ s.requestSendBufferTcp c d.env = (none, s') := by
  have request : ∀ s' : TcpSocket, s'.history.isFull c = false → Actions c d (h, s) (h, s') → Requested s s' →
      s.requestSendBufferTcp c d.env = s'.requestSendBuffer d.env →
      (∃ s', Actions c d (h, s) (h, s') ∧ Requested s s' ∧ s'.history.isFull c = false ∧ s'.canAllocate d.env ∧
        s.requestSendBufferTcp c d.env = (some s'.mempool.nextBlock, s'.allocated)) ∨
      ∃ s', Actions c d (h, s) (h, s') ∧ Requested s s' ∧ s.requestSendBufferTcp c d.env = (none, s') := by
    intro s' room actions requested eq
    by_cases granted : s'.canAllocate d.env
    · exact Or.inl ⟨s', actions, requested, room, granted, eq.trans (requestSendBuffer_granted granted)⟩
    · refine Or.inr ⟨_, actions.tail (.refuse granted), ?_, eq.trans (requestSendBuffer_refused granted)⟩
      exact requested.trans (requestSendBuffer_historyOnly d.env s').requested
  cases full : s.history.isFull c with
  | false =>
    exact request s full .refl (HistoryOnly.requested rfl) (by simp [requestSendBufferTcp, full])
  | true =>
    have nonempty : s.history ≠ [] := by
      intro empty
      have := c.historyMaxPackets_pos
      simp [TcpHistory.isFull, empty] at full
      omega
    have cleaned : Actions c d (h, s) (h, s.updateHistory c d.env false) :=
      updateHistory_actions false (runs full) (fun _ again => nomatch again) (fun again => nomatch again) fun _ => nonempty
    have requested := updateHistory_false_requested d.env full
    cases still : (s.updateHistory c d.env false).history.isFull c with
    | false => exact request _ still cleaned requested (by simp [requestSendBufferTcp, full, still])
    | true => exact Or.inr ⟨_, cleaned, requested, by simp [requestSendBufferTcp, full, still]⟩

/-! ### Replies -/

/-- What sending a segment without data and flags can change. -/
def Replied (s s' : TcpSocket) : Prop :=
  s' = { s with
    history := s'.history, mempool := s'.mempool, ackTriggered := s'.ackTriggered
    trace := { s.trace with wire := s'.trace.wire } }

theorem HistoryOnly.replied (only : HistoryOnly s s') : Replied s s' := by
  unfold HistoryOnly at only
  unfold Replied
  rw [only]

theorem reply_actions (segment : TcpSocket → TcpSegment) (alive : d.Alive s) (runs : s.history.isFull c = true → d.updates)
    (bare : ∀ s, (segment s).data = [] ∧ (segment s).syn = false ∧ (segment s).fin = false) :
    let s' := match s.requestSendBufferTcp c d.env with
      | (some b, s) => s.transmit c d.env b (segment s) 0
      | (none, s) => s
    Actions c d (h, s) (h, s') ∧ (s.state ≠ .closed → Replied s s') := by
  intro s'
  rcases requestSendBufferTcp_actions (h := h) runs with
    ⟨s₁, actions, requested, room, granted, eq⟩ | ⟨s₁, actions, requested, eq⟩
  · have sent : s' = s₁.allocated.transmit c d.env s₁.mempool.nextBlock (segment s₁.allocated) 0 := by
      simp only [s', eq]
    refine ⟨sent ▸ actions.tail (.reply room granted (bare _) (fun closed => alive (requested.state ▸ closed))), fun open' => ?_⟩
    have only := requested.historyOnly open'
    unfold HistoryOnly at only
    rw [sent, Replied, only]
    rfl
  · have refused : s' = s₁ := by simp only [s', eq]
    exact ⟨refused ▸ actions, fun alive => refused ▸ (requested.historyOnly alive).replied⟩

theorem sendAckNum_actions (ackNum : SeqNum) (alive : d.Alive s) (runs : s.history.isFull c = true → d.updates) :
    Actions c d (h, s) (h, (s.sendAckNum c d.env ackNum).2) ∧
      (s.state ≠ .closed → Replied s (s.sendAckNum c d.env ackNum).2) := by
  have replied := reply_actions (h := h) (fun s => s.writeHeaderWithAck c ackNum) alive runs
    (fun _ => ⟨rfl, rfl, rfl⟩)
  have eq : (s.sendAckNum c d.env ackNum).2 = match s.requestSendBufferTcp c d.env with
      | (some b, s) => s.transmit c d.env b (s.writeHeaderWithAck c ackNum) 0
      | (none, s) => s := by
    unfold sendAckNum
    obtain ⟨granted, s₁⟩ := s.requestSendBufferTcp c d.env
    cases granted <;> rfl
  rw [eq]
  exact replied

theorem sendAck_actions (alive : d.Alive s) (runs : s.history.isFull c = true → d.updates) :
    Actions c d (h, s) (h, (s.sendAck c d.env).2) ∧ (s.state ≠ .closed → Replied s (s.sendAck c d.env).2) := by
  have sent := sendAckNum_actions (c := c) (h := h) (s := { s with ackTriggered := false })
    (s.receiveBuffer.getAckNum c) alive runs
  refine ⟨.head (.setAck false (by simp)) sent.1, fun open' => ?_⟩
  have replied := sent.2 open'
  unfold Replied at replied ⊢
  exact replied

theorem processAck_actions (alive : s.ackTriggered = true → d.Alive s) (runs : s.history.isFull c = true → d.updates) :
    Actions c d (h, s) (h, s.processAck c d.env) ∧ (s.state ≠ .closed → Replied s (s.processAck c d.env)) := by
  unfold processAck
  split
  · rename_i triggered
    exact sendAck_actions (alive triggered) runs
  · exact ⟨.refl, fun _ => rfl⟩

theorem ackFin_actions (alive : d.Alive s) (runs : s.history.isFull c = true → d.updates) :
    Actions c d (h, s) (h, s.ackFin c d.env) ∧ (s.state ≠ .closed → Replied s (s.ackFin c d.env)) :=
  sendAckNum_actions _ alive runs

theorem handleSyn_actions (input : d.input = some r) (alive : d.Alive s) (runs : s.history.isFull c = true → d.updates) :
    Actions c d (true, s) (false, s.handleSyn c d.env r) :=
  .head (.free input) (sendAck_actions (s := s.freeReceivedSegment r) alive runs).1

theorem handleSynFinal_actions (input : d.input = some r) (alive : d.Alive s) (runs : s.history.isFull c = true → d.updates) :
    Actions c d (true, s) (false, s.handleSynFinal c d.env r) :=
  .head (.free input) (sendAckNum_actions (s := s.freeReceivedSegment r) _ alive runs).1

theorem handleRst_actions (input : d.input = some r) (aborts : d.aborts)
    (same : d.start.Unfilled s) : Actions c d (true, s) (false, s.handleRst r) :=
  .head (.free input) (.single (.abort (.inr ⟨aborts, same.receiveBuffer, same.nextBlock⟩)))

theorem freeUnless_actions (input : d.input = some r) (h : Bool) :
    Actions c d (h, s) (false, s.freeUnless h r) := by
  cases h with
  | true => exact .single (.free input)
  | false => exact .refl

/-- The inserted segment changes its owner. -/
theorem handleData_actions (input : d.input = some r) (state : s.takesData) (plain : r.segment.plain) :
    Actions c d (true, s)
      ((s.handleData c r r.segment.seqnum r.payloadLen).1, (s.handleData c r r.segment.seqnum r.payloadLen).2) := by
  unfold handleData
  split_ifs with payload
  · split
    · rename_i inserted
      exact .single (.insert input state plain payload inserted)
    · exact .single (.setAck true (fun _ => by rcases state with state | state | state <;> simp [state]))
  · exact .refl

end TcpSocket

end IPStack
