import IPStack.Tcp.Statemachine

namespace IPStack

namespace TcpSocket

/-- `listen()` of the socket without the advice that waits for a connection. -/
def listenBase (c : Config) (e : Env) (s : TcpSocket) : TcpSocket :=
  if s.state = .closed then
    { s.genInitialSeqnum c e with
      sendWindow := 0, state := .listen, waiting := true, trace := { s.trace with aborted := false } }
  else s

/-- The part of `connect()` behind a successful buffer request. -/
def connectIn (c : Config) (e : Env) (s : TcpSocket) (block : Nat) : TcpSocket :=
  let segment := s.setSyn c (s.writeHeader c)
  let s :=
    { s with
      seqnumNext := s.seqnumNext + 1, state := .synsent, waiting := true
      trace := { s.trace with aborted := false } }
  s.transmit c e block segment (s.getRto c)

/-- `connect()` up to its `recv_loop`, on a closed socket whose port is bound. -/
def connectBase (c : Config) (e : Env) (s : TcpSocket) : TcpSocket :=
  let s := { s.genInitialSeqnum c e with sendWindow := 0 }
  match s.requestSendBufferTcp c e with
  | (some b, s) => s.connectIn c e b
  | (none, s) => s

/-- The part of `close()` behind a successful buffer request. -/
def closeIn (c : Config) (e : Env) (s : TcpSocket) (block : Nat) : TcpSocket :=
  let segment := { s.writeHeaderWithAck c (s.receiveBuffer.getAckNum c) with fin := true }
  let next := if s.state = .closewait then TcpState.lastack else .finwait1
  let s := { s with seqnumNext := s.seqnumNext + 1, waiting := true }
  { s.transmit c e block segment (s.getRto c) with state := next }

/-- `close()` up to its `recv_loop`. -/
def closeBase (c : Config) (e : Env) (s : TcpSocket) : TcpSocket :=
  if s.state = .closewait ∨ s.state = .established then
    match s.requestSendBufferTcp c e with
    | (some b, s) => s.closeIn c e b
    | (none, s) => s
  else s

def isOpen (s : TcpSocket) : Prop := s.state = .established ∨ s.state = .closewait

instance (s : TcpSocket) : Decidable s.isOpen := inferInstanceAs (Decidable (_ ∨ _))

/-- `write()` up to its `recv_loop`. -/
def writeBase (s : TcpSocket) (data : List UInt8) : TcpSocket :=
  { s with applicationBuf := data, applicationBuflen := BitVec.ofNat 32 data.length, waiting := true }

/-- `receive()` up to its `recv_loop`; the most significant bit of the length is cleared. -/
def receiveBase (s : TcpSocket) (buffer : List UInt8) : TcpSocket :=
  { s with
    applicationBuf := buffer, applicationBuflen := BitVec.ofNat 32 buffer.length &&& 0x7FFFFFFF
    applicationRecvLen := 0, applicationRecv := [], receiving := true, waiting := true }

end TcpSocket

/-- The blocking call the socket's task is in. -/
inductive Call
  | connect
  | listen
  | write
  | receive
  | close
  /-- Whether a packet was processed since the call started. -/
  | poll (processed : Bool)
deriving DecidableEq, Repr

/-- A socket with the task that uses it: the call in progress, the bytes `receive` has
returned so far, and whether it has returned -2. -/
structure Machine where
  sock : TcpSocket
  call : Option Call
  returned : List UInt8
  endOfStream : Bool
deriving DecidableEq, Repr

/-- The steps of a socket: calls of the application, arrivals in the packet buffer, and
the next round of the call in progress. -/
inductive Event
  | connect
  | listen
  | write (data : List UInt8) (size_lt : data.length < 2 ^ 32)
  | receive (buffer : List UInt8) (size_lt : buffer.length < 2 ^ 32)
  | close
  | poll
  | setPorts (sport dport : BitVec 16)
  | setMaxReceiveWindow (max : BitVec 32)
  | arrive (segment : TcpSegment) (size : BitVec 16)
  | tick

namespace Machine

def construct (c : Config) (memory : TcpSocket) : Machine := ⟨memory.construct c, none, [], false⟩

/-- One round of `recv_loop`: the next packet, or the empty input. -/
def nextPacket (s : TcpSocket) : TcpSocket × Option ReceiveBuffer :=
  match s.packetbuffer with
  | [] => (s, none)
  | r :: rest => ({ s with packetbuffer := rest }, some r)

/-- In LISTEN the socket takes the packet's sender as its peer, before it is bound. -/
def listenPacket (s : TcpSocket) : TcpSocket × Option ReceiveBuffer :=
  match s.packetbuffer with
  | [] => (s, none)
  | r :: rest => ({ s with packetbuffer := rest, dport := r.segment.sport }, some r)

/-- The arguments `input` is called with in the next round of the call in progress. -/
def inputOf (e : Env) (m : Machine) : Option (TcpSocket × Option ReceiveBuffer) :=
  match m.call with
  | none => none
  | some (.poll _) => if m.sock.packetbuffer = [] then none else some (nextPacket m.sock)
  | some .listen =>
    if m.sock.state = .listen then
      if m.sock.packetbuffer = [] ∨ e.bindResult then some (listenPacket m.sock) else none
    else if m.sock.waiting then some (nextPacket m.sock) else none
  | some _ => if m.sock.waiting then some (nextPacket m.sock) else none

/-- A round of the call in progress that does not call `input`. -/
def settle (c : Config) (e : Env) (m : Machine) : Machine :=
  match m.call with
  | none => m
  | some .receive =>
    { m with
      call := none
      returned := m.returned ++ m.sock.applicationRecv
      endOfStream := m.endOfStream || (m.sock.applicationRecvLen = 0 ∧ m.sock.state = .closewait : Bool) }
  | some (.poll processed) =>
    { m with
      call := none
      sock := if processed then (m.sock.updateHistory c e true).processAck c e else m.sock }
  | some .listen =>
    match m.sock.state, listenPacket m.sock with
    | .listen, (s, some r) => { m with sock := s.freeReceivedSegment r }
    | .listen, (_, none) => m
    | .established, _ => { m with call := none }
    | _, _ => if m.sock.sport = 0 then { m with call := none } else { m with sock := m.sock.listenBase c e }
  | some _ => { m with call := none }

def tick (c : Config) (e : Env) (m : Machine) : Machine :=
  match m.inputOf e with
  | some (s, segment) =>
    { m with
      sock := s.input c e segment
      call := match m.call with
        | some (.poll _) => some (.poll true)
        | call => call }
  | none => m.settle c e

/-- A call of the application, made while no other call is in progress. -/
def begin (c : Config) (e : Env) (m : Machine) : Event → Machine
  | .connect =>
    if e.validAddresses ∧ m.sock.state = .closed then
      { m with sock := { m.sock with sport := e.freePort }.connectBase c e, call := some .connect }
    else m
  | .listen =>
    if m.sock.state = .established ∨ m.sock.sport = 0 then m
    else { m with sock := m.sock.listenBase c e, call := some .listen }
  | .write data _ =>
    if m.sock.isOpen then { m with sock := m.sock.writeBase data, call := some .write } else m
  | .receive buffer _ =>
    if m.sock.isOpen then { m with sock := m.sock.receiveBase buffer, call := some .receive } else m
  | .close => { m with sock := m.sock.closeBase c e, call := some .close }
  | .poll => if m.sock.isOpen then { m with call := some (.poll false) } else m
  | .setPorts sport dport => { m with sock := { m.sock with sport := sport, dport := dport } }
  | .setMaxReceiveWindow max => { m with sock := { m.sock with maxReceiveWindowMss := max } }
  | .arrive _ _ => m
  | .tick => m

def step (c : Config) (m : Machine) (a : Env × Event) : Machine :=
  match a.2 with
  | .tick => m.tick c a.1
  | .arrive segment size => { m with sock := m.sock.addToReceiveQueue c a.1 segment size }
  | event => if m.call = none then m.begin c a.1 event else m

end Machine

/-! ### A small build -/

namespace Sample

def config : Config where
  historyMaxPackets := 8
  receivebufferMaxPackets := 8
  packetLimit := 8
  maxRetransmissions := 2
  countBig := 1
  recalculatedMss := 536
  clock := clock
  slidingWindowReceive := true
  retransmissionCounter := true
  retransmissionTracker := false
  slowStart := false
  rttEstimation := false
  rttSampling := false
  exponentialBackoff := false
  mssOption := false
  historyMaxPackets_pos := by decide
  historyMaxPackets_lt := by decide

def envAt (now : BitVec 64) (now_lt : now.toNat < 2 ^ 63) : Env where
  now := now
  interface := true
  hasBeenSent _ := true
  alloc _ := .ok
  timeoutReached := false
  validAddresses := true
  freePort := 1024
  bindResult := true
  now_lt := now_lt

def env : Env := envAt 0 (by decide)

/-- Memory that was zero before the socket was constructed in it. -/
def memory : TcpSocket where
  state := .closed
  receiving := false
  applicationRecvLen := 0
  applicationRecv := []
  receiveBuffer := ⟨[], [], [], 0, 0, false⟩
  maxReceiveWindowMss := 0
  maxReceiveWindowBytes := 0
  seqnumUnacked := 0
  seqnumNext := 0
  history := []
  sendWindow := 0
  lwack := 0
  lwseq := 0
  mempool := ⟨0, 0, []⟩
  packetbuffer := []
  finReceived := false
  finSeqnum := 0
  ackTriggered := false
  dport := 0
  sport := 0
  mss := 0
  applicationBuf := []
  applicationBuflen := 0
  waiting := false
  slowStart := ⟨0, 0, 0⟩
  retransmitting := false
  rtt := ⟨0, 0, false, 0, 0, 0⟩
  trace := ⟨[], 0, none, false, 0⟩

def machine : Machine := Machine.construct config memory

def run (inputs : List (Env × Event)) : Machine := inputs.foldl (Machine.step config) machine

/-- A segment of the peer with the ACK flag. -/
def segment (seqnum acknum : SeqNum) (window : BitVec 16) (data : List UInt8) : TcpSegment where
  sport := 80
  dport := 1024
  seqnum := seqnum
  acknum := acknum
  headerLen := 5
  fin := false
  syn := false
  rst := false
  psh := false
  ack := true
  window := window
  optionMss := 0
  data := data

/-- The segment arrives, and the call in progress processes it. -/
def receives (s : TcpSegment) : List (Env × Event) :=
  [(env, .arrive s (20 + BitVec.ofNat 16 s.data.length)), (env, .tick)]

/-- The active open of a connection to a peer that starts at sequence number 1000. -/
def opening : List (Env × Event) :=
  (env, .connect) :: receives { segment 1000 1 1000 [] with syn := true } ++ [(env, .tick)]

end Sample

end IPStack
