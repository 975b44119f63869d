import IPStack.Tcp.History
import IPStack.Tcp.ReceiveBuffer
import IPStack.Tcp.Slices

namespace IPStack

inductive TcpState
  | closed
  | listen
  | synsent
  | synrcvd
  | established
  | finwait1
  | finwait2
  | closewait
  | lastack
  | closing
  | timewait
deriving DecidableEq, Repr

/-- The socket's memory pool, as far as the socket can tell its blocks apart: every
allocation is a new block, and `freed` lists the blocks in the order of their return. -/
structure Mempool where
  nextBlock : Nat
  requests : Nat
  freed : List Nat
deriving DecidableEq, Repr

def Mempool.free (m : Mempool) (block : Nat) : Mempool := { m with freed := block :: m.freed }

def Mempool.freeAll (m : Mempool) (blocks : List Nat) : Mempool := { m with freed := blocks ++ m.freed }

/-- Observations of a run that no function of the socket reads: the segments handed to
the interface (newest first), the window of the last accepted window update, the sequence
number of the last zero window probe, whether the connection was aborted, and how many calls
of `send` got a buffer that was not in the writing state. -/
structure Trace where
  wire : List TcpSegment
  lastWindow : BitVec 16
  lastProbe : Option SeqNum
  aborted : Bool
  refused : Nat
deriving DecidableEq, Repr

/-- `TCP_Socket` with the members of the slices woven into it. `applicationBuf` holds the
bytes from the source's pointer on, `applicationRecv` the bytes copied out by the
current `receive`. -/
structure TcpSocket where
  state : TcpState
  receiving : Bool
  applicationRecvLen : BitVec 32
  applicationRecv : List UInt8
  receiveBuffer : TcpReceiveBuffer
  maxReceiveWindowMss : BitVec 32
  maxReceiveWindowBytes : BitVec 32
  seqnumUnacked : SeqNum
  seqnumNext : SeqNum
  history : TcpHistory
  sendWindow : BitVec 16
  lwack : SeqNum
  lwseq : SeqNum
  mempool : Mempool
  packetbuffer : List ReceiveBuffer
  finReceived : Bool
  finSeqnum : SeqNum
  ackTriggered : Bool
  dport : BitVec 16
  sport : BitVec 16
  mss : BitVec 32
  applicationBuf : List UInt8
  applicationBuflen : BitVec 32
  waiting : Bool
  slowStart : SlowStart
  retransmitting : Bool
  rtt : RttEstimation
  trace : Trace
deriving DecidableEq, Repr

namespace TcpSocket

/-! ### Memory -/

/-- `freeReceivedSegment`. -/
def freeReceivedSegment (s : TcpSocket) (r : ReceiveBuffer) : TcpSocket :=
  { s with mempool := s.mempool.free r.block }

/-- `requestSendBuffer`. A block whose headers could not be prepared is not returned to
the pool. -/
def requestSendBuffer (e : Env) (s : TcpSocket) : Option Nat × TcpSocket :=
  let m := { s.mempool with requests := s.mempool.requests + 1 }
  match e.alloc s.mempool.requests with
  | .noMemory => (none, { s with mempool := m })
  | .invalid => (none, { s with mempool := { m with nextBlock := m.nextBlock + 1 } })
  | .ok => (some m.nextBlock, { s with mempool := { m with nextBlock := m.nextBlock + 1 } })

/-- `addToReceiveQueue`, called only while the packet buffer is not full. -/
def addToReceiveQueue (c : Config) (e : Env) (s : TcpSocket) (segment : TcpSegment) (size : BitVec 16) :
    TcpSocket :=
  if c.packetLimit ≤ s.packetbuffer.length + 1 then s
  else
    let m := { s.mempool with requests := s.mempool.requests + 1 }
    match e.alloc s.mempool.requests with
    | .ok =>
      { s with
        mempool := { m with nextBlock := m.nextBlock + 1 }
        packetbuffer := s.packetbuffer ++ [⟨m.nextBlock, size, segment⟩] }
    | _ => { s with mempool := m }

/-! ### Life cycle -/

def initSlowStart (c : Config) (s : TcpSocket) : TcpSocket :=
  if c.slowStart then { s with slowStart := SlowStart.initSlowStart s.mss } else s

/-- `setMSS` of a 32-bit machine. -/
def setMss (c : Config) (s : TcpSocket) (maxSegmentSize : BitVec 32) : TcpSocket :=
  let maxRecvWnd : BitVec 64 := s.maxReceiveWindowMss.setWidth 64 * maxSegmentSize.setWidth 64
  initSlowStart c
    { s with
      mss := maxSegmentSize
      maxReceiveWindowBytes := if 0xFFFFFFFF#64 < maxRecvWnd then 0xFFFFFFFF else maxRecvWnd.setWidth 32 }

def resetSocketState (s : TcpSocket) : TcpSocket :=
  { s with
    state := .closed
    receiving := false
    maxReceiveWindowMss := 1
    maxReceiveWindowBytes := 536
    finReceived := false
    ackTriggered := false
    mss := 536
    applicationBuflen := 0
    waiting := false }

def clearHistory (s : TcpSocket) : TcpSocket :=
  { s with mempool := s.mempool.freeAll (s.history.map TcpRecord.block), history := [] }

def abort (s : TcpSocket) : TcpSocket :=
  let s := s.clearHistory
  let s :=
    { s with mempool := s.mempool.freeAll (s.packetbuffer.map ReceiveBuffer.block), packetbuffer := [] }
  { s.resetSocketState with trace := { s.trace with aborted := true } }

/-- The constructors of `TCP_Socket` and of the socket template of the API, run over a
piece of memory: members they do not mention keep what the memory held. The pool is new,
and the observations begin. -/
def construct (c : Config) (memory : TcpSocket) : TcpSocket :=
  let s :=
    { memory with
      receiveBuffer := memory.receiveBuffer.construct c
      history := []
      mempool := ⟨0, 0, []⟩
      packetbuffer := []
      dport := 0
      sport := 0
      trace := ⟨[], 0, none, false, 0⟩ }
  let s := s.resetSocketState
  let s := if c.mssOption then s.setMss c c.recalculatedMss else s
  { s with maxReceiveWindowMss := c.countBig }

/-- `gen_initial_seqnum`: one sequence number every four microseconds. -/
def genInitialSeqnum (c : Config) (e : Env) (s : TcpSocket) : TcpSocket :=
  let usec : BitVec 64 := (c.clock.ticksToMs e.now).setWidth 64 * 1000
  let seqnum : SeqNum := (usec / 4).setWidth 32
  let s := { s with seqnumNext := seqnum, seqnumUnacked := seqnum }
  if c.rttEstimation then { s with rtt := s.rtt.rttInit } else s

/-! ### Windows and timeouts -/

def getRto (c : Config) (s : TcpSocket) : BitVec 32 := if c.rttEstimation then s.rtt.rto else 6000

def getReceiveWindow (c : Config) (s : TcpSocket) : BitVec 16 :=
  if s.state = .synsent ∨ s.state = .closed then 536
  else
    let currRecvWnd := s.maxReceiveWindowBytes - s.receiveBuffer.getRecvBytes c
    if 0xFFFF#32 < currRecvWnd then 0xFFFF else currRecvWnd.setWidth 16

def getSendWindow (c : Config) (s : TcpSocket) : BitVec 16 :=
  if c.slowStart then
    if s.slowStart.cwndOpened ∧ s.retransmitting = false then s.sendWindow else 0
  else s.sendWindow

def lowerSendWindow (c : Config) (s : TcpSocket) (subtract : BitVec 16) : TcpSocket :=
  let s := { s with sendWindow := s.sendWindow - subtract }
  if c.slowStart then
    { s with slowStart := { s.slowStart with outstandingBytes := s.slowStart.outstandingBytes + subtract } }
  else s

def initSendWindow (s : TcpSocket) (window : BitVec 16) (seqnum acknum : SeqNum) : TcpSocket :=
  { s with
    sendWindow := window, lwseq := seqnum, lwack := acknum, trace := { s.trace with lastWindow := window } }

/-- The two early returns of `updateSendWindow` are not taken. -/
def acceptsWindow (s : TcpSocket) (seqnum acknum : SeqNum) : Prop :=
  ¬ seqLt seqnum s.lwseq ∧ ¬ (seqnum = s.lwseq ∧ seqLt acknum s.lwack)

instance (s : TcpSocket) (seqnum acknum : SeqNum) : Decidable (s.acceptsWindow seqnum acknum) :=
  inferInstanceAs (Decidable (_ ∧ _))

def updateSendWindow (s : TcpSocket) (segment : TcpSegment) (seqnum acknum : SeqNum) : TcpSocket :=
  if s.acceptsWindow seqnum acknum then s.initSendWindow segment.window seqnum acknum else s

/-! ### Sending -/

/-- `writeHeader`. -/
def writeHeader (c : Config) (s : TcpSocket) : TcpSegment :=
  { sport := s.sport, dport := s.dport, seqnum := s.seqnumNext, acknum := 0, headerLen := 5,
    fin := false, syn := false, rst := false, psh := false, ack := false,
    window := s.getReceiveWindow c, optionMss := 0, data := [] }

def writeHeaderWithAck (c : Config) (s : TcpSocket) (ack : SeqNum) : TcpSegment :=
  { s.writeHeader c with ack := true, acknum := ack }

/-- `set_SYN` with the advice that appends the MSS option. -/
def setSyn (c : Config) (s : TcpSocket) (segment : TcpSegment) : TcpSegment :=
  if c.mssOption then
    { segment with syn := true, optionMss := s.mss.setWidth 16, headerLen := segment.headerLen + 1 }
  else { segment with syn := true }

/-- `send`: only a buffer in the writing state reaches the interface. -/
def send (s : TcpSocket) (b : SendBuffer) : SendBuffer × TcpSocket :=
  match b.state with
  | .writing => ({ b with state := .transmitted }, { s with trace := { s.trace with wire := b.segment :: s.trace.wire } })
  | _ => (b, { s with trace := { s.trace with refused := s.trace.refused + 1 } })

/-- `TCP_History::add`. -/
def historyAdd (c : Config) (e : Env) (s : TcpSocket) (b : SendBuffer) (msec : BitVec 32) : TcpSocket :=
  { s with history := ⟨timeoutAfter c e.now msec, b, 0⟩ :: s.history }

/-- `send` of a new buffer, followed by `TCP_History::add`. -/
def transmit (c : Config) (e : Env) (s : TcpSocket) (block : Nat) (segment : TcpSegment) (msec : BitVec 32) :
    TcpSocket :=
  let sent := s.send ⟨block, .writing, segment⟩
  sent.2.historyAdd c e sent.1 msec

/-! ### Retransmission -/

def setRetransmitting (c : Config) (s : TcpSocket) : TcpSocket :=
  let s :=
    if c.slowStart ∧ s.retransmitting = false then { s with slowStart := s.slowStart.dropCwnd s.mss } else s
  let s := if c.rttEstimation then { s with rtt := s.rtt.abort c } else s
  { s with retransmitting := true }

def clearRetransmitting (c : Config) (s : TcpSocket) : TcpSocket :=
  let s := if c.slowStart then { s with slowStart := { s.slowStart with outstandingBytes := 0 } } else s
  { s with retransmitting := false }

/-- `TCP_Socket::retransmit` without advice. -/
def retransmitBuffer (c : Config) (e : Env) (s : TcpSocket) (record : TcpRecord) : TcpSocket × TcpRecord :=
  let sent := s.send { record.sendbuffer with state := .writing }
  (sent.2, { record with sendbuffer := sent.1, timeout := timeoutAfter c e.now (s.getRto c) })

/-- The retransmission counter around `retransmit`: a record over the limit is not sent
again, and the state remembers that the connection is to be killed. -/
def retransmitCounted (c : Config) (e : Env) (s : TcpSocket) (record : TcpRecord) : TcpSocket × TcpRecord :=
  if c.retransmissionCounter then
    if c.maxRetransmissions < record.retransmissionCounter then ({ s with state := .closed }, record)
    else
      retransmitBuffer c e s { record with retransmissionCounter := record.retransmissionCounter + 1 }
  else retransmitBuffer c e s record

/-- The slow start around `retransmit`. The number added to `outstanding_bytes` takes the
header length in words off the segment's bytes. -/
def retransmitSlowStart (c : Config) (e : Env) (s : TcpSocket) (record : TcpRecord) : TcpSocket × TcpRecord :=
  if c.slowStart then
    if record.segment.seqnum = s.seqnumUnacked ∨ s.slowStart.cwndOpened then
      let segment := record.segment
      let payloadLen : BitVec 16 :=
        segment.headerLen.setWidth 16 * 4 + BitVec.ofNat 16 segment.data.length - segment.headerLen.setWidth 16
      retransmitCounted c e
        { s with slowStart := { s.slowStart with outstandingBytes := s.slowStart.outstandingBytes + payloadLen } }
        record
    else (s, record)
  else retransmitCounted c e s record

/-- `retransmit` with all its advice: the tracker first, the counter innermost. -/
def retransmit (c : Config) (e : Env) (s : TcpSocket) (record : TcpRecord) : TcpSocket × TcpRecord :=
  let s :=
    if c.retransmissionTracker ∧ record.segment.seqnum = s.seqnumUnacked then s.setRetransmitting c else s
  retransmitSlowStart c e s record

/-- The loop of `updateHistory` over the records, newest first. -/
def updateRecords (c : Config) (e : Env) (doRetransmit : Bool) : TcpSocket → TcpHistory → TcpSocket × TcpHistory
  | s, [] => (s, [])
  | s, record :: rest =>
    if record.released e s.seqnumUnacked then
      updateRecords c e doRetransmit { s with mempool := s.mempool.free record.block } rest
    else
      let kept := if doRetransmit ∧ record.isTimedOut e.now then s.retransmit c e record else (s, record)
      let next := updateRecords c e doRetransmit kept.1 rest
      (next.1, kept.2 :: next.2)

/-- `updateHistory` without the advice of the retransmission counter. -/
def updateHistoryBody (c : Config) (e : Env) (s : TcpSocket) (doRetransmit : Bool) : TcpSocket :=
  if e.interface then
    let s := if c.retransmissionTracker ∧ s.history = [] then s.clearRetransmitting c else s
    let updated := updateRecords c e doRetransmit s s.history
    { updated.1 with history := updated.2 }
  else s.clearHistory

def updateHistory (c : Config) (e : Env) (s : TcpSocket) (doRetransmit : Bool) : TcpSocket :=
  let s := s.updateHistoryBody c e doRetransmit
  if c.retransmissionCounter ∧ s.state = .closed then s.abort else s

/-- `requestSendBufferTCP`: a full history is cleaned up first. -/
def requestSendBufferTcp (c : Config) (e : Env) (s : TcpSocket) : Option Nat × TcpSocket :=
  if s.history.isFull c then
    let s := s.updateHistory c e false
    if s.history.isFull c then (none, s) else s.requestSendBuffer e
  else s.requestSendBuffer e

/-! ### Acknowledgements -/

def triggerAck (s : TcpSocket) : TcpSocket := { s with ackTriggered := true }

/-- `sendACK(ackNum)`. -/
def sendAckNum (c : Config) (e : Env) (s : TcpSocket) (ackNum : SeqNum) : Bool × TcpSocket :=
  match s.requestSendBufferTcp c e with
  | (some b, s) => (true, s.transmit c e b (s.writeHeaderWithAck c ackNum) 0)
  | (none, s) => (false, s)

/-- `sendACK()`. -/
def sendAck (c : Config) (e : Env) (s : TcpSocket) : Bool × TcpSocket :=
  let s := { s with ackTriggered := false }
  s.sendAckNum c e (s.receiveBuffer.getAckNum c)

def processAck (c : Config) (e : Env) (s : TcpSocket) : TcpSocket :=
  if s.ackTriggered then (s.sendAck c e).2 else s

/-- `set_seqnum_unacked`, with the slow start before and the RTT estimation after it. -/
def setSeqnumUnacked (c : Config) (e : Env) (s : TcpSocket) (acknum : SeqNum) : TcpSocket :=
  let s :=
    if c.slowStart then { s with slowStart := s.slowStart.acknowledge s.mss acknum s.seqnumUnacked } else s
  let s := { s with seqnumUnacked := acknum }
  if c.rttEstimation then { s with rtt := s.rtt.update c acknum e.now } else s

def handleAck (c : Config) (e : Env) (s : TcpSocket) (acknum : SeqNum) : TcpSocket :=
  if seqLeq acknum s.seqnumUnacked then s
  else if seqGt acknum s.seqnumNext then s
  else s.setSeqnumUnacked c e acknum

/-! ### Flags of a received segment -/

/-- `handleFIN`. -/
def handleFin (s : TcpSocket) (segment : TcpSegment) (seqnum : SeqNum) (payloadLen : BitVec 32) : TcpSocket :=
  if segment.fin ∧ s.finReceived = false then { s with finSeqnum := seqnum + payloadLen, finReceived := true }
  else s

/-- The test of `FIN_complete`. -/
def finComplete (c : Config) (s : TcpSocket) : Prop :=
  s.finReceived = true ∧ s.receiveBuffer.getAckNum c = s.finSeqnum

instance (c : Config) (s : TcpSocket) : Decidable (s.finComplete c) := inferInstanceAs (Decidable (_ ∧ _))

/-- `FIN_complete() == true` with the acknowledgement it sends. -/
def ackFin (c : Config) (e : Env) (s : TcpSocket) : TcpSocket := (s.sendAckNum c e (s.finSeqnum + 1)).2

/-- `handleData`; true if the caller must free the segment. -/
def handleData (c : Config) (s : TcpSocket) (r : ReceiveBuffer) (seqnum : SeqNum) (payloadLen : BitVec 32) :
    Bool × TcpSocket :=
  if 0 < payloadLen then
    match s.receiveBuffer.insert c r seqnum payloadLen with
    | some b => (false, { s with receiveBuffer := b }.triggerAck)
    | none => (true, s.triggerAck)
  else (true, s)

/-- `handleSYN` for a segment with the SYN flag. -/
def handleSyn (c : Config) (e : Env) (s : TcpSocket) (r : ReceiveBuffer) : TcpSocket :=
  ((s.freeReceivedSegment r).sendAck c e).2

/-- `handleSYN_final` for a segment with the SYN flag. -/
def handleSynFinal (c : Config) (e : Env) (s : TcpSocket) (r : ReceiveBuffer) : TcpSocket :=
  ((s.freeReceivedSegment r).sendAckNum c e (s.finSeqnum + 1)).2

/-- `handleRST` for a segment with the RST flag. -/
def handleRst (s : TcpSocket) (r : ReceiveBuffer) : TcpSocket := (s.freeReceivedSegment r).abort

/-! ### Application data -/

def min3 (a b c : BitVec 32) : BitVec 32 :=
  if a < b then (if a < c then a else c) else (if b < c then b else c)

/-- The part of `sendSegment` behind a successful buffer request. -/
def sendSegmentIn (c : Config) (e : Env) (s : TcpSocket) (block : Nat) (len : BitVec 32) : TcpSocket :=
  let segment := s.writeHeaderWithAck c (s.receiveBuffer.getAckNum c)
  let segment := { segment with data := s.applicationBuf.take len.toNat }
  let s := { s with applicationBuflen := s.applicationBuflen - len, applicationBuf := s.applicationBuf.drop len.toNat }
  let segment := if s.applicationBuflen = 0 then { segment with psh := true } else segment
  let s := { s with seqnumNext := s.seqnumNext + len }
  -- a zero window probe is sent with a closed window, which stays closed
  let s :=
    if s.sendWindow ≠ 0 then s.lowerSendWindow c (len.setWidth 16)
    else { s with trace := { s.trace with lastProbe := some segment.seqnum } }
  let s := if c.rttEstimation ∧ c.rttSampling then { s with rtt := s.rtt.start s.seqnumNext e.now } else s
  s.transmit c e block segment (s.getRto c)

def sendSegment (c : Config) (e : Env) (s : TcpSocket) (len : BitVec 32) : Bool × TcpSocket :=
  match s.requestSendBufferTcp c e with
  | (some b, s) => (true, s.sendSegmentIn c e b len)
  | (none, s) => (false, s)

def sendNextSegment (c : Config) (e : Env) (s : TcpSocket) : Bool × TcpSocket :=
  s.sendSegment c e (min3 ((s.getSendWindow c).setWidth 32) s.applicationBuflen s.mss)

/-- The loop of `processSendData` with an open window. -/
def sendLoop (c : Config) (e : Env) : Nat → TcpSocket → TcpSocket
  | 0, s => s
  | fuel + 1, s =>
    if 0 < s.applicationBuflen ∧ 0 < s.getSendWindow c then
      match s.sendNextSegment c e with
      | (true, s) => sendLoop c e fuel s
      | (false, s) => s
    else s

/-- Every segment of the loop takes a byte of application data or (with an mss of zero) a
record of the history, so this many rounds are enough. -/
def sendRounds (c : Config) (s : TcpSocket) : Nat := s.applicationBuflen.toNat + c.historyMaxPackets + 1

def processSendData (c : Config) (e : Env) (s : TcpSocket) : TcpSocket :=
  if s.applicationBuflen = 0 then s
  else if s.sendWindow = 0 then
    if s.history.getNextTimeout c e.now = 0 then (s.sendSegment c e 1).2 else s
  else sendLoop c e (s.sendRounds c) s

/-- `receiveBuffer.copyData` into the application's buffer, with the count of the bytes. -/
def copyToApplication (c : Config) (s : TcpSocket) (len : BitVec 32) : TcpSocket :=
  let copied := s.receiveBuffer.copyData c len
  { s with
    receiveBuffer := copied.2.2
    mempool := s.mempool.freeAll copied.2.1
    applicationRecv := s.applicationRecv ++ copied.1
    applicationRecvLen := s.applicationRecvLen + len }

end TcpSocket

end IPStack
