import IPStack.Tcp.Socket

namespace IPStack

namespace TcpSocket

/-! ### CLOSED, LISTEN -/

def closed (s : TcpSocket) (segment : Option ReceiveBuffer) : TcpSocket :=
  match segment with
  | some r => { s.freeReceivedSegment r with waiting := false }
  | none => { s with waiting := false }

/-- The advice before `freeReceivedSegment` in `listen` and `synsent`: the smaller of the
two maximum segment sizes is used. -/
def adoptMss (c : Config) (s : TcpSocket) (segment : TcpSegment) : TcpSocket :=
  if c.mssOption ∧ segment.syn ∧ segment.optionMss ≠ 0 ∧ segment.optionMss.setWidth 32 < s.mss then
    s.setMss c (segment.optionMss.setWidth 32)
  else s

/-- The part of `listen` behind a successful buffer request: the answer to the SYN. -/
def listenIn (c : Config) (e : Env) (s : TcpSocket) (block : Nat) : TcpSocket :=
  let s := { s with state := .synrcvd }
  let segment := s.setSyn c (s.writeHeaderWithAck c (s.receiveBuffer.getAckNum c))
  let s := { s with seqnumNext := s.seqnumNext + 1 }
  s.transmit c e block segment (s.getRto c)

/-- `handleRST` in LISTEN frees the segment in another function, so that no advice runs. -/
def listenSegment (c : Config) (e : Env) (s : TcpSocket) (r : ReceiveBuffer) : TcpSocket :=
  if r.segment.rst then s.handleRst r
  else
    let s := { s with receiveBuffer := s.receiveBuffer.setFirstSeqNum (r.segment.seqnum + 1) }
    let s := (s.adoptMss c r.segment).freeReceivedSegment r
    match s.requestSendBufferTcp c e with
    | (some b, s) => s.listenIn c e b
    | (none, s) => s

def listenState (c : Config) (e : Env) (s : TcpSocket) (segment : Option ReceiveBuffer) : TcpSocket :=
  match segment with
  | some r => s.listenSegment c e r
  | none => s

/-! ### SYNSENT, SYNRCVD -/

/-- The answer to an unacceptable acknowledgement in SYNSENT. -/
def synsentReset (c : Config) (e : Env) (s : TcpSocket) (acknum : SeqNum) : TcpSocket :=
  match s.requestSendBufferTcp c e with
  | (some b, s) => s.transmit c e b { s.writeHeader c with seqnum := acknum, rst := true } 0
  | (none, s) => s

/-- The peer's SYN+ACK acknowledged our SYN. -/
def synsentEstablish (c : Config) (e : Env) (s : TcpSocket) (segment : TcpSegment) : TcpSocket :=
  let s := { s with state := .established }
  let s := s.initSendWindow segment.window segment.seqnum segment.acknum
  let s := { s with receiveBuffer := s.receiveBuffer.setFirstSeqNum (segment.seqnum + 1) }
  match s.clearHistory.sendAck c e with
  | (true, s) => { s with waiting := false }
  | (false, s) => s

/-- The part of the simultaneous open behind a successful buffer request. -/
def synsentSimultaneousIn (c : Config) (e : Env) (s : TcpSocket) (block : Nat) : TcpSocket :=
  let s := { s with state := .synrcvd }
  let answer := { s.writeHeaderWithAck c (s.receiveBuffer.getAckNum c) with seqnum := s.seqnumNext - 1 }
  s.transmit c e block (s.setSyn c answer) (s.getRto c)

/-- A SYN without acknowledgement: simultaneous open. Our SYN is taken out of the history
before the buffer for the SYN+ACK is requested. -/
def synsentSimultaneous (c : Config) (e : Env) (s : TcpSocket) (segment : TcpSegment) : TcpSocket :=
  let s := s.clearHistory
  let s := { s with receiveBuffer := s.receiveBuffer.setFirstSeqNum (segment.seqnum + 1) }
  match s.requestSendBufferTcp c e with
  | (some b, s) => s.synsentSimultaneousIn c e b
  | (none, s) => s

def synsentSegment (c : Config) (e : Env) (s : TcpSocket) (r : ReceiveBuffer) : TcpSocket :=
  let segment := r.segment
  let s := (s.adoptMss c segment).freeReceivedSegment r
  if segment.ack then
    if segment.syn then
      let s := s.handleAck c e segment.acknum
      if s.seqnumUnacked = s.seqnumNext then s.synsentEstablish c e segment
      else s.synsentReset c e segment.acknum
    else if segment.rst then
      if segment.acknum = s.seqnumNext then s.abort else s
    else s.synsentReset c e segment.acknum
  else if segment.syn then s.synsentSimultaneous c e segment
  else s

def synsent (c : Config) (e : Env) (s : TcpSocket) (segment : Option ReceiveBuffer) : TcpSocket :=
  match segment with
  | some r => s.synsentSegment c e r
  | none => s.updateHistory c e true

/-- `send` of the first record's buffer, as `synrcvd` does it for a repeated SYN. -/
def resendFirst (s : TcpSocket) : TcpSocket :=
  match s.history with
  | [] => s
  | record :: rest =>
    let sent := s.send record.sendbuffer
    { sent.2 with history := { record with sendbuffer := sent.1 } :: rest }

def synrcvdAck (c : Config) (e : Env) (s : TcpSocket) (segment : TcpSegment) : TcpSocket :=
  let s := s.handleAck c e segment.acknum
  if segment.acknum = s.seqnumNext then
    let s := { s with state := .established }
    let s := s.initSendWindow segment.window segment.seqnum segment.acknum
    { s.clearHistory with waiting := false }
  else s

def synrcvdSegment (c : Config) (e : Env) (s : TcpSocket) (r : ReceiveBuffer) : TcpSocket :=
  if r.segment.rst then s.handleRst r
  else
    let s :=
      if r.segment.ack then s.synrcvdAck c e r.segment
      else if r.segment.syn then s.resendFirst
      else s
    s.freeReceivedSegment r

def synrcvd (c : Config) (e : Env) (s : TcpSocket) (segment : Option ReceiveBuffer) : TcpSocket :=
  match segment with
  | some r => s.synrcvdSegment c e r
  | none => s.updateHistory c e true

/-! ### ESTABLISHED -/

/-- The acknowledgement number of a segment with the ACK flag. -/
def acceptAck (c : Config) (e : Env) (s : TcpSocket) (segment : TcpSegment) : TcpSocket :=
  if segment.ack then s.handleAck c e segment.acknum else s

/-- `if (needToFree == true) freeReceivedSegment(segment)`. -/
def freeUnless (needToFree : Bool) (s : TcpSocket) (r : ReceiveBuffer) : TcpSocket :=
  if needToFree then s.freeReceivedSegment r else s

def establishedSegment (c : Config) (e : Env) (s : TcpSocket) (r : ReceiveBuffer) : TcpSocket :=
  let segment := r.segment
  if segment.rst then s.handleRst r
  else if segment.syn then s.handleSyn c e r
  else
    let s := s.acceptAck c e segment
    let s := s.handleFin segment segment.seqnum r.payloadLen
    let data := s.handleData c r segment.seqnum r.payloadLen
    let s := data.2.updateSendWindow segment segment.seqnum segment.acknum
    let s := s.freeUnless data.1 r
    let s := if s.finComplete c then { s.ackFin c e with state := .closewait } else s
    if s.getReceiveWindow c = 0 then s.triggerAck else s

/-- `copyData` into the application's buffer, which starts behind the copied bytes then. -/
def readToApplication (c : Config) (s : TcpSocket) (len : BitVec 32) : TcpSocket :=
  { s.copyToApplication c len with
    applicationBuf := s.applicationBuf.drop len.toNat, applicationBuflen := s.applicationBuflen - len }

/-- A waiting `receive` takes what the receive buffer holds. -/
def establishedReceive (c : Config) (e : Env) (s : TcpSocket) : TcpSocket :=
  let recvBytes := s.receiveBuffer.getRecvBytes c
  if 0 < recvBytes then
    let pushed := s.receiveBuffer.pushFlag
    let copyBytes := if s.applicationBuflen < recvBytes then s.applicationBuflen else recvBytes
    let s := (s.readToApplication c copyBytes).processAck c e
    if s.applicationBuflen = 0 ∨ pushed then { s with receiving := false, waiting := false } else s
  else s.processAck c e

/-- `waiting = false` once everything is sent and the history is empty. -/
def finishSending (s : TcpSocket) : TcpSocket :=
  if s.applicationBuflen = 0 ∧ s.history = [] then { s with waiting := false } else s

def establishedIdle (c : Config) (e : Env) (s : TcpSocket) : TcpSocket :=
  let s := s.updateHistory c e true
  if s.receiving then s.establishedReceive c e
  else if s.waiting then ((s.processAck c e).processSendData c e).finishSending
  else s

def established (c : Config) (e : Env) (s : TcpSocket) (segment : Option ReceiveBuffer) : TcpSocket :=
  match segment with
  | some r => s.establishedSegment c e r
  | none => s.establishedIdle c e

/-! ### FINWAIT1, FINWAIT2 -/

def finwait1Segment (c : Config) (e : Env) (s : TcpSocket) (r : ReceiveBuffer) : TcpSocket :=
  let segment := r.segment
  if segment.rst then s.handleRst r
  else if segment.syn then s.handleSyn c e r
  else
    let s := s.acceptAck c e segment
    let s := s.handleFin segment segment.seqnum r.payloadLen
    let data := s.handleData c r segment.seqnum r.payloadLen
    let finAcked : Bool := segment.ack ∧ segment.acknum = data.2.seqnumNext
    let s := data.2.freeUnless data.1 r
    if s.finComplete c then { s.ackFin c e with state := if finAcked then .timewait else .closing } else s

/-- The empty history stands for the acknowledgement of our FIN. -/
def finwait1Idle (c : Config) (e : Env) (s : TcpSocket) : TcpSocket :=
  let s := (s.updateHistory c e true).processAck c e
  if s.history = [] then { s with state := .finwait2 } else s

def finwait1 (c : Config) (e : Env) (s : TcpSocket) (segment : Option ReceiveBuffer) : TcpSocket :=
  match segment with
  | some r => s.finwait1Segment c e r
  | none => s.finwait1Idle c e

def finwait2Segment (c : Config) (e : Env) (s : TcpSocket) (r : ReceiveBuffer) : TcpSocket :=
  let segment := r.segment
  if segment.rst then s.handleRst r
  else if segment.syn then s.handleSyn c e r
  else
    let s := s.handleFin segment segment.seqnum r.payloadLen
    let data := s.handleData c r segment.seqnum r.payloadLen
    let s := data.2.freeUnless data.1 r
    if s.finComplete c then { s.ackFin c e with state := .timewait } else s

def finwait2 (c : Config) (e : Env) (s : TcpSocket) (segment : Option ReceiveBuffer) : TcpSocket :=
  match segment with
  | some r => s.finwait2Segment c e r
  | none => (s.updateHistory c e true).processAck c e

/-! ### CLOSEWAIT -/

/-- Our acknowledgement of the peer's FIN was lost. -/
def repeatFinAck (c : Config) (e : Env) (s : TcpSocket) (segment : TcpSegment) : TcpSocket :=
  if segment.fin then s.ackFin c e else s

def closewaitSegment (c : Config) (e : Env) (s : TcpSocket) (r : ReceiveBuffer) : TcpSocket :=
  let segment := r.segment
  if segment.rst then s.handleRst r
  else if segment.syn then s.handleSynFinal c e r
  else
    let s := (s.acceptAck c e segment).repeatFinAck c e segment
    (s.updateSendWindow segment segment.seqnum segment.acknum).freeReceivedSegment r

/-- A waiting `receive` in CLOSEWAIT returns at once with what is left. -/
def closewaitReceive (c : Config) (s : TcpSocket) : TcpSocket :=
  let recvBytes := s.receiveBuffer.getRecvBytes c
  let s := if recvBytes < s.applicationBuflen then { s with applicationBuflen := recvBytes } else s
  { s.copyToApplication c s.applicationBuflen with receiving := false, waiting := false }

def closewaitIdle (c : Config) (e : Env) (s : TcpSocket) : TcpSocket :=
  let s := s.updateHistory c e true
  if s.receiving then s.closewaitReceive c
  else if s.waiting then (s.processSendData c e).finishSending
  else s

def closewait (c : Config) (e : Env) (s : TcpSocket) (segment : Option ReceiveBuffer) : TcpSocket :=
  match segment with
  | some r => s.closewaitSegment c e r
  | none => s.closewaitIdle c e

/-! ### LASTACK, CLOSING, TIMEWAIT -/

def lastackSegment (c : Config) (e : Env) (s : TcpSocket) (r : ReceiveBuffer) : TcpSocket :=
  if r.segment.rst then s.handleRst r
  else if r.segment.syn then s.handleSynFinal c e r
  else (s.acceptAck c e r.segment).freeReceivedSegment r

def lastackIdle (c : Config) (e : Env) (s : TcpSocket) : TcpSocket :=
  let s := s.updateHistory c e true
  if s.history = [] then s.abort else s

def lastack (c : Config) (e : Env) (s : TcpSocket) (segment : Option ReceiveBuffer) : TcpSocket :=
  match segment with
  | some r => s.lastackSegment c e r
  | none => s.lastackIdle c e

def closingSegment (c : Config) (e : Env) (s : TcpSocket) (r : ReceiveBuffer) : TcpSocket :=
  if r.segment.rst then s.handleRst r
  else if r.segment.syn then s.handleSynFinal c e r
  else ((s.acceptAck c e r.segment).repeatFinAck c e r.segment).freeReceivedSegment r

def closingIdle (c : Config) (e : Env) (s : TcpSocket) : TcpSocket :=
  let s := s.updateHistory c e true
  if s.history = [] then { s with state := .timewait } else s

def closing (c : Config) (e : Env) (s : TcpSocket) (segment : Option ReceiveBuffer) : TcpSocket :=
  match segment with
  | some r => s.closingSegment c e r
  | none => s.closingIdle c e

def timewaitSegment (c : Config) (e : Env) (s : TcpSocket) (r : ReceiveBuffer) : TcpSocket :=
  if r.segment.rst then s.handleRst r
  else if r.segment.syn then s.handleSynFinal c e r
  else (s.repeatFinAck c e r.segment).freeReceivedSegment r

/-- TIMEWAIT ends after a `block` of twice the retransmission timeout. -/
def timewaitIdle (c : Config) (e : Env) (s : TcpSocket) : TcpSocket :=
  let s := s.updateHistory c e true
  if e.timeoutReached then s.abort else s

def timewait (c : Config) (e : Env) (s : TcpSocket) (segment : Option ReceiveBuffer) : TcpSocket :=
  match segment with
  | some r => s.timewaitSegment c e r
  | none => s.timewaitIdle c e

/-- `TCP_Socket::input`, the state machine switch. -/
def input (c : Config) (e : Env) (s : TcpSocket) (segment : Option ReceiveBuffer) : TcpSocket :=
  match s.state with
  | .closed => s.closed segment
  | .listen => s.listenState c e segment
  | .synsent => s.synsent c e segment
  | .synrcvd => s.synrcvd c e segment
  | .established => s.established c e segment
  | .finwait1 => s.finwait1 c e segment
  | .finwait2 => s.finwait2 c e segment
  | .closewait => s.closewait c e segment
  | .lastack => s.lastack c e segment
  | .closing => s.closing c e segment
  | .timewait => s.timewait c e segment

end TcpSocket

end IPStack
