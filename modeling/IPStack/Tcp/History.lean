import IPStack.Tcp.Config

namespace IPStack

/-- `SendBuffer::m_state`, without the states only the address resolution uses. -/
inductive SendBufferState
  | invalid
  | writing
  | transmitted
deriving DecidableEq, Repr

structure SendBuffer where
  block : Nat
  state : SendBufferState
  segment : TcpSegment
deriving DecidableEq, Repr

structure TcpRecord where
  timeout : BitVec 64
  sendbuffer : SendBuffer
  retransmissionCounter : BitVec 8
deriving DecidableEq, Repr

def TcpRecord.segment (r : TcpRecord) : TcpSegment := r.sendbuffer.segment

def TcpRecord.block (r : TcpRecord) : Nat := r.sendbuffer.block

/-- `TCP_Record::setTimeout`: the value stored for a timeout of `msec`. -/
def timeoutAfter (c : Config) (now : BitVec 64) (msec : BitVec 32) : BitVec 64 :=
  if msec ≠ 0 then now + c.clock.msToTicks msec else 0

def TcpRecord.isTimedOut (r : TcpRecord) (now : BitVec 64) : Bool :=
  if r.timeout ≠ 0 then r.timeout < now else false

def TcpRecord.getRemainingTime (c : Config) (r : TcpRecord) (now : BitVec 64) : BitVec 32 :=
  if r.timeout < now then 0 else c.clock.ticksToMs (r.timeout - now)

/-- The condition under which `updateHistory` frees a record: a segment that counts as
acknowledged, or one without retransmission timeout that has left the interface. -/
def TcpRecord.released (e : Env) (seqnumUnacked : SeqNum) (r : TcpRecord) : Prop :=
  r.timeout ≠ 0 ∧ seqLt r.segment.seqnum seqnumUnacked ∨ r.timeout = 0 ∧ e.hasBeenSent r.block = true

instance (e : Env) (seqnumUnacked : SeqNum) (r : TcpRecord) : Decidable (r.released e seqnumUnacked) :=
  inferInstanceAs (Decidable (_ ∨ _))

/-- `TCP_History`: the records in list order, newest first. The list and the free list
share an array of `TCP_HISTORY_MAX_PACKETS` records. -/
abbrev TcpHistory := List TcpRecord

def TcpHistory.isFull (c : Config) (h : TcpHistory) : Bool := c.historyMaxPackets ≤ h.length

/-- The search of `getNextTimeout` for the record that expires first. -/
def TcpHistory.minRecord (min : TcpRecord) : TcpHistory → TcpRecord
  | [] => min
  | current :: rest =>
    if current.timeout ≠ 0 ∧ current.timeout < min.timeout then TcpHistory.minRecord current rest
    else TcpHistory.minRecord min rest

def TcpHistory.getNextTimeout (c : Config) (now : BitVec 64) : TcpHistory → BitVec 32
  | [] => 0
  | head :: rest => (TcpHistory.minRecord head rest).getRemainingTime c now

end IPStack
