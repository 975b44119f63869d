import Mathlib.Algebra.Group.Int.Defs
import Mathlib.Algebra.Group.Nat.Defs
import Mathlib.Data.List.Basic

namespace IPStack

abbrev SeqNum := BitVec 32

/-- `TCP_Segment::SEQ_LT`: the sign of the wrapped difference, as a signed 32-bit value. -/
def seqLt (a b : SeqNum) : Prop := (a - b).toInt < 0

def seqLeq (a b : SeqNum) : Prop := (a - b).toInt ≤ 0

def seqGt (a b : SeqNum) : Prop := 0 < (a - b).toInt

def seqGeq (a b : SeqNum) : Prop := 0 ≤ (a - b).toInt

instance (a b : SeqNum) : Decidable (seqLt a b) := inferInstanceAs (Decidable ((a - b).toInt < 0))
instance (a b : SeqNum) : Decidable (seqLeq a b) := inferInstanceAs (Decidable ((a - b).toInt ≤ 0))
instance (a b : SeqNum) : Decidable (seqGt a b) := inferInstanceAs (Decidable (0 < (a - b).toInt))
instance (a b : SeqNum) : Decidable (seqGeq a b) := inferInstanceAs (Decidable (0 ≤ (a - b).toInt))

/-- `TCP_Segment::DEFAULT_MSS`. -/
def defaultMss : Nat := 536

/-- A TCP segment in host byte order. `headerLen` is the data offset in 32-bit words,
`optionMss` is what `get_option_mss` reads from the option bytes (0: no such option),
and `data` are the bytes from `get_data()` on. -/
structure TcpSegment where
  sport : BitVec 16
  dport : BitVec 16
  seqnum : SeqNum
  acknum : SeqNum
  headerLen : BitVec 8
  fin : Bool
  syn : Bool
  rst : Bool
  psh : Bool
  ack : Bool
  window : BitVec 16
  optionMss : BitVec 16
  data : List UInt8
deriving DecidableEq, Repr

/-- The number of sequence numbers a segment occupies: one for each payload byte and
one each for SYN and FIN. -/
def TcpSegment.seqLen (segment : TcpSegment) : Nat :=
  segment.data.length + segment.syn.toNat + segment.fin.toNat

/-- A received segment in its memory block: the segment together with the number of TCP
bytes that were copied into the block (`ReceiveBuffer::m_receivedSize`). -/
structure ReceiveBuffer where
  block : Nat
  size : BitVec 16
  segment : TcpSegment
deriving DecidableEq, Repr

/-- `len - (segment->get_header_len()*4)`, the unsigned subtraction of the state handlers. -/
def ReceiveBuffer.payloadLen (r : ReceiveBuffer) : BitVec 32 :=
  r.size.setWidth 32 - r.segment.headerLen.setWidth 32 * 4

end IPStack
