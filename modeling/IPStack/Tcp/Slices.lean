import IPStack.Tcp.Config

namespace IPStack

/-- `TCP_SlowStart_Slice`. -/
structure SlowStart where
  cwnd : BitVec 32
  sstresh : BitVec 32
  outstandingBytes : BitVec 16
deriving DecidableEq, Repr

namespace SlowStart

def initSlowStart (mss : BitVec 32) : SlowStart :=
  { cwnd := mss, sstresh := 0xFFFFFFFF, outstandingBytes := 0 }

def incrementCwnd (w : SlowStart) (mss : BitVec 32) (bytesAcked : BitVec 16) : SlowStart :=
  let cwnd :=
    if w.cwnd ≤ w.sstresh then w.cwnd + bytesAcked.setWidth 32
    else w.cwnd + bytesAcked.setWidth 32 * mss / w.cwnd
  { w with cwnd := if cwnd < w.cwnd then 0xFFFFFFFF else cwnd }

def dropCwnd (w : SlowStart) (mss : BitVec 32) : SlowStart :=
  if w.cwnd = mss then w
  else
    let sstresh := w.cwnd / 2
    { cwnd := mss, sstresh := if sstresh < 2 * mss then 2 * mss else sstresh, outstandingBytes := 0 }

def cwndOpened (w : SlowStart) : Bool := w.outstandingBytes.setWidth 32 < w.cwnd

/-- The advice before `set_seqnum_unacked`. -/
def acknowledge (w : SlowStart) (mss : BitVec 32) (acknum unacked : SeqNum) : SlowStart :=
  let acked := (acknum - unacked).setWidth 16
  let outstanding := if acked < w.outstandingBytes then w.outstandingBytes - acked else 0
  incrementCwnd { w with outstandingBytes := outstanding } mss acked

end SlowStart

/-- `TCP_RTT_Estimation_Slice`; `srtt` and `rttVar` are signed. -/
structure RttEstimation where
  rttSeqnum : SeqNum
  rrtTime : BitVec 64
  rrtActive : Bool
  srtt : BitVec 32
  rttVar : BitVec 32
  rto : BitVec 32
deriving DecidableEq, Repr

namespace RttEstimation

def lowerRtoBound : BitVec 32 := 200

def upperRtoBound : BitVec 32 := 64000

def updateSrtt (t : RttEstimation) (meassuredRtt : BitVec 32) : RttEstimation :=
  if t.srtt = 0 then
    let rttVar := meassuredRtt <<< 1
    { t with srtt := meassuredRtt <<< 3, rttVar := rttVar, rto := meassuredRtt + rttVar <<< 1 }
  else
    let error := meassuredRtt - t.srtt.sshiftRight 3
    let srtt := t.srtt + error
    let error := if error.slt 0 then -error else error
    let rttVar := t.rttVar + (error - t.rttVar.sshiftRight 2)
    { t with srtt := srtt, rttVar := rttVar, rto := srtt.sshiftRight 3 + rttVar }

def rttInit (t : RttEstimation) : RttEstimation :=
  { t with rrtActive := false, srtt := 0, rttVar := 3000, rto := 6000 }

def start (t : RttEstimation) (seqnumNext : SeqNum) (now : BitVec 64) : RttEstimation :=
  if t.rrtActive then t else { t with rrtActive := true, rttSeqnum := seqnumNext, rrtTime := now }

/-- The exponential backoff, woven in before `abort_RTT_Estimation`. -/
def backoff (t : RttEstimation) : RttEstimation :=
  { t with rto := if t.rto < upperRtoBound then t.rto <<< 1 else upperRtoBound }

def abort (c : Config) (t : RttEstimation) : RttEstimation :=
  { (if c.exponentialBackoff then t.backoff else t) with rrtActive := false }

def update (c : Config) (t : RttEstimation) (acknum : SeqNum) (now : BitVec 64) : RttEstimation :=
  if t.rrtActive ∧ seqLt t.rttSeqnum acknum then
    let msec := c.clock.ticksToMs (now - t.rrtTime) &&& 0x7FFFFFFF
    let t := t.updateSrtt msec
    { t with rto := if t.rto < lowerRtoBound then lowerRtoBound else t.rto, rrtActive := false }
  else t

end RttEstimation

end IPStack
