import IPStack.Lib.Serial
import IPStack.Tcp.ReceiveContinuous
import IPStack.Tcp.SingleSegment

/-! The counters of the receive buffer in both builds: what reading and storing do to the
acknowledgement number and to the number of buffered bytes. -/

namespace IPStack

open Serial

/-- A number up to half of the sequence space further on. -/
theorem seqLeq_add (a : SeqNum) {n : Nat} (near : n < 2 ^ 31) : seqLeq a (a + BitVec.ofNat 32 n) := by
  have away := toInt_sub_ofNat (w := 32) (p := 0) (q := n) (by omega) (by omega)
  have difference : a - (a + BitVec.ofNat 32 n) = BitVec.ofNat 32 0 - BitVec.ofNat 32 n := by
    rw [← sub_sub, sub_self]
    rfl
  rw [seqLeq, difference, away]
  omega

namespace TcpReceiveBuffer

variable {c : Config} {b b' : TcpReceiveBuffer} {r : ReceiveBuffer} {seqnum first : SeqNum} {len : BitVec 32}
  {l : List TcpRecvElement}

/-- What the counters of the build say about the list is true. -/
def Counted (c : Config) (b : TcpReceiveBuffer) : Prop := if c.slidingWindowReceive then b.Tracked else b.Aligned

theorem Counted.tracked (counted : b.Counted c) (sliding : c.slidingWindowReceive = true) : b.Tracked := by
  rwa [Counted, if_pos sliding] at counted

theorem Counted.aligned (counted : b.Counted c) (single : c.slidingWindowReceive = false) : b.Aligned := by
  rwa [Counted, if_neg (by simp [single])] at counted

theorem Tracked.counted (tracked : b.Tracked) (sliding : c.slidingWindowReceive = true) : b.Counted c := by
  rwa [Counted, if_pos sliding]

theorem Aligned.counted (aligned : b.Aligned) (single : c.slidingWindowReceive = false) : b.Counted c := by
  rwa [Counted, if_neg (by simp [single])]

theorem Counted.ackNum (counted : b.Counted c) : b.getAckNum c = b.readFirstSeqNum + b.getRecvBytes c := by
  cases build : c.slidingWindowReceive with
  | true =>
    have tracked := counted.tracked build
    rw [ackNum_eq build tracked.joined tracked.bytes, getRecvBytes_eq build]
  | false => exact (counted.aligned build).ackNum build

/-- An empty list holds nothing. -/
theorem Counted.empty (counted : b.Counted c) (empty : b.list = []) : b.getRecvBytes c = 0 := by
  cases build : c.slidingWindowReceive with
  | true =>
    have none : b.continuous = [] := (List.append_eq_nil_iff.mp empty).1
    rw [getRecvBytes_eq build, (counted.tracked build).bytes, none]
    rfl
  | false => rw [TcpSocket.getRecvBytes_single build, empty]; rfl

theorem Counted.setFirstSeqNum (counted : b.Counted c) (empty : b.list = []) (seqnum : SeqNum) :
    (b.setFirstSeqNum seqnum).Counted c := by
  obtain ⟨none, later⟩ := List.append_eq_nil_iff.mp empty
  cases build : c.slidingWindowReceive with
  | true =>
    have bytes := (counted.tracked build).bytes
    refine Tracked.counted ⟨?_, bytes, ?_⟩ build
    · change chain seqnum b.continuous = b.continuous
      rw [none]
      rfl
    · change chain _ b.rest = []
      rw [later]
      rfl
  | false =>
    have same : (b.setFirstSeqNum seqnum).list = [] := empty
    exact (aligned_of_empty same).counted build

/-- Reading moves bytes from the buffer to the left of the acknowledgement number. -/
theorem Counted.copyData (counted : b.Counted c) (held : len ≤ b.getRecvBytes c) :
    (b.copyData c len).2.2.Counted c ∧ (b.copyData c len).2.2.getRecvBytes c = b.getRecvBytes c - len ∧
      (b.copyData c len).2.2.getAckNum c = b.getAckNum c := by
  have first : (b.copyData c len).2.2.readFirstSeqNum = b.readFirstSeqNum + len := by
    unfold TcpReceiveBuffer.copyData copyDataSlidingWindow copyDataSingle
    split
    · rfl
    · cases b.list with
      | nil => rfl
      | cons head rest =>
        dsimp only
        split <;> rfl
  have counters : (b.copyData c len).2.2.Counted c ∧ (b.copyData c len).2.2.getRecvBytes c = b.getRecvBytes c - len := by
    cases build : c.slidingWindowReceive with
    | true =>
      have tracked := counted.tracked build
      rw [getRecvBytes_eq build] at held ⊢
      have copied : b.copyData c len = b.copyDataSlidingWindow len := if_pos build
      rw [copied]
      exact ⟨(tracked.copyData held).counted build, by rw [getRecvBytes_eq build]; rfl⟩
    | false =>
      have aligned := counted.aligned build
      refine ⟨(aligned.copyData build len).counted build, ?_⟩
      have copied : b.copyData c len = b.copyDataSingle len := if_neg (by simp [build])
      have one := aligned.single
      rw [TcpSocket.getRecvBytes_single build] at held ⊢
      rw [TcpSocket.getRecvBytes_single build, copied]
      unfold copyDataSingle
      cases elements : b.list with
      | nil =>
        rw [elements] at held
        have zero : len = 0 := BitVec.le_zero_iff.mp held
        have same : ({ b with readFirstSeqNum := b.readFirstSeqNum + len } : TcpReceiveBuffer).list = [] := elements
        rw [same, zero]
        rfl
      | cons head rest =>
        rw [elements, List.length_cons] at one
        have last : rest = [] := List.eq_nil_of_length_eq_zero (by omega)
        dsimp only
        split_ifs with whole
        · simp [list, last, whole]
        · simp [list, TcpRecvElement.increment]
  obtain ⟨kept, bytes⟩ := counters
  refine ⟨kept, bytes, ?_⟩
  rw [kept.ackNum, counted.ackNum, first, bytes, add_assoc, add_sub_cancel]

/-- The elements that become readable when the segment is stored: the segment itself if it starts
at the acknowledgement number, and the elements that then join. -/
def joining (c : Config) (b : TcpReceiveBuffer) (r : ReceiveBuffer) (seqnum : SeqNum) (len : BitVec 32) : List TcpRecvElement :=
  let element := TcpRecvElement.setSegment (b.free.headD 0) r len seqnum
  if c.slidingWindowReceive then chain (b.getAckNum c) ((b.search element).getD []) else [element]

theorem joining_chain (counted : b.Counted c) (inserted : b.insert c r seqnum len = some b') :
    chain (b.getAckNum c) (b.joining c r seqnum len) = b.joining c r seqnum len := by
  unfold joining
  cases build : c.slidingWindowReceive with
  | true => exact chain_chain _ _
  | false =>
    rw [TcpReceiveBuffer.insert, if_neg (by simp [build])] at inserted
    obtain ⟨starts, empty, -⟩ := insertSingle_eq inserted
    have here : b.getAckNum c = seqnum := by
      rw [counted.ackNum, counted.empty empty, starts]
      exact add_zero _
    simp [chain, here]

/-- Storing moves the acknowledgement number over what has become readable. -/
theorem Counted.insert (counted : b.Counted c) (inserted : b.insert c r seqnum len = some b') :
    b'.Counted c ∧ b'.getRecvBytes c = b.getRecvBytes c + lengths (b.joining c r seqnum len) ∧
      b'.getAckNum c = b.getAckNum c + lengths (b.joining c r seqnum len) := by
  have counters : b'.Counted c ∧ b'.readFirstSeqNum = b.readFirstSeqNum ∧
      b'.getRecvBytes c = b.getRecvBytes c + lengths (b.joining c r seqnum len) := by
    cases build : c.slidingWindowReceive with
    | true =>
      have tracked := counted.tracked build
      rw [TcpReceiveBuffer.insert, if_pos build] at inserted
      obtain ⟨slot, free, slots, -, rest, found, rfl⟩ := tracked.inserted_eq inserted
      have joined : b.joining c r seqnum len = chain (b.readFirstSeqNum + b.recvBytes) rest := by
        simp [joining, build, slots, found, ackNum_eq build tracked.joined tracked.bytes]
      refine ⟨(tracked.stored rest free _).counted build, rfl, ?_⟩
      rw [getRecvBytes_eq build, getRecvBytes_eq build, joined]
      rfl
    | false =>
      have kept := (aligned_insert build inserted).counted build
      rw [TcpReceiveBuffer.insert, if_neg (by simp [build])] at inserted
      obtain ⟨starts, empty, rfl⟩ := insertSingle_eq inserted
      refine ⟨kept, rfl, ?_⟩
      have none : b.continuous = [] := (List.append_eq_nil_iff.mp empty).1
      rw [counted.empty empty, TcpSocket.getRecvBytes_single build]
      simp [joining, build, list, none]
  obtain ⟨kept, first, bytes⟩ := counters
  refine ⟨kept, bytes, ?_⟩
  rw [kept.ackNum, counted.ackNum, first, bytes, add_assoc]

/-- Contiguous elements that end within a limit are not longer than the limit. -/
theorem total_le_of_inside {start limit : Nat} (joined : chain (first + BitVec.ofNat 32 start) l = l) (begins : start ≤ limit)
    (limit_lt : limit < 2 ^ 32) (inside : ∀ element ∈ l, gap first element.seqNum + element.len.toNat ≤ limit) :
    start + total l ≤ limit := by
  induction l generalizing start with
  | nil => exact begins
  | cons element rest ih =>
    obtain ⟨starts, later⟩ := chain_cons joined
    have ends := inside element List.mem_cons_self
    rw [starts, gap_add_ofNat first (by omega)] at ends
    have next : first + BitVec.ofNat 32 start + element.len = first + BitVec.ofNat 32 (start + element.len.toNat) := by
      rw [BitVec.ofNat_add, BitVec.ofNat_toNat, BitVec.setWidth_eq, add_assoc]
    rw [next] at later
    have rest' := ih later ends fun e member => inside e (List.mem_cons_of_mem _ member)
    rw [total_cons]
    omega

end TcpReceiveBuffer

end IPStack
