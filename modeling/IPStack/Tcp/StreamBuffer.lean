import IPStack.Tcp.ReceiveStream

/-! The receive buffer when the peer cuts its stream into segments once and for all: whatever
arrives is one of these segments, so that no two stored elements overlap. -/

namespace IPStack

/-- How a stream is cut into segments: `cut first len` if one of them has `len` bytes from
`first` on. -/
structure Cutting (cut : Nat → Nat → Prop) : Prop where
  nonempty : ∀ {first len}, cut first len → 0 < len
  disjoint : ∀ {first len first' len'}, cut first len → cut first' len' → first < first' → first + len ≤ first'
  whole : ∀ {first len len'}, cut first len → cut first len' → len = len'

namespace TcpReceiveBuffer

open TcpRecvElement (HoldsAt)

variable {c : Config} {b b' : TcpReceiveBuffer} {element : TcpRecvElement} {r : ReceiveBuffer} {stream : Nat → UInt8}
  {cut : Nat → Nat → Prop} {first read limit length : Nat} {len : BitVec 32} {l : List TcpRecvElement}

/-! ### Ends of elements -/

/-- The last of contiguous elements ends where they end. -/
theorem Contiguous.ends (contiguous : Contiguous stream limit first l) (nonempty : l ≠ []) :
    ∃ e ∈ l, ∃ p, HoldsAt stream p e ∧ first ≤ p ∧ p + e.len.toNat = first + total l := by
  induction l generalizing first with
  | nil => exact absurd rfl nonempty
  | cons e rest ih =>
    rw [total_cons]
    by_cases alone : rest = []
    · refine ⟨e, List.mem_cons_self .., first, contiguous.1.1, le_refl _, ?_⟩
      rw [alone, total_nil, Nat.add_zero]
    · obtain ⟨e', member, p, holds, after, ends⟩ := ih contiguous.2 alone
      exact ⟨e', List.mem_cons_of_mem _ member, p, holds, by omega, by omega⟩

/-- Reading leaves elements as they are, but for one that is left with its end. -/
theorem Contiguous.consume_ends (contiguous : Contiguous stream limit first l) (available : len.toNat ≤ total l)
    (member : element ∈ (TcpReceiveBuffer.consume len l).left) :
    ∃ e ∈ l, ∃ p q, HoldsAt stream p e ∧ HoldsAt stream q element ∧ (first ≤ p ∧ p < limit) ∧
      q + element.len.toNat = p + e.len.toNat ∧ q = max p (first + len.toNat) := by
  induction l generalizing first len limit with
  | nil => exact absurd member List.not_mem_nil
  | cons head rest ih =>
    have wholly := contiguous
    obtain ⟨⟨holds, before⟩, later⟩ := contiguous
    rw [total_cons] at available
    by_cases zero : len = 0
    · subst zero
      rw [consume_zero] at member
      obtain ⟨p, found, after, near, -⟩ := wholly.position member
      exact ⟨element, member, p, p, found, found, ⟨after, near⟩, rfl, (Nat.max_eq_left after).symm⟩
    by_cases whole : head.len ≤ len
    · rw [TcpReceiveBuffer.consume, if_neg zero, if_pos whole] at member
      have size := BitVec.le_def.mp whole
      have left : (len - head.len).toNat = len.toNat - head.len.toNat := BitVec.toNat_sub_of_le whole
      obtain ⟨e, inside, p, q, found, found', after, ends, reached⟩ := ih later (by omega) member
      exact ⟨e, List.mem_cons_of_mem _ inside, p, q, found, found', ⟨by omega, after.2⟩, ends, by omega⟩
    · rw [TcpReceiveBuffer.consume, if_neg zero, if_neg whole] at member
      have inside : len.toNat < head.len.toNat := by
        rw [BitVec.le_def] at whole
        omega
      have shorter : (head.len - len).toNat = head.len.toNat - len.toNat :=
        BitVec.toNat_sub_of_le (BitVec.le_def.mpr inside.le)
      rcases List.mem_cons.mp member with rfl | behind
      · refine ⟨head, List.mem_cons_self .., first, first + len.toNat, holds, HoldsAt.increment holds inside,
          ⟨le_refl _, before⟩, ?_, by omega⟩
        rw [TcpRecvElement.increment, shorter]
        omega
      · obtain ⟨p, found, after, near, -⟩ := later.position behind
        exact ⟨element, List.mem_cons_of_mem _ behind, p, p, found, found, ⟨by omega, near⟩, rfl, by omega⟩

/-! ### Elements of cut segments -/

/-- The element holds what is unread of one of the segments, which ends within half the sequence
space of the read position. -/
def Unread (stream : Nat → UInt8) (cut : Nat → Nat → Prop) (read : Nat) (e : TcpRecvElement) : Prop :=
  ∃ p start size, HoldsAt stream p e ∧ cut start size ∧ p + e.len.toNat = start + size ∧ p = max start read ∧
    start + size ≤ read + 2 ^ 31

/-- The buffer holds unread segments. -/
structure Stores (c : Config) (stream : Nat → UInt8) (cut : Nat → Nat → Prop) (read : Nat) (b : TcpReceiveBuffer) : Prop where
  streams : Streams c stream read b
  unread : ∀ e ∈ b.list, Unread stream cut read e

/-- A segment is unread only if it ends behind the read position. -/
theorem Unread.position (unread : Unread stream cut read element) :
    ∃ p, HoldsAt stream p element ∧ read ≤ p ∧ p + element.len.toNat ≤ read + 2 ^ 31 := by
  obtain ⟨p, start, size, holds, -, ends, from_, near⟩ := unread
  exact ⟨p, holds, by omega, by omega⟩

/-- Two unread segments follow one another. -/
theorem Unread.apart (cutting : Cutting cut) {e e' : TcpRecvElement} {p p' : Nat} (unread : Unread stream cut read e)
    (unread' : Unread stream cut read e') (holds : HoldsAt stream p e) (holds' : HoldsAt stream p' e')
    (near : read ≤ p ∧ p < read + 2 ^ 31) (near' : read ≤ p' ∧ p' < read + 2 ^ 31) (before : p < p') :
    p + e.len.toNat ≤ p' := by
  obtain ⟨q, start, size, found, piece, ends, from_, inside⟩ := unread
  obtain ⟨q', start', size', found', piece', ends', from_', inside'⟩ := unread'
  have nonempty := found.nonempty
  have nonempty' := found'.nonempty
  obtain rfl : p = q := Serial.ofNat_inj (holds.seqNum.symm.trans found.seqNum) (by omega) (by omega)
  obtain rfl : p' = q' := Serial.ofNat_inj (holds'.seqNum.symm.trans found'.seqNum) (by omega) (by omega)
  have := cutting.disjoint piece piece' (by omega)
  omega

namespace Stores

theorem start (c : Config) (stream : Nat → UInt8) (cut : Nat → Nat → Prop) (memory : TcpReceiveBuffer) (first : Nat) :
    Stores c stream cut first (start c memory (BitVec.ofNat 32 first)) :=
  ⟨.start c stream memory first, fun _ member => absurd member List.not_mem_nil⟩

theorem mono {cut' : Nat → Nat → Prop} (stores : Stores c stream cut read b)
    (more : ∀ first len, cut first len → cut' first len) :
    Stores c stream cut' read b := by
  refine ⟨stores.streams, fun e member => ?_⟩
  obtain ⟨p, start, size, holds, piece, rest⟩ := stores.unread e member
  exact ⟨p, start, size, holds, more _ _ piece, rest⟩

/-- The elements behind the contiguous ones start where these end or later. -/
theorem rest_behind (stores : Stores c stream cut read b) (cutting : Cutting cut) (member : element ∈ b.rest) :
    ∃ p, HoldsAt stream p element ∧ read + total b.continuous ≤ p ∧ p < read + 2 ^ 31 := by
  have inside : element ∈ b.list := List.mem_append_right _ member
  obtain ⟨p, holds, after, near⟩ := (stores.unread element inside).position
  have nonempty := holds.nonempty
  refine ⟨p, holds, ?_, by omega⟩
  by_cases none : b.continuous = []
  · rw [none, total_nil]
    exact after
  · obtain ⟨e, front, q, found, after', ends⟩ := stores.streams.contiguous.ends none
    have stored : e ∈ b.list := List.mem_append_left _ front
    obtain ⟨q', found', above, near'⟩ := (stores.unread e stored).position
    have nonempty' := found'.nonempty
    have reads := stores.streams.reads
    obtain ⟨q'', found'', below, bound, -⟩ := stores.streams.contiguous.position front
    obtain rfl : q = q'' := Serial.ofNat_inj (found.seqNum.symm.trans found''.seqNum) (by have := stores.streams.total_lt; omega)
      (by have := stores.streams.total_lt; omega)
    have order := (List.pairwise_append.mp stores.streams.ordered).2.2 e front element member
    rw [Before, found.seqNum, holds.seqNum, Streams.offset_eq reads (by omega) bound,
      Streams.offset_eq reads (by omega) (by omega)] at order
    have := (stores.unread e stored).apart cutting (stores.unread element inside) found holds ⟨after', bound⟩ ⟨after, by omega⟩
      (by omega)
    omega

/-- A segment of the stream arrives. -/
theorem insert (stores : Stores c stream cut read b) (piece : cut first length) (nonempty : 0 < length)
    (near : read ≤ first + 2 ^ 31 ∧ first + length ≤ read + 2 ^ 31) (carries : Carries stream first length r.segment.data)
    (inserted : b.insertSlidingWindow r (BitVec.ofNat 32 first) (BitVec.ofNat 32 length) = some b') :
    Stores c stream cut read b' := by
  obtain ⟨slot, free, slots, notOld, rest, found, rfl⟩ := stores.streams.tracked.inserted_eq inserted
  have new : read ≤ first := by
    rw [seqLt, stores.streams.reads, Serial.toInt_sub_ofNat (by norm_num; omega) (by norm_num; omega)] at notOld
    omega
  have own := Streams.offset_eq stores.streams.reads near.1 (by omega : first < read + 2 ^ 31)
  have clear : Reader.clear ⟨read, b⟩ (.insert r first length) := by
    intro e member
    obtain ⟨p, holds, after, inside⟩ := (stores.unread e member).position
    have := holds.nonempty
    rw [own, holds.seqNum, Streams.offset_eq stores.streams.reads (by omega) (by omega)]
    omega
  have promised : Reader.promised c stream ⟨read, b⟩ (.insert r first length) :=
    ⟨⟨nonempty, by omega⟩, ⟨near.1, (by omega : first < read + 2 ^ 31)⟩, carries⟩
  refine ⟨stores.streams.insert promised clear inserted, fun e member => ?_⟩
  rw [Streams.stored_list] at member
  have length_eq : (BitVec.ofNat 32 length).toNat = length := by
    rw [BitVec.toNat_ofNat, Nat.mod_eq_of_lt (by omega)]
  have members := ((search_perm found).append_left b.continuous).trans List.perm_middle
  rcases List.mem_cons.mp (members.mem_iff.mp member) with rfl | old
  · refine ⟨first, first, length, ⟨rfl, ?_, ?_, ?_⟩, piece, ?_, by omega, near.2⟩ <;>
      rw [TcpRecvElement.len_setSegment, length_eq]
    · exact nonempty
    · omega
    · exact carries
  · exact stores.unread e old

/-- Bytes are read. -/
theorem copyData (stores : Stores c stream cut read b) (cutting : Cutting cut) (sliding : c.slidingWindowReceive = true)
    (allowed : len ≤ b.getRecvBytes c) : Stores c stream cut (read + len.toNat) (b.copyData c len).2.2 := by
  have available := stores.streams.tracked.available (getRecvBytes_eq sliding b ▸ allowed)
  have clear : Reader.clear ⟨read, b⟩ (.copyData len) := by
    by_cases all : len = b.recvBytes
    · exact .inl all
    · refine .inr fun e member => ?_
      obtain ⟨p, holds, behind, near⟩ := stores.rest_behind cutting member
      have bytes := stores.streams.recvBytes_eq
      have different : len.toNat ≠ b.recvBytes.toNat := fun same => all (BitVec.eq_of_toNat_eq same)
      rw [holds.seqNum, Streams.offset_eq stores.streams.reads (by omega) near]
      omega
  rw [TcpReceiveBuffer.copyData, if_pos sliding]
  refine ⟨stores.streams.copyData sliding allowed clear, fun e member => ?_⟩
  rw [stores.streams.tracked.copyData_eq (getRecvBytes_eq sliding b ▸ allowed), list] at member
  rcases List.mem_append.mp member with front | behind
  · obtain ⟨e', inside, p, q, holds, holds', after, ends, reached⟩ :=
      stores.streams.contiguous.consume_ends available front
    obtain ⟨p', start, size, found, piece, ends', from_, near⟩ := stores.unread e' (List.mem_append_left _ inside)
    have nonempty := found.nonempty
    have total_lt := stores.streams.total_lt
    obtain rfl : p = p' := Serial.ofNat_inj (holds.seqNum.symm.trans found.seqNum) (by omega) (by omega)
    exact ⟨q, start, size, holds', piece, by omega, by omega, by omega⟩
  · obtain ⟨p, start, size, holds, piece, ends, from_, near⟩ := stores.unread e (List.mem_append_right _ behind)
    obtain ⟨p', holds', after, below⟩ := stores.rest_behind cutting behind
    have nonempty := holds.nonempty
    obtain rfl : p = p' := Serial.ofNat_inj (holds.seqNum.symm.trans holds'.seqNum) (by omega) (by omega)
    exact ⟨p, start, size, holds, piece, ends, by omega, by omega⟩

/-- The contiguous bytes end where the segments end at the latest. -/
theorem total_le (stores : Stores c stream cut read b) {top : Nat} (inside : read ≤ top)
    (ends : ∀ {first len}, cut first len → first + len ≤ top) : read + total b.continuous ≤ top := by
  by_cases none : b.continuous = []
  · rw [none, total_nil]
    exact inside
  · obtain ⟨e, front, p, holds, after, last⟩ := stores.streams.contiguous.ends none
    obtain ⟨q, start, size, found, piece, stops, from_, near⟩ := stores.unread e (List.mem_append_left _ front)
    have nonempty := found.nonempty
    have total_lt := stores.streams.total_lt
    obtain rfl : p = q := Serial.ofNat_inj (holds.seqNum.symm.trans found.seqNum) (by omega) (by omega)
    have := ends piece
    omega

end Stores

end TcpReceiveBuffer

end IPStack
