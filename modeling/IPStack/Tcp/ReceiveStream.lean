import IPStack.Tcp.ReceiveContinuous
import IPStack.Lib.Serial

/-! The receive buffer against the byte stream of the peer. Positions of the stream are
sequence numbers that do not wrap. -/

namespace IPStack

open Transition

/-- The data begin with the `len` bytes of the stream from `first` on. -/
def Carries (stream : Nat → UInt8) (first len : Nat) (data : List UInt8) : Prop :=
  ∀ i < len, data[i]? = some (stream (first + i))

theorem Carries.drop {stream : Nat → UInt8} {first len n : Nat} {data : List UInt8} (carries : Carries stream first len data)
    (inside : n ≤ len) : Carries stream (first + n) (len - n) (data.drop n) := by
  intro i lt
  rw [List.getElem?_drop, carries (n + i) (by omega), Nat.add_assoc]

theorem Carries.take {stream : Nat → UInt8} {first len n : Nat} {data : List UInt8} (carries : Carries stream first len data)
    (inside : n ≤ len) : data.take n = (List.range n).map (fun i => stream (first + i)) := by
  apply List.ext_getElem?
  intro i
  by_cases lt : i < n
  · rw [List.getElem?_take_of_lt lt, carries i (by omega)]
    simp [lt]
  · rw [List.getElem?_eq_none (by rw [List.length_take]; omega), List.getElem?_eq_none (by simp; omega)]

instance (stream : Nat → UInt8) (first len : Nat) (data : List UInt8) : Decidable (Carries stream first len data) :=
  inferInstanceAs (Decidable (∀ i < len, data[i]? = some (stream (first + i))))

/-- The element holds a nonempty stretch of the stream that starts at a position. -/
structure TcpRecvElement.HoldsAt (stream : Nat → UInt8) (first : Nat) (e : TcpRecvElement) : Prop where
  seqNum : e.seqNum = BitVec.ofNat 32 first
  nonempty : 0 < e.len.toNat
  half : e.len.toNat ≤ 2 ^ 31
  bytes : Carries stream first e.len.toNat e.data

namespace TcpReceiveBuffer

open TcpRecvElement (HoldsAt)

variable {c : Config} {b b' : TcpReceiveBuffer} {element : TcpRecvElement} {r : ReceiveBuffer} {stream : Nat → UInt8}
  {first read limit : Nat} {seqnum : SeqNum} {len : BitVec 32} {l l' : List TcpRecvElement}

/-! ### Contiguous elements -/

/-- The elements hold the stream from `first` on, and each starts before `limit`. -/
def Contiguous (stream : Nat → UInt8) (limit : Nat) : Nat → List TcpRecvElement → Prop
  | _, [] => True
  | first, e :: rest => (HoldsAt stream first e ∧ first < limit) ∧ Contiguous stream limit (first + e.len.toNat) rest

namespace Contiguous

theorem mono {limit' : Nat} (contiguous : Contiguous stream limit first l) (le : limit ≤ limit') :
    Contiguous stream limit' first l := by
  induction l generalizing first with
  | nil => trivial
  | cons e rest ih => exact ⟨⟨contiguous.1.1, by have := contiguous.1.2; omega⟩, ih contiguous.2⟩

theorem position (contiguous : Contiguous stream limit first l) (member : element ∈ l) :
    ∃ p, HoldsAt stream p element ∧ first ≤ p ∧ p < limit ∧ p + element.len.toNat ≤ first + total l := by
  induction l generalizing first with
  | nil => simp at member
  | cons e rest ih =>
    rw [total_cons]
    rcases List.mem_cons.mp member with rfl | later
    · exact ⟨first, contiguous.1.1, le_refl _, contiguous.1.2, by omega⟩
    · obtain ⟨p, holds, after, before, inside⟩ := ih contiguous.2 later
      exact ⟨p, holds, by omega, before, by omega⟩

/-- The last element starts no more than half the range before the end. -/
theorem last (contiguous : Contiguous stream limit first l) (nonempty : l ≠ []) :
    ∃ e ∈ l, ∃ p, HoldsAt stream p e ∧ p < limit ∧ first ≤ p ∧ first + total l ≤ p + 2 ^ 31 := by
  induction l generalizing first with
  | nil => exact absurd rfl nonempty
  | cons e rest ih =>
    rw [total_cons]
    obtain ⟨⟨holds, before⟩, later⟩ := contiguous
    by_cases alone : rest = []
    · have := holds.half
      refine ⟨e, List.mem_cons_self .., first, holds, before, le_refl _, ?_⟩
      rw [alone, total_nil]
      omega
    · obtain ⟨e', member, p, holds', before', after, reaches⟩ := ih later alone
      exact ⟨e', List.mem_cons_of_mem _ member, p, holds', before', by omega, by omega⟩

theorem eq_nil (contiguous : Contiguous stream limit first l) (zero : total l = 0) : l = [] := by
  cases l with
  | nil => rfl
  | cons e rest =>
    have := contiguous.1.1.nonempty
    rw [total_cons] at zero
    omega

end Contiguous

theorem HoldsAt.increment (holds : HoldsAt stream first element) (inside : len.toNat < element.len.toNat) :
    HoldsAt stream (first + len.toNat) (element.increment len) := by
  have shorter : (element.len - len).toNat = element.len.toNat - len.toNat :=
    BitVec.toNat_sub_of_le (BitVec.le_def.mpr inside.le)
  have half := holds.half
  refine ⟨?_, ?_, ?_, ?_⟩
  · rw [TcpRecvElement.increment, holds.seqNum, BitVec.ofNat_add, BitVec.ofNat_toNat, BitVec.setWidth_eq]
  · rw [TcpRecvElement.increment, shorter]
    omega
  · rw [TcpRecvElement.increment, shorter]
    omega
  · rw [TcpRecvElement.increment, shorter]
    exact holds.bytes.drop inside.le

/-- Reading from contiguous elements copies the stream, and what is left starts at the new
position. -/
theorem Contiguous.consume (contiguous : Contiguous stream limit first l) (available : len.toNat ≤ total l) :
    (consume len l).bytes = (List.range len.toNat).map (fun i => stream (first + i)) ∧
      Contiguous stream (limit + len.toNat) (first + len.toNat) (consume len l).left ∧
      first + len.toNat + total (consume len l).left = first + total l ∧
      ∀ e ∈ (consume len l).left, e ∈ l ∨ HoldsAt stream (first + len.toNat) e := by
  induction l generalizing first len limit with
  | nil =>
    have zero : len = 0 := BitVec.eq_of_toNat_eq (by simpa using available)
    subst zero
    exact ⟨rfl, trivial, rfl, fun e member => absurd member List.not_mem_nil⟩
  | cons head rest ih =>
    obtain ⟨⟨holds, before⟩, later⟩ := contiguous
    rw [total_cons] at available
    by_cases zero : len = 0
    · subst zero
      rw [consume_zero]
      exact ⟨rfl, ⟨⟨holds, before⟩, later⟩, rfl, fun e member => .inl member⟩
    by_cases whole : head.len ≤ len
    · rw [TcpReceiveBuffer.consume, if_neg zero, if_pos whole]
      have size := BitVec.le_def.mp whole
      have left : (len - head.len).toNat = len.toNat - head.len.toNat := BitVec.toNat_sub_of_le whole
      have fewer : (len - head.len).toNat ≤ total rest := by omega
      obtain ⟨copied, next, kept, from_⟩ := ih later fewer
      rw [left, show first + head.len.toNat + (len.toNat - head.len.toNat) = first + len.toNat by omega] at next kept from_
      refine ⟨?_, next.mono (by omega), ?_, fun e member => ?_⟩
      · dsimp only
        rw [copied, left, holds.bytes.take (le_refl _), show len.toNat = head.len.toNat + (len.toNat - head.len.toNat) by omega,
          List.range_add, List.map_append, List.map_map]
        simp [Function.comp_def, Nat.add_assoc]
      · rw [kept, total_cons]
        omega
      · exact (from_ e member).imp_left (List.mem_cons_of_mem head)
    · rw [TcpReceiveBuffer.consume, if_neg zero, if_neg whole]
      have inside : len.toNat < head.len.toNat := by
        rw [BitVec.le_def] at whole
        omega
      have shorter : (head.len - len).toNat = head.len.toNat - len.toNat :=
        BitVec.toNat_sub_of_le (BitVec.le_def.mpr inside.le)
      have moved := HoldsAt.increment holds inside
      refine ⟨holds.bytes.take inside.le, ⟨⟨moved, by omega⟩, ?_⟩, ?_, fun e member => ?_⟩
      · rw [show first + len.toNat + (head.increment len).len.toNat = first + head.len.toNat by
          rw [TcpRecvElement.increment, shorter]; omega]
        exact later.mono (by omega)
      · rw [total_cons, total_cons, TcpRecvElement.increment, shorter]
        omega
      · rcases List.mem_cons.mp member with rfl | behind
        · exact .inr moved
        · exact .inl (List.mem_cons_of_mem head behind)

theorem consume_slots (len : BitVec 32) (l : List TcpRecvElement) :
    (consume len l).slots ++ (consume len l).left.map TcpRecvElement.slot = l.map TcpRecvElement.slot := by
  induction l generalizing len with
  | nil => rfl
  | cons head rest ih =>
    unfold consume
    split_ifs
    · rfl
    · simp only [List.cons_append, List.map_cons, ih]
    · rfl

/-! ### Order -/

/-- The signed distance of a sequence number from the read position. -/
def offset (b : TcpReceiveBuffer) (x : SeqNum) : Int := (x - b.readFirstSeqNum).toInt

/-- The order of two elements seen from the read position. -/
def Before (b : TcpReceiveBuffer) (e e' : TcpRecvElement) : Prop := b.offset e.seqNum < b.offset e'.seqNum

instance (b : TcpReceiveBuffer) (e e' : TcpRecvElement) : Decidable (b.Before e e') := inferInstanceAs (Decidable (_ < _))

/-- A new element is put at its place in the order, if the comparisons of the search are
right about all elements. -/
theorem place_ordered (ordered : l.Pairwise b.Before)
    (after : ∀ e ∈ l, seqGeq element.seqNum e.getNextSeqNum → b.Before e element)
    (before : ∀ e ∈ l, ¬ seqGeq element.seqNum e.getNextSeqNum → ¬ seqGeq element.seqNum e.seqNum → b.Before element e)
    (placed : place element l = some l') : l'.Pairwise b.Before := by
  induction l generalizing l' with
  | nil =>
    obtain rfl : [element] = l' := Option.some.inj placed
    exact List.pairwise_singleton _ _
  | cons current rest ih =>
    obtain ⟨smaller, later⟩ := List.pairwise_cons.mp ordered
    unfold place at placed
    split_ifs at placed with comes same
    · obtain ⟨rest', found, rfl⟩ := Option.map_eq_some_iff.mp placed
      refine List.pairwise_cons.mpr ⟨fun e member => ?_, ih later (fun e member => after e (List.mem_cons_of_mem _ member))
        (fun e member => before e (List.mem_cons_of_mem _ member)) found⟩
      rcases List.mem_cons.mp ((place_perm found).mem_iff.mp member) with rfl | old
      · exact after current (List.mem_cons_self ..) comes
      · exact smaller e old
    · obtain rfl : element :: current :: rest = l' := Option.some.inj placed
      have first := before current (List.mem_cons_self ..) comes same
      refine List.pairwise_cons.mpr ⟨fun e member => ?_, ordered⟩
      rcases List.mem_cons.mp member with rfl | behind
      · exact first
      · exact lt_trans first (smaller e behind)

theorem search_ordered (ordered : b.list.Pairwise b.Before)
    (after : ∀ e ∈ b.list, seqGeq element.seqNum e.getNextSeqNum → b.Before e element)
    (before : ∀ e ∈ b.list, ¬ seqGeq element.seqNum e.getNextSeqNum → ¬ seqGeq element.seqNum e.seqNum → b.Before element e)
    (found : b.search element = some l') : (b.continuous ++ l').Pairwise b.Before := by
  obtain ⟨front, back, across⟩ := List.pairwise_append.mp ordered
  have inRest : ∀ e ∈ b.rest, e ∈ b.list := fun e member => List.mem_append_right _ member
  have members := search_perm found
  have place_behind : place element b.rest = some l' ∧ ∀ last ∈ b.continuous.getLast?, b.Before last element := by
    unfold search at found
    cases atEnd : b.continuous.getLast? with
    | none =>
      rw [atEnd] at found
      exact ⟨found, fun _ member => absurd member (Option.not_mem_none _)⟩
    | some last =>
      rw [atEnd] at found
      dsimp only at found
      split_ifs at found with comes
      refine ⟨found, fun last' isLast => ?_⟩
      obtain rfl : last = last' := Option.some.inj isLast
      exact after last (List.mem_append_left _ (List.mem_of_getLast? atEnd)) comes
  obtain ⟨placed, behind⟩ := place_behind
  refine List.pairwise_append.mpr ⟨front, place_ordered back (fun e member => after e (inRest e member))
    (fun e member => before e (inRest e member)) placed, fun e member e' member' => ?_⟩
  rcases List.mem_cons.mp (members.mem_iff.mp member') with rfl | old
  · obtain ⟨initial, last, split⟩ := (List.eq_nil_or_concat' b.continuous).resolve_left (List.ne_nil_of_mem member)
    have last_before := behind last (by rw [split, List.getLast?_concat]; rfl)
    rw [split] at front member
    rcases List.mem_append.mp member with inside | atEnd
    · exact lt_trans ((List.pairwise_append.mp front).2.2 e inside last (List.mem_singleton.mpr rfl)) last_before
    · obtain rfl := List.mem_singleton.mp atEnd
      exact last_before
  · exact across e member e' old

/-! ### The buffer of a stream -/

/-- The element holds a stretch of the stream that starts within half the sequence space of
the read position. -/
def Placed (stream : Nat → UInt8) (read : Nat) (e : TcpRecvElement) : Prop :=
  ∃ p, HoldsAt stream p e ∧ read ≤ p + 2 ^ 31 ∧ p < read + 2 ^ 31

/-- What insertion and reading keep. -/
structure Streams (c : Config) (stream : Nat → UInt8) (read : Nat) (b : TcpReceiveBuffer) : Prop where
  tracked : b.Tracked
  reads : b.readFirstSeqNum = BitVec.ofNat 32 read
  slots : (b.free ++ b.list.map TcpRecvElement.slot).Perm (List.range c.receivebufferMaxPackets)
  placed : ∀ e ∈ b.list, Placed stream read e
  ordered : b.list.Pairwise b.Before

namespace Streams

theorem offset_eq (reads : b.readFirstSeqNum = BitVec.ofNat 32 read) (above : read ≤ first + 2 ^ 31)
    (below : first < read + 2 ^ 31) : b.offset (BitVec.ofNat 32 first) = first - read := by
  rw [offset, reads]
  exact Serial.toInt_sub_ofNat (by norm_num; omega) (by norm_num; omega)

theorem contiguous_of_chain (reads : b.readFirstSeqNum = BitVec.ofNat 32 read) (placed : ∀ e ∈ l, Placed stream read e)
    (ordered : l.Pairwise b.Before) (joined : chain (BitVec.ofNat 32 first) l = l)
    (low : first = read ∨ ∀ e ∈ l, 0 ≤ b.offset e.seqNum) (above : read ≤ first) (below : first < read + 2 ^ 32) :
    Contiguous stream (read + 2 ^ 31) first l := by
  induction l generalizing first with
  | nil => trivial
  | cons e rest ih =>
    obtain ⟨starts, later⟩ := chain_cons joined
    obtain ⟨smaller, order⟩ := List.pairwise_cons.mp ordered
    obtain ⟨p, holds, pAbove, pBelow⟩ := placed e (List.mem_cons_self ..)
    have own := offset_eq reads pAbove pBelow
    obtain rfl : p = first := by
      apply Serial.ofNat_inj (holds.seqNum.symm.trans starts)
      · rcases low with same | behind
        · omega
        · have := behind e (List.mem_cons_self ..)
          rw [holds.seqNum, own] at this
          omega
      · omega
    have half := holds.half
    refine ⟨⟨holds, pBelow⟩, ih (fun e' member => placed e' (List.mem_cons_of_mem _ member)) order ?_ (.inr ?_) (by omega) (by omega)⟩
    · rw [BitVec.ofNat_add, BitVec.ofNat_toNat, BitVec.setWidth_eq]
      exact later
    · intro e' member
      have := smaller e' member
      rw [Before, holds.seqNum, own] at this
      omega

variable (streams : Streams c stream read b)
include streams

theorem contiguous : Contiguous stream (read + 2 ^ 31) read b.continuous := by
  refine contiguous_of_chain streams.reads (fun e member => streams.placed e (List.mem_append_left _ member))
    (List.pairwise_append.mp streams.ordered).1 ?_ (.inl rfl) (le_refl _) (by omega)
  rw [← streams.reads]
  exact streams.tracked.joined

theorem total_lt : total b.continuous < 2 ^ 32 := by
  by_cases empty : b.continuous = []
  · rw [empty]
    exact Nat.two_pow_pos 32
  · obtain ⟨e, -, p, -, before, -, reaches⟩ := streams.contiguous.last empty
    omega

theorem recvBytes_eq : b.recvBytes.toNat = total b.continuous := by
  rw [streams.tracked.bytes, lengths_eq_ofNat, BitVec.toNat_ofNat, Nat.mod_eq_of_lt streams.total_lt]

end Streams

/-! ### Runs -/

/-- A buffer and the position of the stream up to which it has been read. -/
structure Reader where
  read : Nat
  buffer : TcpReceiveBuffer

/-- A stretch of the stream that arrives, or a read. -/
inductive Delivery where
  | insert (r : ReceiveBuffer) (first len : Nat)
  | copyData (len : BitVec 32)

namespace Reader

def step (c : Config) (s : Reader) : Delivery → Reader
  | .insert r first len => { s with buffer := s.buffer.call c (.insert r (BitVec.ofNat 32 first) (BitVec.ofNat 32 len)) }
  | .copyData len => { read := s.read + len.toNat, buffer := s.buffer.call c (.copyData len) }

/-- The segments are stretches of the stream that start within half the sequence space of
the read position, and no more is read than has been received. -/
def promised (c : Config) (stream : Nat → UInt8) (s : Reader) : Delivery → Prop
  | .insert r first len =>
    (0 < len ∧ len ≤ 2 ^ 31) ∧ (s.read ≤ first + 2 ^ 31 ∧ first < s.read + 2 ^ 31) ∧ Carries stream first len r.segment.data
  | .copyData len => len ≤ s.buffer.getRecvBytes c

/-- A segment starts less than half the sequence space after the end of every stored
element and at most half of it before; a read takes all contiguous bytes or ends before
the first element behind them starts. -/
def clear (s : Reader) : Delivery → Prop
  | .insert _ first _ => ∀ e ∈ s.buffer.list,
    s.buffer.offset e.seqNum + e.len.toNat ≤ s.buffer.offset (BitVec.ofNat 32 first) + 2 ^ 31 ∧
      s.buffer.offset (BitVec.ofNat 32 first) < s.buffer.offset e.seqNum + e.len.toNat + 2 ^ 31
  | .copyData len => len = s.buffer.recvBytes ∨ ∀ e ∈ s.buffer.rest, len.toNat < s.buffer.offset e.seqNum

instance (c : Config) (stream : Nat → UInt8) (s : Reader) : (a : Delivery) → Decidable (s.promised c stream a)
  | .insert .. => inferInstanceAs (Decidable (_ ∧ _ ∧ _))
  | .copyData _ => inferInstanceAs (Decidable (_ ≤ _))

instance (s : Reader) : (a : Delivery) → Decidable (s.clear a)
  | .insert .. => inferInstanceAs (Decidable (∀ e ∈ s.buffer.list, _))
  | .copyData _ => inferInstanceAs (Decidable (_ ∨ _))

end Reader

namespace Streams

theorem start (c : Config) (stream : Nat → UInt8) (memory : TcpReceiveBuffer) (first : Nat) :
    Streams c stream first (start c memory (BitVec.ofNat 32 first)) where
  tracked := tracked_start ..
  reads := rfl
  slots := by
    rw [show (TcpReceiveBuffer.start c memory (BitVec.ofNat 32 first)).list = [] from rfl]
    simp [TcpReceiveBuffer.start, construct, setFirstSeqNum]
  placed e member := absurd member List.not_mem_nil
  ordered := List.Pairwise.nil

theorem stored_list (b : TcpReceiveBuffer) (rest : List TcpRecvElement) (free : List Nat) (pushFlag : Bool) :
    (b.stored rest free pushFlag).list = b.continuous ++ rest := by
  have split := List.prefix_append_drop (chain_isPrefix (b.readFirstSeqNum + b.recvBytes) rest)
  rw [list, stored, List.append_assoc, ← split]

theorem insert (streams : Streams c stream read b) {length : Nat}
    (promised : Reader.promised c stream ⟨read, b⟩ (.insert r first length)) (clear : Reader.clear ⟨read, b⟩ (.insert r first length))
    (inserted : b.insertSlidingWindow r (BitVec.ofNat 32 first) (BitVec.ofNat 32 length) = some b') :
    Streams c stream read b' := by
  obtain ⟨slot, free, slots, notOld, rest, found, rfl⟩ := streams.tracked.inserted_eq inserted
  obtain ⟨⟨nonempty, half⟩, ⟨above, below⟩, carries⟩ := promised
  have list := stored_list b rest free (b.pushFlag || r.segment.psh)
  have members := (search_perm found).append_left b.continuous
  have perm := members.trans List.perm_middle
  have own := offset_eq streams.reads above below
  have length_eq : (BitVec.ofNat 32 length).toNat = length := by
    rw [BitVec.toNat_ofNat, Nat.mod_eq_of_lt (by omega)]
  have compare : ∀ e ∈ b.list, ∃ p : Nat, b.offset e.seqNum = p - read ∧ 0 < e.len.toNat ∧
      (seqGeq (BitVec.ofNat 32 first) e.getNextSeqNum ↔ p + e.len.toNat ≤ first) ∧
        (first < p + e.len.toNat → (seqGeq (BitVec.ofNat 32 first) e.seqNum ↔ p ≤ first)) := by
    intro e member
    obtain ⟨p, holds, pAbove, pBelow⟩ := streams.placed e member
    have at_ := offset_eq streams.reads pAbove pBelow
    have near := clear e member
    rw [holds.seqNum, at_, own] at near
    have pHalf := holds.half
    refine ⟨p, by rw [holds.seqNum, at_], holds.nonempty, ?_, fun inside => ?_⟩
    · have next : e.getNextSeqNum = BitVec.ofNat 32 (p + e.len.toNat) := by
        rw [TcpRecvElement.getNextSeqNum, holds.seqNum, BitVec.ofNat_add, BitVec.ofNat_toNat, BitVec.setWidth_eq]
      rw [seqGeq, next, Serial.toInt_sub_ofNat (by norm_num; omega) (by norm_num; omega)]
      omega
    · rw [seqGeq, holds.seqNum, Serial.toInt_sub_ofNat (by norm_num; omega) (by norm_num; omega)]
      omega
  refine ⟨streams.tracked.stored .., streams.reads, ?_, ?_, ?_⟩
  · rw [list]
    refine List.Perm.trans ?_ streams.slots
    rw [slots]
    exact ((perm.map TcpRecvElement.slot).append_left free).trans List.perm_middle
  · rw [list]
    intro e member
    rcases List.mem_cons.mp (perm.mem_iff.mp member) with rfl | old
    · refine ⟨first, ⟨rfl, ?_, ?_, ?_⟩, above, below⟩
      · rwa [TcpRecvElement.len_setSegment, length_eq]
      · rwa [TcpRecvElement.len_setSegment, length_eq]
      · rwa [TcpRecvElement.len_setSegment, length_eq]
    · exact streams.placed e old
  · rw [list]
    refine search_ordered (b := b) streams.ordered (fun e member comes => ?_) (fun e member later starts => ?_) found
    · obtain ⟨p, at_, pNonempty, next, -⟩ := compare e member
      have := next.mp comes
      rw [Before, at_, TcpRecvElement.seqNum_setSegment, own]
      omega
    · obtain ⟨p, at_, -, next, same⟩ := compare e member
      have inside := not_le.mp (mt next.mpr later)
      have := mt (same inside).mpr starts
      rw [Before, at_, TcpRecvElement.seqNum_setSegment, own]
      omega

/-- The order of elements is the same seen from two read positions near them. -/
theorem reordered {read' : Nat} (reads : b.readFirstSeqNum = BitVec.ofNat 32 read)
    (reads' : b'.readFirstSeqNum = BitVec.ofNat 32 read') (near : ∀ e ∈ l, ∃ p, HoldsAt stream p e ∧
      (read ≤ p + 2 ^ 31 ∧ p < read + 2 ^ 31) ∧ (read' ≤ p + 2 ^ 31 ∧ p < read' + 2 ^ 31))
    (ordered : l.Pairwise b.Before) : l.Pairwise b'.Before := by
  refine ordered.imp_of_mem (fun {e e'} member member' before => ?_)
  obtain ⟨p, holds, old, new⟩ := near e member
  obtain ⟨p', holds', old', new'⟩ := near e' member'
  rw [Before, holds.seqNum, holds'.seqNum, offset_eq reads old.1 old.2, offset_eq reads old'.1 old'.2] at before
  rw [Before, holds.seqNum, holds'.seqNum, offset_eq reads' new.1 new.2, offset_eq reads' new'.1 new'.2]
  omega

theorem ordered_of_contiguous (reads : b.readFirstSeqNum = BitVec.ofNat 32 read)
    (contiguous : Contiguous stream limit first l) (above : read ≤ first) (below : limit ≤ read + 2 ^ 31) :
    l.Pairwise b.Before := by
  induction l generalizing first with
  | nil => exact List.Pairwise.nil
  | cons e rest ih =>
    obtain ⟨⟨holds, before⟩, later⟩ := contiguous
    refine List.pairwise_cons.mpr ⟨fun e' member => ?_, ih later (by omega)⟩
    obtain ⟨p, holds', after, before', -⟩ := later.position member
    have := holds.nonempty
    rw [Before, holds.seqNum, holds'.seqNum, offset_eq reads (by omega) (by omega), offset_eq reads (by omega) (by omega)]
    omega

/-- An element behind the contiguous ones starts less than half the sequence space before
the new read position. -/
theorem rest_near (streams : Streams c stream read b) (available : len.toNat ≤ total b.continuous) (member : element ∈ b.rest) :
    ∃ p, HoldsAt stream p element ∧ (read ≤ p + 2 ^ 31 ∧ p < read + 2 ^ 31) ∧
      (read + len.toNat ≤ p + 2 ^ 31 ∧ p < read + len.toNat + 2 ^ 31) := by
  obtain ⟨p, holds, above, below⟩ := streams.placed element (List.mem_append_right _ member)
  refine ⟨p, holds, ⟨above, below⟩, ?_, by omega⟩
  by_cases empty : b.continuous = []
  · rw [empty, total_nil] at available
    omega
  · obtain ⟨e, inside, q, holds', before, after, reaches⟩ := streams.contiguous.last empty
    have order := (List.pairwise_append.mp streams.ordered).2.2 e inside element member
    rw [Before, holds.seqNum, holds'.seqNum, offset_eq streams.reads above below,
      offset_eq streams.reads (by omega) before] at order
    omega

theorem copyData (streams : Streams c stream read b) (sliding : c.slidingWindowReceive = true)
    (promised : Reader.promised c stream ⟨read, b⟩ (.copyData len)) (clear : Reader.clear ⟨read, b⟩ (.copyData len)) :
    Streams c stream (read + len.toNat) (b.copyDataSlidingWindow len).2.2 := by
  have allowed : len ≤ b.recvBytes := getRecvBytes_eq sliding b ▸ promised
  have available := streams.tracked.available allowed
  have tracked := streams.tracked.copyData allowed
  obtain ⟨-, left, kept, from_⟩ := streams.contiguous.consume available
  obtain ⟨-, back, across⟩ := List.pairwise_append.mp streams.ordered
  rw [streams.tracked.copyData_eq allowed] at tracked ⊢
  have reads' : b.readFirstSeqNum + len = BitVec.ofNat 32 (read + len.toNat) := by
    rw [streams.reads, BitVec.ofNat_add, BitVec.ofNat_toNat, BitVec.setWidth_eq]
  refine ⟨tracked, reads', ?_, ?_, ?_⟩
  · refine List.Perm.trans ?_ streams.slots
    have split := consume_slots len b.continuous
    rw [List.perm_iff_count]
    intro slot
    simp only [list, List.map_append, ← split, List.count_append, List.count_reverse]
    omega
  · dsimp only [list]
    intro e member
    rcases List.mem_append.mp member with front | behind
    · obtain ⟨p, holds, after, before, -⟩ := left.position front
      exact ⟨p, holds, by omega, by omega⟩
    · obtain ⟨p, holds, -, window⟩ := streams.rest_near available behind
      exact ⟨p, holds, window⟩
  · dsimp only [list]
    refine List.pairwise_append.mpr ⟨ordered_of_contiguous reads' left (le_refl _) (by omega),
      reordered streams.reads reads' (fun e member => streams.rest_near available member) back, fun e front e' behind => ?_⟩
    obtain ⟨p, holds, after, before, inside⟩ := left.position front
    obtain ⟨p', holds', window, window'⟩ := streams.rest_near available behind
    have nonempty := holds.nonempty
    rw [Before, holds.seqNum, holds'.seqNum, offset_eq reads' (by omega) (by omega), offset_eq reads' window'.1 window'.2]
    rcases clear with all | short
    · have everything : len.toNat = total b.continuous := (congrArg BitVec.toNat all).trans streams.recvBytes_eq
      have none := left.eq_nil (by omega)
      rw [none] at front
      exact absurd front List.not_mem_nil
    · rcases from_ e front with old | moved
      · have order := across e old e' behind
        obtain ⟨q, holdsOld, afterOld, beforeOld, insideOld⟩ := streams.contiguous.position old
        have total_lt := streams.total_lt
        obtain rfl : p = q := Serial.ofNat_inj (holds.seqNum.symm.trans holdsOld.seqNum) (by omega) (by omega)
        rw [Before, holds.seqNum, holds'.seqNum, offset_eq streams.reads (by omega) (by omega),
          offset_eq streams.reads window.1 window.2] at order
        omega
      · have further := short e' behind
        rw [holds'.seqNum, offset_eq streams.reads window.1 window.2] at further
        have total_lt := streams.total_lt
        obtain rfl : p = read + len.toNat := Serial.ofNat_inj (holds.seqNum.symm.trans moved.seqNum) (by omega) (by omega)
        omega

theorem step (sliding : c.slidingWindowReceive = true) {s : Reader} (streams : Streams c stream s.read s.buffer)
    {a : Delivery} (promised : s.promised c stream a) (clear : s.clear a) :
    Streams c stream (s.step c a).read (s.step c a).buffer := by
  cases a with
  | insert r first len =>
    dsimp only [Reader.step]
    rw [call_insert sliding]
    cases inserted : s.buffer.insertSlidingWindow r (BitVec.ofNat 32 first) (BitVec.ofNat 32 len) with
    | none => exact streams
    | some b' => exact streams.insert promised clear inserted
  | copyData len =>
    dsimp only [Reader.step]
    rw [call_copyData sliding]
    exact streams.copyData sliding promised clear

end Streams

/-! ### The representation -/

/-- The buffer holds the stream from the read position on: what its lists, counters and
results stand for. -/
structure Represents (c : Config) (stream : Nat → UInt8) (read : Nat) (b : TcpReceiveBuffer) : Prop where
  /-- The free list and the list from `head` on are a partition of the array. -/
  partition : (b.free ++ b.list.map TcpRecvElement.slot).Perm (List.range c.receivebufferMaxPackets)
  ordered : b.list.Pairwise b.Before
  continuous : b.continuous = chain (BitVec.ofNat 32 read) b.list
  recvBytes : (b.getRecvBytes c).toNat = total b.continuous
  ackNum : b.getAckNum c = BitVec.ofNat 32 (read + (b.getRecvBytes c).toNat)
  copies : ∀ len, len ≤ b.getRecvBytes c → (b.copyData c len).1 = (List.range len.toNat).map (fun i => stream (read + i)) ∧
    (b.copyData c len).2.2.readFirstSeqNum = BitVec.ofNat 32 (read + len.toNat)

theorem Streams.represents (sliding : c.slidingWindowReceive = true) (streams : Streams c stream read b) :
    Represents c stream read b where
  partition := streams.slots
  ordered := streams.ordered
  continuous := by
    rw [← streams.reads]
    exact streams.tracked.continuous_eq
  recvBytes := by
    rw [getRecvBytes_eq sliding]
    exact streams.recvBytes_eq
  ackNum := by
    rw [ackNum_eq sliding streams.tracked.joined streams.tracked.bytes, getRecvBytes_eq sliding, streams.reads,
      BitVec.ofNat_add, BitVec.ofNat_toNat, BitVec.setWidth_eq]
  copies len available := by
    rw [getRecvBytes_eq sliding] at available
    rw [TcpReceiveBuffer.copyData, if_pos sliding, streams.tracked.copyData_eq available]
    refine ⟨(streams.contiguous.consume (streams.tracked.available available)).1, ?_⟩
    dsimp only
    rw [streams.reads, BitVec.ofNat_add, BitVec.ofNat_toNat, BitVec.setWidth_eq]

/-- In every run over stretches of the peer's stream in which no read ends inside an element
that overlaps an out-of-order one, and no segment is half the sequence space away from a
stored element, the buffer represents the stream in every state. -/
theorem represents_run (sliding : c.slidingWindowReceive = true) {memory : TcpReceiveBuffer} {s : Reader}
    (reach : Reach (Reader.step c) (fun s a => s.promised c stream a ∧ s.clear a)
      ⟨first, start c memory (BitVec.ofNat 32 first)⟩ s) : Represents c stream s.read s.buffer :=
  (reach.invariant (fun s => Streams c stream s.read s.buffer) (Streams.start c stream memory first)
    (fun _ _ streams ok => streams.step sliding ok.1 ok.2)).represents sliding

end TcpReceiveBuffer

namespace Sample

open TcpReceiveBuffer

def stretch (first len : Nat) : TcpReceiveBuffer.Delivery :=
  .insert ⟨0, 0, segment (BitVec.ofNat 32 first) 0 0 (List.replicate len 0)⟩ first len

def reader (deliveries : List TcpReceiveBuffer.Delivery) : Reader :=
  deliveries.foldl (Reader.step config) ⟨0, .start config memory.receiveBuffer 0⟩

end Sample

namespace TcpReceiveBuffer

/-- The bytes 10 and 11 arrive before the bytes 0 to 14. After a read of 11 bytes the rest
of the latter starts at 11 and stands in front of the former, which start at 10. -/
theorem overlapped_unordered : ∃ s, Reach (Reader.step Sample.config) (fun s a => s.promised Sample.config (fun _ => 0) a)
      ⟨0, start Sample.config Sample.memory.receiveBuffer 0⟩ s ∧
    s.buffer.list.map TcpRecvElement.seqNum = [11, 10] ∧ ¬ Represents Sample.config (fun _ => 0) s.read s.buffer :=
  ⟨Sample.reader [Sample.stretch 10 2, Sample.stretch 0 15, .copyData 11], Reach.start.foldl (by decide +kernel),
    by decide +kernel, fun represents => absurd represents.ordered (by decide +kernel)⟩

theorem represents_run_gap : Represents Sample.config (fun _ => 0) 12
    (Sample.reader [Sample.stretch 10 10, Sample.stretch 0 10, .copyData 12]).buffer :=
  represents_run (s := Sample.reader [Sample.stretch 10 10, Sample.stretch 0 10, .copyData 12]) rfl
    (Reach.start.foldl (by decide +kernel))

end TcpReceiveBuffer

end IPStack
