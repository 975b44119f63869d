import IPStack.Tcp.StreamBuffer
import IPStack.Tcp.StreamPlaces

/-! What the receive buffer holds of a stream whose segments have arrived. -/

namespace IPStack

open TcpSocket TcpReceiveBuffer

/-! ### The stream in the receiver's sequence numbers -/

namespace Stream

variable {c : Config} {v v' : Stream} {first len : Nat} {copied : List UInt8} {b b' : TcpReceiveBuffer} {r : ReceiveBuffer}

/-- The segments carry the first bytes. -/
def Sound (v : Stream) : Prop := payload v.segments <+: v.bytes

/-- The stream has a segment of `len` bytes that starts at an unwrapped sequence number. -/
def Segmented (v : Stream) (first len : Nat) : Prop := ∃ position, first = v.first.toNat + position ∧ v.Cut position len

/-- The number behind the last byte. -/
def top (v : Stream) : Nat := v.first.toNat + 1 + v.bytes.length

/-- The bytes, continued in some way. -/
def Continues (v : Stream) (stream : Nat → UInt8) : Prop := Carries stream (v.first.toNat + 1) v.bytes.length v.bytes

/-- The packet holds a segment of the stream, of the size that its buffer says. -/
def Queues (v : Stream) (r : ReceiveBuffer) (position : Nat) : Prop :=
  v.Places ⟨position, r.segment⟩ ∧ r.size.toNat = r.segment.headerLen.toNat * 4 + r.segment.data.length

/-- The buffer holds segments behind the bytes that were copied. -/
def Reads (c : Config) (v : Stream) (copied : List UInt8) (b : TcpReceiveBuffer) : Prop :=
  ∀ stream, v.Continues stream → Stores c stream v.Segmented (v.first.toNat + 1 + copied.length) b

theorem number (v : Stream) (position : Nat) :
    v.first + BitVec.ofNat 32 position = BitVec.ofNat 32 (v.first.toNat + position) := by
  rw [BitVec.ofNat_add, BitVec.ofNat_toNat, BitVec.setWidth_eq]

theorem cut_inside {position : Nat} (sound : v.Sound) (cut : v.Cut position len) : position + len ≤ 1 + v.bytes.length := by
  obtain ⟨-, before, segment, after, split, rfl, rfl⟩ := cut
  have inside := sound.length_le
  rw [split, payload_append, payload_cons, List.length_append, List.length_append] at inside
  omega

theorem cut_disjoint {position position' len' : Nat} (cut : v.Cut position len) (cut' : v.Cut position' len') :
    (position < position' → position + len ≤ position') ∧ (position = position' → len = len') := by
  obtain ⟨nonempty, before, segment, after, split, rfl, rfl⟩ := cut
  obtain ⟨nonempty', before', segment', after', split', rfl, rfl⟩ := cut'
  rw [split] at split'
  rcases List.append_eq_append_iff.mp split' with ⟨middle, rfl, tail⟩ | ⟨middle, rfl, tail⟩
  · cases middle with
    | nil =>
      obtain ⟨rfl, -⟩ := List.cons.inj (tail.trans (List.nil_append _))
      simp
    | cons head rest =>
      obtain ⟨rfl, -⟩ := List.cons.inj tail
      rw [payload_append, payload_cons, List.length_append, List.length_append]
      omega
  · cases middle with
    | nil =>
      obtain ⟨rfl, -⟩ := List.cons.inj (tail.trans (List.nil_append _))
      simp
    | cons head rest =>
      obtain ⟨rfl, -⟩ := List.cons.inj tail
      rw [payload_append, payload_cons, List.length_append, List.length_append]
      omega

theorem segmented_cutting (v : Stream) : Cutting v.Segmented where
  nonempty := by
    rintro first len ⟨position, -, cut⟩
    exact cut.1
  disjoint := by
    rintro first len first' len' ⟨position, rfl, cut⟩ ⟨position', rfl, cut'⟩ before
    have := (cut_disjoint cut cut').1 (by omega)
    omega
  whole := by
    rintro first len len' ⟨position, rfl, cut⟩ ⟨position', same, cut'⟩
    exact (cut_disjoint cut cut').2 (by omega)

theorem Sound.segmented_le (sound : v.Sound) (segmented : v.Segmented first len) : first + len ≤ v.top := by
  obtain ⟨position, rfl, cut⟩ := segmented
  have := cut_inside sound cut
  unfold top
  omega

/-- There is such a continuation. -/
theorem continues (v : Stream) : v.Continues fun n => v.bytes.getD (n - (v.first.toNat + 1)) 0 := by
  intro i inside
  have at_ : v.first.toNat + 1 + i - (v.first.toNat + 1) = i := by omega
  simp only [at_]
  rw [List.getElem?_eq_getElem inside]
  simp [inside]

/-! ### The stream goes on -/

theorem Extends.getElem (extends_ : Extends v v') {i : Nat} (inside : i < v.bytes.length) : v'.bytes[i]? = v.bytes[i]? := by
  obtain ⟨more, longer⟩ := extends_.bytes
  rw [← longer, List.getElem?_append_left inside]

theorem Extends.places (extends_ : Extends v v') {p : Packet} (places : v.Places p) : v'.Places p := by
  cases places with
  | bare bare => exact .bare bare
  | syn position syn fin data seqnum => exact .syn position syn fin data (seqnum.trans extends_.first.symm)
  | data cut syn fin data seqnum =>
    refine .data (extends_.cut cut) syn fin (fun i inside => ?_) (by rw [extends_.first]; exact seqnum)
    rw [data i inside]
    refine (extends_.getElem ?_).symm
    have some : v.bytes[p.position - 1 + i]? = some p.segment.data[i] := by
      rw [← data i inside, List.getElem?_eq_getElem inside]
    exact (List.getElem?_eq_some_iff.mp some).1
  | fin ended position syn fin data seqnum =>
    obtain ⟨ended', same⟩ := extends_.ended ended
    exact .fin ended' (by rw [same]; exact position) syn fin data (by rw [extends_.first]; exact seqnum)

theorem Extends.continues (extends_ : Extends v v') {stream : Nat → UInt8} (continues : v'.Continues stream) :
    v.Continues stream := by
  intro i inside
  rw [← extends_.getElem inside, continues i (lt_of_lt_of_le inside extends_.bytes.length_le), extends_.first]

theorem Extends.reads (extends_ : Extends v v') (reads : v.Reads c copied b) : v'.Reads c copied b := by
  intro stream continues
  have more : ∀ first len, v.Segmented first len → v'.Segmented first len := by
    rintro first len ⟨position, rfl, cut⟩
    exact ⟨position, by rw [extends_.first], extends_.cut cut⟩
  have stores := (reads stream (extends_.continues continues)).mono more
  rwa [extends_.first]

/-! ### Packets -/

theorem Queues.payloadLen {position : Nat} (queues : v.Queues r position) :
    r.payloadLen = BitVec.ofNat 32 r.segment.data.length := by
  have size := queues.2
  have head := r.segment.headerLen.isLt
  have bound := r.size.isLt
  apply BitVec.eq_of_toNat_eq
  unfold ReceiveBuffer.payloadLen
  have four : (4 : BitVec 32).toNat = 4 := rfl
  rw [BitVec.toNat_sub, BitVec.toNat_mul, BitVec.toNat_setWidth, BitVec.toNat_setWidth, BitVec.toNat_ofNat, four]
  omega

theorem Queues.short {position : Nat} (queues : v.Queues r position) : r.segment.data.length < 2 ^ 16 := by
  have size := queues.2
  have bound := r.size.isLt
  omega

/-! ### The receive buffer -/

theorem Reads.represents (sliding : c.slidingWindowReceive = true) (reads : v.Reads c copied b) :
    Represents c (fun n => v.bytes.getD (n - (v.first.toNat + 1)) 0) (v.first.toNat + 1 + copied.length) b :=
  (reads _ v.continues).streams.represents sliding

theorem Reads.start (c : Config) (v : Stream) (memory : TcpReceiveBuffer) : v.Reads c [] (start c memory (v.first + 1)) := by
  intro stream _
  have first : v.first + 1 = BitVec.ofNat 32 (v.first.toNat + 1) := v.number 1
  rw [first]
  exact .start c stream v.Segmented memory (v.first.toNat + 1)

/-- No more is stored than was written. -/
theorem Reads.stored_le (reads : v.Reads c copied b) (sound : v.Sound) (prefix_ : copied <+: v.bytes) :
    copied.length + total b.continuous ≤ v.bytes.length := by
  have read : v.first.toNat + 1 + copied.length ≤ v.top := by
    have := prefix_.length_le
    unfold top
    omega
  have inside := (reads _ v.continues).total_le read sound.segmented_le
  unfold top at inside
  omega

/-- A read copies the bytes that follow. -/
theorem Reads.copyData (reads : v.Reads c copied b) (sliding : c.slidingWindowReceive = true) (sound : v.Sound)
    (prefix_ : copied <+: v.bytes) {len : BitVec 32} (allowed : len ≤ b.getRecvBytes c) :
    (b.copyData c len).1.length = len.toNat ∧ copied ++ (b.copyData c len).1 <+: v.bytes ∧
      v.Reads c (copied ++ (b.copyData c len).1) (b.copyData c len).2.2 ∧
      total (b.copyData c len).2.2.continuous + len.toNat = total b.continuous := by
  have represents := reads.represents sliding
  have stored := reads.stored_le sound prefix_
  have available : len.toNat ≤ total b.continuous := represents.recvBytes ▸ BitVec.le_def.mp allowed
  have bytes : (b.copyData c len).1 = (v.bytes.drop copied.length).take len.toNat := by
    rw [(represents.copies len allowed).1]
    apply List.ext_getElem?
    intro i
    by_cases inside : i < len.toNat
    · have behind : v.first.toNat + 1 + copied.length + i - (v.first.toNat + 1) = copied.length + i := by omega
      have written : copied.length + i < v.bytes.length := by omega
      rw [List.getElem?_take_of_lt inside, List.getElem?_drop, List.getElem?_map, List.getElem?_range inside]
      simp [behind, written]
    · rw [List.getElem?_eq_none (by simp; omega), List.getElem?_eq_none (by simp; omega)]
  have length : (b.copyData c len).1.length = len.toNat := by
    rw [bytes, List.length_take, List.length_drop]
    omega
  have whole := List.prefix_append_drop prefix_
  have next : copied ++ (b.copyData c len).1 <+: v.bytes := by
    rw [bytes]
    conv_rhs => rw [whole]
    exact (List.prefix_append_right_inj _).mpr (List.take_prefix _ _)
  have later : v.Reads c (copied ++ (b.copyData c len).1) (b.copyData c len).2.2 := by
    intro stream continues
    rw [List.length_append, length, ← Nat.add_assoc]
    exact (reads stream continues).copyData v.segmented_cutting sliding allowed
  refine ⟨length, next, later, ?_⟩
  have left : (b.copyData c len).2.2.getRecvBytes c = b.getRecvBytes c - len := by
    rw [getRecvBytes_eq sliding, getRecvBytes_eq sliding, TcpReceiveBuffer.copyData, if_pos sliding]
    rfl
  have bytes' := (later.represents sliding).recvBytes
  rw [left, BitVec.toNat_sub_of_le allowed, represents.recvBytes] at bytes'
  omega

/-- A segment of the stream arrives. -/
theorem Reads.insert (reads : v.Reads c copied b) (sliding : c.slidingWindowReceive = true) {position : Nat}
    (queues : v.Queues r position) (nonempty : 0 < r.segment.data.length)
    (near : 1 + copied.length ≤ position + 2 ^ 31 ∧ position + r.segment.data.length ≤ 1 + copied.length + 2 ^ 31)
    (inserted : b.insert c r r.segment.seqnum r.payloadLen = some b') : v.Reads c copied b' := by
  intro stream continues
  rw [queues.payloadLen, TcpReceiveBuffer.insert, if_pos sliding] at inserted
  cases queues.1 with
  | bare bare => exact absurd bare (by unfold TcpSegment.seqLen; dsimp only; omega)
  | syn _ _ _ data _ => exact absurd data (List.ne_nil_of_length_pos nonempty)
  | fin _ _ _ _ data _ => exact absurd data (List.ne_nil_of_length_pos nonempty)
  | data cut syn fin data seqnum =>
    dsimp only at cut data seqnum
    have behind : 1 ≤ position := by
      obtain ⟨-, before, segment, after, -, rfl, -⟩ := cut
      omega
    have first : r.segment.seqnum = BitVec.ofNat 32 (v.first.toNat + position) := seqnum.trans (v.number position)
    rw [first] at inserted
    refine (reads stream continues).insert ⟨position, rfl, cut⟩ nonempty ⟨by omega, by omega⟩ (fun i inside => ?_) inserted
    have some : v.bytes[position - 1 + i]? = Option.some r.segment.data[i] := by
      rw [← data i inside, List.getElem?_eq_getElem inside]
    obtain ⟨written, -⟩ := List.getElem?_eq_some_iff.mp some
    rw [data i inside, continues _ written]
    congr 2
    omega

end Stream

end IPStack
