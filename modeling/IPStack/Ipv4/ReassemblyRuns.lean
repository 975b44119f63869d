import IPStack.Ipv4.ReassemblyBitmap
import IPStack.Lib.Reach

/-! What the reassembly buffer holds over every sequence of fragments. -/

namespace IPStack

open Transition Ipv4Packet

def Copy.covers (p : Copy) (i : Nat) : Prop := p.start ≤ i ∧ i < p.start + p.len

instance (p : Copy) (i : Nat) : Decidable (p.covers i) := inferInstanceAs (Decidable (_ ∧ _))

/-- The blocks of eight bytes that `update_bitmap` marks for a copy. -/
def Copy.touches (p : Copy) (b : Nat) : Prop := p.start / 8 ≤ b ∧ b ≤ (p.start + p.len) / 8

instance (p : Copy) (b : Nat) : Decidable (p.touches b) := inferInstanceAs (Decidable (_ ∧ _))

/-- The byte of the fragment that a copy puts at offset `i` of the buffer. -/
def Copy.byteAt (p : Copy) (i : Nat) : BitVec 8 := (getData p.packet).byte (i - p.start)

namespace Sample

/-- A host with the address 10.0.0.1. -/
def interface : Interface where
  ipv4Up := true
  ipv4Addr := 0x0100000A
  hasTransmitterHardwareChecksumming := false
  hasReceiverHardwareChecksumming := false

/-- An IPv4 header from 10.0.0.2 to 10.0.0.1 with the payload behind it. -/
def packet (protocol : UInt8) (flags : UInt8) (blocks : UInt8) (payload : Bytes) : Bytes :=
  let header (high low : UInt8) : Bytes :=
    [0x45, 0, 0, UInt8.ofNat (20 + payload.length), 0, 7, flags <<< 5, blocks, 64, protocol, low, high,
      10, 0, 0, 2, 10, 0, 0, 1]
  let sum := Ipv4Packet.cksum (header 0 0) 10
  header (UInt8.ofBitVec (sum.extractLsb' 8 8)) (UInt8.ofBitVec (sum.setWidth 8)) ++ payload

/-- A UDP fragment at an offset in blocks of eight bytes. -/
def fragment (more : Bool) (blocks : UInt8) (payload : Bytes) : Bytes := packet 17 (if more then 1 else 0) blocks payload

end Sample

namespace Reassembly

/-- The byte at offset `i` comes from a fragment of the datagram in the buffer that was
received since the last reset. -/
def Written (r : Reassembly) (i : Nat) : Prop :=
  ∃ p ∈ r.trace.copied, r.sameDatagram p.packet ∧ p.covers i ∧ r.buffer.byte i = p.byteAt i

instance (r : Reassembly) (i : Nat) : Decidable (r.Written i) :=
  inferInstanceAs (Decidable (∃ p ∈ r.trace.copied, r.sameDatagram p.packet ∧ p.covers i ∧ r.buffer.byte i = p.byteAt i))

/-- The block of a byte is marked whether or not the byte is there: it lies in the byte of
the bitmap that `full_bitmap` leaves out, or where the header or a fragment starts or ends. -/
def Unwatched (r : Reassembly) (i : Nat) : Prop :=
  i / 64 + 1 = r.totalLen.toNat / 64 ∨ i / 8 = r.headerLen.toNat / 8 ∨
    ∃ p ∈ r.trace.copied, i / 8 = p.start / 8 ∨ i / 8 = (p.start + p.len) / 8

instance (r : Reassembly) (i : Nat) : Decidable (r.Unwatched i) :=
  inferInstanceAs (Decidable (_ ∨ _ ∨ ∃ p ∈ r.trace.copied, i / 8 = p.start / 8 ∨ i / 8 = (p.start + p.len) / 8))

/-- Every byte behind the header comes from a fragment. -/
def AllWritten (r : Reassembly) : Prop := ∀ i < r.totalLen.toNat, r.headerLen.toNat ≤ i → r.Written i

instance (r : Reassembly) : Decidable r.AllWritten :=
  inferInstanceAs (Decidable (∀ i < r.totalLen.toNat, r.headerLen.toNat ≤ i → r.Written i))

/-- A fragment that was received covers every byte of the datagram whose block says nothing. -/
def Closed (r : Reassembly) : Prop :=
  ∀ i < r.totalLen.toNat, r.headerLen.toNat ≤ i → r.Unwatched i → ∃ p ∈ r.trace.copied, p.covers i

instance (r : Reassembly) : Decidable r.Closed :=
  inferInstanceAs (Decidable
    (∀ i < r.totalLen.toNat, r.headerLen.toNat ≤ i → r.Unwatched i → ∃ p ∈ r.trace.copied, p.covers i))

/-- The buffer since its last reset. -/
structure Filled (r : Reassembly) : Prop extends Shaped r where
  within : ∀ p ∈ r.trace.copied, 20 ≤ p.start ∧ p.start + p.len ≤ bufferSize
  same : ∀ p ∈ r.trace.copied, r.sameDatagram p.packet
  origin : ∀ i, (∃ p ∈ r.trace.copied, p.covers i) → r.Written i
  marks : ∀ b < 96, marked r.bitmap b ↔ b ≤ r.headerLen.toNat / 8 ∨ ∃ p ∈ r.trace.copied, p.touches b

/-- The aspect's memory between two packets. -/
structure Inv (r : Reassembly) : Prop where
  buffer : r.buffer.length = bufferSize
  hot : r.expiredTime ≠ 0 → r.crashed = false → Filled r

variable {clock : Clock} {now : BitVec 64} {r r' : Reassembly} {packet : Bytes} {offset : BitVec 16}

/-- What `IPv4_Receive` has checked of a packet's lengths. -/
structure Lengths (packet : Bytes) : Prop where
  header : 20 ≤ getIhl packet * 4
  total : getIhl packet * 4 ≤ getTotalLen packet

theorem accepted_lengths {interface : Interface} {len : Nat} (accepted : accepted packet interface len) :
    Lengths packet := by
  obtain ⟨-, -, header, total⟩ := validPacketLength_spec accepted.2.1
  exact ⟨header, total⟩

/-! ### The header and the identification -/

/-- Two buffers that agree in the bytes 4 to 19 hold the same datagram. -/
theorem sameDatagram_congr {a b : Reassembly} (agree : ∀ i, 4 ≤ i → i < 20 → (i < 6 ∨ 12 ≤ i) → a.buffer.byte i = b.buffer.byte i) :
    a.sameDatagram packet ↔ b.sameDatagram packet := by
  have src : getSrcIpaddr a.buffer = getSrcIpaddr b.buffer := by
    simp only [getSrcIpaddr, Bytes.long, Bytes.short, agree _ (by decide : 4 ≤ 12) (by decide) (by decide),
      agree 13 (by decide) (by decide) (by decide), agree 14 (by decide) (by decide) (by decide),
      agree 15 (by decide) (by decide) (by decide)]
  have dst : getDstIpaddr a.buffer = getDstIpaddr b.buffer := by
    simp only [getDstIpaddr, Bytes.long, Bytes.short, agree 16 (by decide) (by decide) (by decide),
      agree 17 (by decide) (by decide) (by decide), agree 18 (by decide) (by decide) (by decide),
      agree 19 (by decide) (by decide) (by decide)]
  have id : getId a.buffer = getId b.buffer := by
    simp only [getId, Bytes.netShort, agree 4 (by decide) (by decide) (by decide),
      agree 5 (by decide) (by decide) (by decide)]
  unfold sameDatagram
  rw [src, dst, id]

theorem headerLen_toNat (packet : Bytes) : (BitVec.ofNat 8 (getIhl packet * 4)).toNat = getIhl packet * 4 := by
  have := getIhl_lt packet
  rw [BitVec.toNat_ofNat]
  omega

theorem reset_marked (r : Reassembly) (packet : Bytes) :
    Marked (offsets 0 (getIhl packet * 4)) (r.clear packet) (r.reset packet) := by
  have marked := updateBitmap_marked (r.clear packet) 0 (BitVec.ofNat 8 (getIhl packet * 4)).toNat
  rw [headerLen_toNat] at marked
  unfold reset
  rw [headerLen_toNat]
  exact marked

theorem not_marked_cleared (b : Nat) : ¬ marked (List.replicate 12 0#8) b := by
  unfold marked
  rw [List.getD_eq_getElem?_getD, List.getElem?_replicate]
  split_ifs <;> simp

theorem reset_filled (length : r.buffer.length = bufferSize) (lengths : Lengths packet) :
    Filled (r.reset packet) ∧ (r.reset packet).sameDatagram packet ∧ (r.reset packet).trace.copied = [] ∧
      (r.reset packet).headerLen.toNat = getIhl packet * 4 ∧ (r.reset packet).totalLen = 0 := by
  have updated := reset_marked r packet
  have bitmap : (r.clear packet).bitmap = List.replicate 12 0#8 := rfl
  have ihl := getIhl_lt packet
  have room : 0 + getIhl packet * 4 ≤ r.buffer.length := by
    rw [length]
    unfold bufferSize
    omega
  have noCopies : (r.reset packet).trace.copied = [] := by
    rw [updated.frame]
    rfl
  have headerEq : (r.reset packet).headerLen.toNat = getIhl packet * 4 := by
    rw [updated.header]
    · exact headerLen_toNat packet
    intro i member
    have := mem_offsets.mp member
    rw [bitmap, List.length_replicate]
    omega
  have bufferEq : (r.reset packet).buffer = r.buffer.memcpy 0 packet (getIhl packet * 4) := by
    rw [updated.frame, ← headerLen_toNat]
    rfl
  have totalEq : (r.reset packet).totalLen = 0 := by
    rw [updated.frame]
    rfl
  have minimum := lengths.header
  refine ⟨⟨⟨?_, ?_, ⟨?_, ?_⟩, ?_⟩, ?_, ?_, ?_, ?_⟩, ?_, noCopies, headerEq, totalEq⟩
  · rw [bufferEq, Bytes.length_memcpy room, length]
  · rw [updated.length, bitmap, List.length_replicate]
  · rw [headerEq]
    exact minimum
  · rw [headerEq]
    omega
  · rw [totalEq]
    exact Nat.zero_le _
  · simp [noCopies]
  · simp [noCopies]
  · simp [noCopies]
  · intro b below
    rw [updated.blocks b (by rw [bitmap, List.length_replicate]; omega), bitmap, noCopies, headerEq]
    have touched : (∃ i ∈ offsets (0 / 8 * 8) (getIhl packet * 4), i / 8 = b) ↔ _ := offsets_blocks
    simp only [Nat.zero_div, Nat.zero_mul, Nat.zero_le, true_and] at touched
    have unmarked := not_marked_cleared b
    rw [touched, iff_false_intro unmarked, false_or]
    simp
  · have agree : ∀ i, i < 20 → (r.reset packet).buffer.byte i = packet.byte i := by
      intro i inside
      rw [bufferEq, Bytes.byte_memcpy room, if_pos ⟨Nat.zero_le i, by omega⟩, Nat.sub_zero]
    exact (sameDatagram_congr (a := r.reset packet) (b := { r with buffer := packet })
      (fun i _ inside _ => agree i inside)).mpr ⟨rfl, rfl, rfl⟩

/-! ### One fragment -/

theorem dataStart_toNat (r : Reassembly) (offset : BitVec 16) :
    (r.dataStart offset).toNat = r.headerLen.toNat + offset.toNat := by
  have := r.headerLen.isLt
  have := offset.isLt
  unfold dataStart
  simp only [BitVec.toNat_add, BitVec.toNat_setWidth]
  omega

theorem dataEnd_toNat (fits : (r.dataStart offset).toNat + (r.dataLen packet).toNat ≤ bufferSize) :
    (r.dataEnd packet offset).toNat = (r.dataStart offset).toNat + (r.dataLen packet).toNat := by
  unfold bufferSize at fits
  unfold dataEnd
  rw [BitVec.toNat_add]
  omega

/-- The write behind the bitmap leaves the block in which the header ends. -/
theorem or_one (x : BitVec 8) :
    (x ||| 1#8).toNat / 8 = x.toNat / 8 ∧ x.toNat ≤ (x ||| 1#8).toNat ∧ (x ||| 1#8).toNat ≤ x.toNat / 2 * 2 + 1 := by
  revert x
  decide +kernel

/-- The copy that a fragment adds. -/
def added (r : Reassembly) (packet : Bytes) (offset : BitVec 16) : Copy :=
  ⟨packet, (r.dataStart offset).toNat, (r.dataLen packet).toNat⟩

theorem store_marked (fits : (r.dataStart offset).toNat + (r.dataLen packet).toNat ≤ bufferSize) :
    ∃ stored, Marked (offsets ((r.dataStart offset).toNat / 8 * 8) ((r.dataStart offset).toNat + (r.dataLen packet).toNat))
        (r.paste packet offset) stored ∧
      r.store packet offset = { stored with totalLen := (r.store packet offset).totalLen } ∧
      ((r.store packet offset).totalLen.toNat =
        if getFlags packet ≠ mfFlag then (r.dataStart offset).toNat + (r.dataLen packet).toNat else r.totalLen.toNat) := by
  have marked := updateBitmap_marked (r.paste packet offset) (r.dataStart offset).toNat (r.dataEnd packet offset).toNat
  have stop := dataEnd_toNat fits
  refine ⟨_, by rw [← stop]; exact marked, ?_, ?_⟩
  · unfold store
    dsimp only
    split_ifs <;> rfl
  · unfold store
    dsimp only
    split_ifs
    · rw [BitVec.toNat_setWidth, stop]
      unfold bufferSize at fits
      omega
    · rw [marked.frame]
      rfl

theorem store_copied (fits : (r.dataStart offset).toNat + (r.dataLen packet).toNat ≤ bufferSize) :
    (r.store packet offset).trace.copied = r.trace.copied ++ [r.added packet offset] := by
  obtain ⟨stored, updated, result, -⟩ := store_marked fits
  rw [result, updated.frame]
  rfl

/-- A fragment that ends with the last byte of the buffer changes the kept header length,
but not the block in which the header ends. -/
theorem store_header (shaped : Shaped r) (fits : (r.dataStart offset).toNat + (r.dataLen packet).toNat ≤ bufferSize) :
    (r.store packet offset).headerLen.toNat / 8 = r.headerLen.toNat / 8 ∧
      r.headerLen.toNat ≤ (r.store packet offset).headerLen.toNat ∧
      (r.store packet offset).headerLen.toNat ≤ r.headerLen.toNat / 2 * 2 + 1 ∧
      ((r.dataStart offset).toNat + (r.dataLen packet).toNat ≠ bufferSize →
        (r.store packet offset).headerLen = r.headerLen) := by
  obtain ⟨stored, updated, result, -⟩ := store_marked fits
  have length : (r.paste packet offset).bitmap.length = 12 := shaped.bitmap
  have old : (r.paste packet offset).headerLen = r.headerLen := rfl
  have header : stored.headerLen = r.headerLen ∨ stored.headerLen = r.headerLen ||| 1#8 := by
    refine updated.beyond fun i member => ?_
    obtain ⟨-, below, -⟩ := mem_offsets.mp member
    unfold bufferSize at fits
    omega
  have new : (r.store packet offset).headerLen = stored.headerLen := by rw [result]
  obtain ⟨block, above, small⟩ := or_one r.headerLen
  rw [new]
  refine ⟨?_, ?_, ?_, fun other => ?_⟩
  · rcases header with header | header
    · rw [header]
    · rw [header, block]
  · rcases header with header | header
    · rw [header]
    · rw [header]
      omega
  · rcases header with header | header <;> (rw [header]; omega)
  · rw [← old]
    refine updated.header fun i member => ?_
    obtain ⟨-, below, -⟩ := mem_offsets.mp member
    unfold bufferSize at fits other
    omega

theorem store_filled (filled : Filled r) (same : r.sameDatagram packet)
    (fits : (r.dataStart offset).toNat + (r.dataLen packet).toNat ≤ bufferSize) :
    Filled (r.store packet offset) ∧ (r.store packet offset).sameDatagram packet := by
  obtain ⟨stored, updated, result, total⟩ := store_marked fits
  have start := dataStart_toNat r offset
  have inside : (r.dataStart offset).toNat + (r.dataLen packet).toNat ≤ r.buffer.length := filled.buffer ▸ fits
  have buffer : (r.store packet offset).buffer =
      r.buffer.memcpy (r.dataStart offset).toNat (getData packet) (r.dataLen packet).toNat := by
    rw [result, updated.frame]
    rfl
  have copied := store_copied fits
  have bitmap : (r.store packet offset).bitmap = stored.bitmap := by rw [result]
  have bounds := filled.header
  obtain ⟨headerBlock, above, small, -⟩ := store_header filled.toShaped fits
  have agree : ∀ i, i < 20 → (r.store packet offset).buffer.byte i = r.buffer.byte i := by
    intro i inHeader
    rw [buffer, Bytes.byte_memcpy inside, if_neg (by omega)]
  have same' : ∀ p, (r.store packet offset).sameDatagram p ↔ r.sameDatagram p := fun p =>
    sameDatagram_congr fun i _ inHeader _ => agree i inHeader
  refine ⟨⟨⟨?_, ?_, ?_, ?_⟩, ?_, ?_, ?_, ?_⟩, (same' packet).mpr same⟩
  · rw [buffer, Bytes.length_memcpy inside]
    exact filled.buffer
  · rw [bitmap, updated.length]
    exact filled.bitmap
  · omega
  · rw [total]
    split_ifs
    · exact fits
    · exact filled.total
  · rw [copied]
    intro p member
    rcases List.mem_append.mp member with old | new
    · exact filled.within p old
    · rw [List.mem_singleton.mp new]
      exact ⟨show 20 ≤ (r.dataStart offset).toNat by omega, fits⟩
  · rw [copied]
    intro p member
    rw [same']
    rcases List.mem_append.mp member with old | new
    · exact filled.same p old
    · rw [List.mem_singleton.mp new]
      exact same
  · intro i covered
    unfold Written
    rw [copied] at covered ⊢
    rw [buffer, Bytes.byte_memcpy inside]
    by_cases new : (r.added packet offset).covers i
    · refine ⟨r.added packet offset, List.mem_append_right _ (List.mem_singleton_self _), (same' _).mpr same, new, ?_⟩
      exact if_pos new
    · obtain ⟨p, member, covers⟩ := covered
      have old : p ∈ r.trace.copied := (List.mem_append.mp member).resolve_right fun last =>
        new (List.mem_singleton.mp last ▸ covers)
      obtain ⟨q, received, datagram, writes, byte⟩ := filled.origin i ⟨p, old, covers⟩
      refine ⟨q, List.mem_append_left _ received, (same' _).mpr datagram, writes, ?_⟩
      exact (if_neg new).trans byte
  · intro b below
    have length : (r.paste packet offset).bitmap.length = 12 := filled.bitmap
    rw [bitmap, updated.blocks b (by omega), offsets_blocks, headerBlock, copied]
    have before : marked (r.paste packet offset).bitmap b ↔ _ := filled.marks b below
    rw [before, or_assoc]
    refine or_congr_right ?_
    simp only [List.mem_append, List.mem_singleton, or_and_right, exists_or, exists_eq_left]
    rfl

/-! ### Runs -/

theorem Filled.times (filled : Filled r) (time : BitVec 64) (reads : List Nat) :
    Filled { r with expiredTime := time, trace := { r.trace with bitmapAccesses := reads } } :=
  ⟨⟨filled.buffer, filled.bitmap, filled.header, filled.total⟩, filled.within, filled.same, filled.origin, filled.marks⟩

theorem Filled.examined (filled : Filled r) : Filled r.examined :=
  ⟨⟨filled.buffer, filled.bitmap, filled.header, filled.total⟩, filled.within, filled.same, filled.origin, filled.marks⟩

theorem Filled.measured (filled : Filled r) (packet : Bytes) (offset : BitVec 16) : Filled (r.measured packet offset) :=
  ⟨⟨filled.buffer, filled.bitmap, filled.header, filled.total⟩, filled.within, filled.same, filled.origin, filled.marks⟩

theorem finish_byte (length : r.buffer.length = bufferSize) {i : Nat} (other : i < 2 ∨ i = 4 ∨ i = 5 ∨ 8 ≤ i) :
    r.finish.buffer.byte i = r.buffer.byte i := by
  have room : 6 + 2 ≤ r.buffer.length := by rw [length]; decide
  unfold finish
  dsimp only
  rw [Bytes.byte_memcpy, if_neg (by omega), Bytes.byte_memcpy room, if_neg (by omega)]
  rw [Bytes.length_memcpy room]
  omega

theorem finish_length (length : r.buffer.length = bufferSize) : r.finish.buffer.length = bufferSize := by
  have room : 6 + 2 ≤ r.buffer.length := by rw [length]; decide
  unfold finish
  dsimp only
  rw [Bytes.length_memcpy, Bytes.length_memcpy room, length]
  rw [Bytes.length_memcpy room]
  omega

theorem tryReassemble_inv (filled : Filled r) : Inv (r.tryReassemble clock now).1 := by
  unfold tryReassemble
  dsimp only
  split_ifs
  · exact ⟨finish_length (filled.times r.expiredTime _).buffer, fun hot => absurd rfl hot⟩
  · exact ⟨filled.buffer, fun _ _ => filled.times _ _⟩
  · exact ⟨filled.buffer, fun _ _ => filled.times _ r.trace.bitmapAccesses⟩

theorem copyData_inv (filled : Filled r) (same : r.sameDatagram packet) : Inv (r.copyData clock now packet offset).1 := by
  unfold copyData
  dsimp only
  split_ifs with big wraps
  · exact ⟨filled.buffer, fun hot => absurd rfl hot⟩
  · exact ⟨filled.buffer, fun _ alive => absurd alive.symm Bool.false_ne_true⟩
  · exact tryReassemble_inv (store_filled (filled.measured packet offset) same (Nat.le_of_not_lt wraps)).1

theorem hot_of_lt {time : BitVec 64} (hot : now < time) : time ≠ 0 := by
  rintro rfl
  exact absurd hot (BitVec.not_lt_zero)

theorem ipv4Reassemble_inv (inv : Inv r) (lengths : Lengths packet) : Inv (r.ipv4Reassemble clock now packet offset).1 := by
  unfold ipv4Reassemble
  split_ifs with crashed hot same
  · exact inv
  · exact copyData_inv (inv.hot (hot_of_lt hot) (by simpa using crashed)).examined same
  · exact ⟨inv.buffer, fun later alive => (inv.hot later alive).examined⟩
  · obtain ⟨filled, same, -⟩ := reset_filled inv.buffer lengths
    exact copyData_inv filled same

/-- The packet reaches the reassembly. -/
def Arrival.reassembles (a : Arrival) : Prop :=
  accepted a.packet a.interface a.len ∧ getDstIpaddr a.packet = a.interface.ipv4Addr ∧ isFragment a.packet

instance (a : Arrival) : Decidable a.reassembles := inferInstanceAs (Decidable (_ ∧ _))

theorem step_eq (clock : Clock) (r : Reassembly) (a : Arrival) :
    step clock r a =
      if a.reassembles then
        (r.ipv4Reassemble clock a.now a.packet (BitVec.ofNat 16 (getFragmentOffset a.packet * 8))).1
      else r := by
  unfold step ipv4Receive Arrival.reassembles
  split_ifs <;> simp_all

theorem step_inv (inv : Inv r) (a : Arrival) : Inv (step clock r a) := by
  rw [step_eq]
  split_ifs with reaches
  · exact ipv4Reassemble_inv inv (accepted_lengths reaches.1)
  · exact inv

theorem Reach.inv {ok : Reassembly → Arrival → Prop} (reach : Reach (step clock) ok initial r) : Inv r :=
  reach.invariant Inv ⟨List.length_replicate, fun hot => absurd rfl hot⟩ fun _ a inv _ => step_inv inv a

/-! ### Complete datagrams -/

/-- A byte of a complete datagram that no fragment covers lies in an unwatched block. -/
theorem covered_of_full (filled : Filled r) (full : r.fullBitmap.1 = true) {i : Nat} (header : r.headerLen.toNat ≤ i)
    (inside : i < r.totalLen.toNat) (watched : ¬ r.Unwatched i) : ∃ p ∈ r.trace.copied, p.covers i := by
  obtain ⟨-, below, inner, last⟩ := (fullBitmap_iff filled.toShaped).mp full
  obtain ⟨checked, others⟩ := not_or.mp watched
  obtain ⟨behind, apart⟩ := not_or.mp others
  have isMarked : marked r.bitmap (i / 8) := by
    rcases Nat.lt_or_ge (i / 64 + 1) (r.totalLen.toNat / 64) with before | atEnd
    · exact inner _ (by omega)
    · have bit := (last (i / 8 % 8) (Nat.mod_lt _ (by decide))).mpr (.inr (by omega))
      rwa [show 8 * (r.totalLen.toNat / 64) + i / 8 % 8 = i / 8 by omega] at bit
  rcases (filled.marks (i / 8) (by omega)).mp isMarked with inHeader | ⟨p, member, above, upTo⟩
  · omega
  · obtain ⟨first, stop⟩ := not_or.mp fun edge => apart ⟨p, member, edge⟩
    exact ⟨p, member, by omega, by omega⟩

theorem written_iff_closed (filled : Filled r) (full : r.fullBitmap.1 = true) : r.AllWritten ↔ r.Closed := by
  constructor
  · intro written i inside header _
    obtain ⟨p, member, -, covers, -⟩ := written i inside header
    exact ⟨p, member, covers⟩
  · intro closed i inside header
    by_cases watched : r.Unwatched i
    · exact filled.origin i (closed i inside header watched)
    · exact filled.origin i (covered_of_full filled full header inside watched)

/-- The new header of a complete datagram is in front of the bytes in question. -/
theorem finish_written (filled : Filled r) : r.finish.AllWritten ↔ r.AllWritten := by
  have agree : ∀ i, i = 4 ∨ i = 5 ∨ 8 ≤ i → r.finish.buffer.byte i = r.buffer.byte i :=
    fun i other => finish_byte filled.buffer (.inr other)
  have same : ∀ p, r.finish.sameDatagram p ↔ r.sameDatagram p := fun p =>
    sameDatagram_congr fun i above below apart => agree i (by omega)
  refine forall_congr' fun i => imp_congr_right fun _ => imp_congr_right fun header => ?_
  have bounds := filled.header
  have first : r.headerLen.toNat ≤ i := header
  refine exists_congr fun p => and_congr_right fun _ => ?_
  rw [same, agree i (by omega)]

theorem tryReassemble_complete (complete : (r.tryReassemble clock now).2 = true) :
    r.fullBitmap.1 = true ∧ ((r.tryReassemble clock now).1.AllWritten ↔ r.finish.AllWritten) ∧
      ((r.tryReassemble clock now).1.Closed ↔ r.Closed) := by
  unfold tryReassemble at complete ⊢
  dsimp only at complete ⊢
  split_ifs at complete ⊢ with known full
  exact ⟨full, Iff.rfl, Iff.rfl⟩

theorem tryReassemble_written (filled : Filled r) (complete : (r.tryReassemble clock now).2 = true) :
    (r.tryReassemble clock now).1.AllWritten ↔ (r.tryReassemble clock now).1.Closed := by
  obtain ⟨full, written, closed⟩ := tryReassemble_complete complete
  rw [written, closed, finish_written filled]
  exact written_iff_closed filled full

theorem copyData_written (filled : Filled r) (same : r.sameDatagram packet)
    (complete : (r.copyData clock now packet offset).2 = true) :
    (r.copyData clock now packet offset).1.AllWritten ↔ (r.copyData clock now packet offset).1.Closed := by
  unfold copyData at complete ⊢
  dsimp only at complete ⊢
  split_ifs at complete ⊢ with big wraps
  exact tryReassemble_written (store_filled (filled.measured packet offset) same (Nat.le_of_not_lt wraps)).1 complete

/-- When a datagram is reported complete, each byte behind the header comes from one of its
fragments if and only if the fragments cover the bytes whose blocks the bitmap says nothing about. -/
theorem complete_written (len : Nat) (reach : Reach (step clock) (fun _ _ => True) initial r)
    (valid : validPacketLength packet len ≠ 0) (complete : (r.ipv4Reassemble clock now packet offset).2 = true) :
    (r.ipv4Reassemble clock now packet offset).1.AllWritten ↔ (r.ipv4Reassemble clock now packet offset).1.Closed := by
  have inv := Reach.inv reach
  obtain ⟨-, -, header, total⟩ := validPacketLength_spec valid
  unfold ipv4Reassemble at complete ⊢
  split_ifs at complete ⊢ with crashed hot same
  · exact copyData_written (inv.hot (hot_of_lt hot) (by simpa using crashed)).examined same complete
  · obtain ⟨filled, same, -⟩ := reset_filled inv.buffer ⟨header, total⟩
    exact copyData_written filled same complete

/-- The last fragment of a datagram of 100 bytes arrives alone: the blocks of its 40 bytes
are the only ones that are checked. -/
theorem lastFragment_complete :
    validPacketLength (Sample.fragment false 5 (List.replicate 40 1)) 60 ≠ 0 ∧
      (initial.ipv4Reassemble Sample.clock 0 (Sample.fragment false 5 (List.replicate 40 1)) 40).2 = true ∧
      ¬ (initial.ipv4Reassemble Sample.clock 0 (Sample.fragment false 5 (List.replicate 40 1)) 40).1.AllWritten := by
  decide +kernel

theorem complete_written_inOrder :
    ((step Sample.clock initial ⟨0, Sample.interface, Sample.fragment true 0 (List.replicate 40 1), 60⟩).ipv4Reassemble
      Sample.clock 1 (Sample.fragment false 5 (List.replicate 40 2)) 40).1.AllWritten :=
  (complete_written 60 (Reach.start.next trivial) (by decide +kernel) (by decide +kernel)).mpr (by decide +kernel)

end Reassembly

end IPStack
