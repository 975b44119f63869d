import Mathlib.Data.List.Perm.Basic
import IPStack.Lowpan.HeaderCompression

/-! Reading back a compressed header, and where its payload is taken to begin. -/

namespace IPStack

open Ipv6Addr

/-- What the sender sets. -/
structure IPv6HeaderFields where
  src : Ipv6Addr
  dst : Ipv6Addr
  nextheader : UInt8
  hoplimit : UInt8
  payloadLen : BitVec 16

inductive HeaderSetter where
  | payloadLen
  | hoplimit
  | nextheader
  | srcIpaddr
  | dstIpaddr
deriving DecidableEq, Repr

def HeaderSetter.all : List HeaderSetter := [.payloadLen, .hoplimit, .nextheader, .srcIpaddr, .dstIpaddr]

def HopCount.value : HopCount → Option UInt8
  | .uncompressed => none
  | .hopcount255 => some 255
  | .hopcount64 => some 64
  | .hopcount1 => some 1

namespace IPv6hcBuild

variable (b : IPv6hcBuild)

/-- The bits of the address that the aspect elides are those the decoder has for them. -/
def CompressibleUnicast (aspect : Option UnicastAspect) (addr : Ipv6Addr) : Prop :=
  match aspect with
  | none => True
  | some .addr8 => addr = linkLocal64 fun i => addr.toList.getD (8 + i) 0
  | some .addr2 => addr = linkLocal16 fun i => addr.toList.getD (14 + i) 0
  | some .addr0 => addr = linkLocal0 b.getDestIpFromUpperProtocolAddr

def CompressibleMulticast (addr : Ipv6Addr) : Prop :=
  match b.destMulticastAddr with
  | none => True
  | some .addr4 => addr = multicast48 fun i => if i = 0 then addr[1]! else addr.toList.getD (10 + i) 0
  | some .addr2 => addr = multicast32 fun i => if i = 0 then addr[1]! else addr.toList.getD (12 + i) 0
  | some .addr1 => addr = multicast8 fun _ => addr[15]!

structure Compressible (h : IPv6HeaderFields) : Prop where
  hoplimit : ∀ t ∈ b.hopcount.value, h.hoplimit = t
  src : b.CompressibleUnicast b.srcAddr h.src
  dst : if getIPv6AddressScope h.dst = .multicast then b.CompressibleMulticast h.dst
    else b.CompressibleUnicast b.destAddr h.dst

end IPv6hcBuild

namespace IPv6hcPacket

variable {b : IPv6hcBuild} {h : IPv6HeaderFields} {p : IPv6hcPacket}

def set (b : IPv6hcBuild) (h : IPv6HeaderFields) (p : IPv6hcPacket) : HeaderSetter → IPv6hcPacket
  | .payloadLen => p.setPayloadLen h.payloadLen
  | .hoplimit => p.setHoplimit b h.hoplimit
  | .nextheader => p.setNextheader h.nextheader
  | .srcIpaddr => p.setSrcIpaddr b h.src
  | .dstIpaddr => p.setDstIpaddr b h.dst

/-- `setUpHeader` and the setters in some order. -/
def encode (b : IPv6hcBuild) (h : IPv6HeaderFields) (p : IPv6hcPacket) (order : List HeaderSetter) : IPv6hcPacket :=
  order.foldl (set b h) (p.setUpHeader b)

/-- The first position behind all written ranges. -/
def writtenEnd (p : IPv6hcPacket) : Nat := (p.written.map fun range => range.1 + range.2).foldr max 0

/-- The written header reads back as it was set, its fields do not overlap, and its payload
begins behind it, where the sender put it. -/
structure RoundTrips (b : IPv6hcBuild) (srcStack dstStack : Ipv6Addr) (h : IPv6HeaderFields) (p : IPv6hcPacket) : Prop where
  src : p.getSrcIpaddr b srcStack = h.src
  dst : p.getDstIpaddr b dstStack = h.dst
  nextheader : p.getNextheader = h.nextheader
  hoplimit : p.getHoplimit = h.hoplimit
  payloadLen : p.getPayloadLen b = h.payloadLen
  disjoint : p.written.Pairwise fun range range' => range.1 + range.2 ≤ range'.1 ∨ range'.1 + range'.2 ≤ range.1
  payload : p.getPayload = p.writtenEnd
  announced : b.getWriteHeaderSize + IPv6hcBuild.getWriteSrcHeaderSize +
      (if getIPv6AddressScope h.dst = .multicast then b.getWriteMulticastDestHeaderSize else b.getWriteDestHeaderSize) =
    IPv6hcBuild.hcFragHeader + p.writtenEnd

/-! ### What a setter writes -/

/-- The bits a setter adds to the second byte. -/
def flags (b : IPv6hcBuild) (h : IPv6HeaderFields) : HeaderSetter → UInt8
  | .payloadLen | .hoplimit | .nextheader => 0
  | .srcIpaddr =>
    match b.srcAddr with
    | none => 0
    | some .addr8 => 0x10
    | some .addr2 => 0x20
    | some .addr0 => 0x30
  | .dstIpaddr =>
    if getIPv6AddressScope h.dst = .multicast then 0x08
    else
      match b.destAddr, b.destMulticastAddr with
      | none, none => 0
      | some u, none => unicast u
      | none, some m => multicast m
      | some u, some m => if b.multicastAdviceOuter then multicast m else unicast u
where
  unicast : UnicastAspect → UInt8
    | .addr8 => 0x01
    | .addr2 => 0x02
    | .addr0 => 0x03
  multicast : MulticastAspect → UInt8
    | .addr4 => 0x01
    | .addr2 => 0x02
    | .addr1 => 0x03

/-- The ranges a setter writes to. -/
def ranges (b : IPv6hcBuild) (h : IPv6HeaderFields) : HeaderSetter → List (Nat × Nat)
  | .payloadLen => []
  | .hoplimit => if b.hopcount = .uncompressed then [(3, 1)] else []
  | .nextheader => [(2, 1)]
  | .srcIpaddr =>
    match b.srcAddr with
    | none => [(3 + b.hoplimitSize, 16)]
    | some u => unicast (3 + b.hoplimitSize) u
  | .dstIpaddr =>
    if getIPv6AddressScope h.dst = .multicast then [(19 + b.hoplimitSize, 16)]
    else
      match b.destAddr, b.destMulticastAddr with
      | none, none => [(19 + b.hoplimitSize, 16)]
      | some u, none => unicast (19 + b.hoplimitSize) u
      | none, some m => multicast (19 + b.hoplimitSize) m
      | some u, some m =>
        if b.multicastAdviceOuter then multicast (19 + b.hoplimitSize) m else unicast (19 + b.hoplimitSize) u
where
  unicast (start : Nat) : UnicastAspect → List (Nat × Nat)
    | .addr8 => [(start, 8)]
    | .addr2 => [(start, 2)]
    | .addr0 => []
  multicast (start : Nat) : MulticastAspect → List (Nat × Nat)
    | .addr4 => [(start, 4)]
    | .addr2 => [(start, 2)]
    | .addr1 => [(start + 1, 1)]

/-- The dispatch bytes and the written ranges after a step. -/
structure Writes (p q : IPv6hcPacket) (flags : UInt8) (ranges : List (Nat × Nat)) : Prop where
  data0 : q.data 0 = p.data 0
  data1 : q.data 1 = p.data 1 ||| flags
  written : q.written = p.written ++ ranges

theorem writes_none : Writes p p 0 [] := ⟨rfl, UInt8.or_zero.symm, (List.append_nil _).symm⟩

theorem writes_write {start : Nat} (bytes : List UInt8) (behind : 2 ≤ start) :
    Writes p (p.write start bytes) 0 [(start, bytes.length)] where
  data0 := if_neg (by omega)
  data1 := (if_neg (by omega)).trans UInt8.or_zero.symm
  written := rfl

theorem writes_orFlagbyte (flags : UInt8) : Writes p (p.orFlagbyte flags) flags [] :=
  ⟨rfl, rfl, (List.append_nil _).symm⟩

theorem Writes.trans {q q' : IPv6hcPacket} {f f' : UInt8} {r r' : List (Nat × Nat)} (first : Writes p q f r)
    (second : Writes q q' f' r') : Writes p q' (f ||| f') (r ++ r') where
  data0 := second.data0.trans first.data0
  data1 := by rw [second.data1, first.data1, UInt8.or_assoc]
  written := by rw [second.written, first.written, List.append_assoc]

theorem writes_both {start : Nat} (bytes : List UInt8) (behind : 2 ≤ start) (flags : UInt8) :
    Writes p ((p.write start bytes).orFlagbyte flags) flags [(start, bytes.length)] := by
  simpa only [UInt8.zero_or, List.append_nil] using (writes_write bytes behind).trans (writes_orFlagbyte flags)

theorem writes_full {start : Nat} (addr : Ipv6Addr) (behind : 2 ≤ start) :
    Writes p (p.write start addr.toList) 0 [(start, 16)] := by
  simpa only [Vector.length_toList] using writes_write addr.toList behind

theorem writes_low {start : Nat} (addr : Ipv6Addr) (behind : 2 ≤ start) (flags : UInt8) :
    Writes p ((p.write start (addr.toList.drop 8)).orFlagbyte flags) flags [(start, 8)] := by
  simpa only [List.length_drop, Vector.length_toList] using writes_both (addr.toList.drop 8) behind flags

theorem setSrcIpaddr_writes : Writes p (p.setSrcIpaddr b h.src) (flags b h .srcIpaddr) (ranges b h .srcIpaddr) := by
  unfold setSrcIpaddr writeCompressedSrcIpaddr flags ranges
  have start : 2 ≤ 3 + b.hoplimitSize := by omega
  cases b.srcAddr with
  | none => exact writes_full h.src start
  | some aspect =>
    cases aspect with
    | addr8 => exact writes_low h.src start 0x10
    | addr2 => exact writes_both [h.src[14], h.src[15]] start 0x20
    | addr0 => exact writes_orFlagbyte 0x30

theorem setDstIpaddr_writes : Writes p (p.setDstIpaddr b h.dst) (flags b h .dstIpaddr) (ranges b h .dstIpaddr) := by
  have start : 2 ≤ 19 + b.hoplimitSize := by omega
  have position : 2 + 1 + b.hoplimitSize + 16 = 19 + b.hoplimitSize := by omega
  have unicast (aspect : UnicastAspect) : Writes p
      (match aspect with
        | .addr8 => (p.write (19 + b.hoplimitSize) (h.dst.toList.drop 8)).orFlagbyte 0x01
        | .addr2 => (p.write (19 + b.hoplimitSize) [h.dst[14], h.dst[15]]).orFlagbyte 0x02
        | .addr0 => p.orFlagbyte 0x03)
      (flags.unicast aspect) (ranges.unicast (19 + b.hoplimitSize) aspect) := by
    cases aspect with
    | addr8 => exact writes_low h.dst start 0x01
    | addr2 => exact writes_both [h.dst[14], h.dst[15]] start 0x02
    | addr0 => exact writes_orFlagbyte 0x03
  have multicast (aspect : MulticastAspect) : Writes p
      (match aspect with
        | .addr4 => (p.write (19 + b.hoplimitSize) [h.dst[12], h.dst[13], h.dst[14], h.dst[15]]).orFlagbyte 0x01
        | .addr2 => (p.write (19 + b.hoplimitSize) [h.dst[14], h.dst[15]]).orFlagbyte 0x02
        | .addr1 => (p.write (19 + b.hoplimitSize + 1) [h.dst[15]]).orFlagbyte 0x03)
      (flags.multicast aspect) (ranges.multicast (19 + b.hoplimitSize) aspect) := by
    cases aspect with
    | addr4 => exact writes_both [h.dst[12], h.dst[13], h.dst[14], h.dst[15]] start 0x01
    | addr2 => exact writes_both [h.dst[14], h.dst[15]] start 0x02
    | addr1 => exact writes_both [h.dst[15]] (by omega) 0x03
  unfold setDstIpaddr flags ranges
  simp only [IPv6hcBuild.hcHeadersizeWithoutFragHeader, IPv6hcBuild.getWriteSrcHeaderSize, position]
  split
  · exact (writes_orFlagbyte 0x08).trans (writes_full h.dst start)
  · unfold writeCompressedDstIpaddr
    cases b.destAddr with
    | none =>
      cases b.destMulticastAddr with
      | none => exact writes_full h.dst start
      | some m => exact multicast m
    | some u =>
      cases b.destMulticastAddr with
      | none => exact unicast u
      | some m =>
        simp only
        split
        · exact multicast m
        · exact unicast u

theorem set_writes (s : HeaderSetter) : Writes p (set b h p s) (flags b h s) (ranges b h s) := by
  cases s with
  | payloadLen => exact ⟨rfl, UInt8.or_zero.symm, (List.append_nil _).symm⟩
  | hoplimit =>
    change Writes p (p.setHoplimit b h.hoplimit) 0 (if b.hopcount = .uncompressed then [(3, 1)] else [])
    unfold setHoplimit
    cases b.hopcount with
    | uncompressed => exact writes_write [h.hoplimit] (by decide)
    | _ => exact writes_none
  | nextheader => exact writes_write [h.nextheader] (by decide)
  | srcIpaddr => exact setSrcIpaddr_writes
  | dstIpaddr => exact setDstIpaddr_writes

theorem foldl_writes (order : List HeaderSetter) :
    Writes p (order.foldl (set b h) p) ((order.map (flags b h)).foldr (· ||| ·) 0) (order.flatMap (ranges b h)) := by
  induction order generalizing p with
  | nil => exact writes_none
  | cons s rest ih => exact (set_writes s).trans ih

/-- The order of the setters makes no difference to the dispatch bytes and to what is written. -/
theorem encode_writes {order : List HeaderSetter} (all : order.Perm HeaderSetter.all) :
    (encode b h p order).data 0 = 0x60 ||| hopcountFlags b.hopcount ∧
      (encode b h p order).data 1 = flags b h .srcIpaddr ||| flags b h .dstIpaddr ∧
      (encode b h p order).written.Perm ((0, 2) :: HeaderSetter.all.flatMap (ranges b h)) := by
  have writes := foldl_writes (b := b) (h := h) (p := p.setUpHeader b) order
  have combined : (order.map (flags b h)).foldr (· ||| ·) 0 = flags b h .srcIpaddr ||| flags b h .dstIpaddr := by
    rw [(all.map (flags b h)).foldr_eq' (by intros; ac_rfl)]
    simp [HeaderSetter.all, flags]
  refine ⟨writes.data0, ?_, ?_⟩
  · rw [encode, writes.data1, combined]
    exact UInt8.zero_or
  · rw [encode, writes.written]
    exact (all.flatMap_right _).cons _

/-! ### Where the payload is taken to begin -/

/-- What the second byte adds to the size of the header. -/
def addressSizes (data1 : UInt8) : Nat :=
  switchCID (data1 &&& 0x80) +
    switchFallThrough (data1 &&& 0x40) (switchUnicast (data1 &&& 0x30)) (switchContext (data1 &&& 0x30)) +
    switchFallThrough (data1 &&& 0x08)
      (switchFallThrough (data1 &&& 0x04) (switchUnicast (data1 &&& 0x03)) (switchContext (data1 &&& 0x03)))
      (switchFallThrough (data1 &&& 0x04) (switchMulticast (data1 &&& 0x03)) (switchMulticastContext (data1 &&& 0x03)))

/-- The flags of the source, the range written for it and the size it is taken to have. -/
inductive SrcCase (start : Nat) : UInt8 → List (Nat × Nat) → Nat → Prop
  | full : SrcCase start 0x00 [(start, 16)] 16
  | addr8 : SrcCase start 0x10 [(start, 8)] 0
  | addr2 : SrcCase start 0x20 [(start, 2)] 0
  | addr0 : SrcCase start 0x30 [] 0

/-- The same of the destination. The sizes of all cases that it falls through are added up. -/
inductive DstCase (start : Nat) : UInt8 → List (Nat × Nat) → Nat → Prop
  | multicast : DstCase start 0x08 [(start, 16)] 0
  | full : DstCase start 0x00 [(start, 16)] 38
  | addr8 : DstCase start 0x01 [(start, 8)] 22
  | addr4 : DstCase start 0x01 [(start, 4)] 22
  | addr2 : DstCase start 0x02 [(start, 2)] 8
  | addr1 : DstCase start 0x03 [(start + 1, 1)] 1
  | addr0 : DstCase start 0x03 [] 1

theorem exists_srcCase (b : IPv6hcBuild) (h : IPv6HeaderFields) :
    ∃ size, SrcCase (3 + b.hoplimitSize) (flags b h .srcIpaddr) (ranges b h .srcIpaddr) size := by
  unfold flags ranges
  cases b.srcAddr with
  | none => exact ⟨16, .full⟩
  | some aspect =>
    cases aspect with
    | addr8 => exact ⟨0, .addr8⟩
    | addr2 => exact ⟨0, .addr2⟩
    | addr0 => exact ⟨0, .addr0⟩

theorem exists_dstCase (b : IPv6hcBuild) (h : IPv6HeaderFields) :
    ∃ size, DstCase (19 + b.hoplimitSize) (flags b h .dstIpaddr) (ranges b h .dstIpaddr) size := by
  have unicast (aspect : UnicastAspect) :
      ∃ size, DstCase (19 + b.hoplimitSize) (flags.unicast aspect) (ranges.unicast (19 + b.hoplimitSize) aspect) size := by
    cases aspect with
    | addr8 => exact ⟨22, .addr8⟩
    | addr2 => exact ⟨8, .addr2⟩
    | addr0 => exact ⟨1, .addr0⟩
  have multicast (aspect : MulticastAspect) :
      ∃ size, DstCase (19 + b.hoplimitSize) (flags.multicast aspect) (ranges.multicast (19 + b.hoplimitSize) aspect)
        size := by
    cases aspect with
    | addr4 => exact ⟨22, .addr4⟩
    | addr2 => exact ⟨8, .addr2⟩
    | addr1 => exact ⟨1, .addr1⟩
  unfold flags ranges
  simp only
  split
  · exact ⟨0, .multicast⟩
  · cases b.destAddr with
    | none =>
      cases b.destMulticastAddr with
      | none => exact ⟨38, .full⟩
      | some m => exact multicast m
    | some u =>
      cases b.destMulticastAddr with
      | none => exact unicast u
      | some m =>
        simp only
        split
        · exact multicast m
        · exact unicast u

theorem addressSizes_or {start start' src dst : Nat} {srcFlags dstFlags : UInt8} {srcRanges dstRanges : List (Nat × Nat)}
    (srcCase : SrcCase start srcFlags srcRanges src) (dstCase : DstCase start' dstFlags dstRanges dst) :
    addressSizes (srcFlags ||| dstFlags) = src + dst := by
  cases srcCase <;> cases dstCase <;> rfl

theorem SrcCase.flags_or {start start' src dst : Nat} {srcFlags dstFlags : UInt8} {srcRanges dstRanges : List (Nat × Nat)}
    (srcCase : SrcCase start srcFlags srcRanges src) (dstCase : DstCase start' dstFlags dstRanges dst) :
    (srcFlags ||| dstFlags) &&& 0x30 = srcFlags ∧ (srcFlags ||| dstFlags) &&& 0x80 = 0 := by
  cases srcCase <;> cases dstCase <;> exact ⟨rfl, rfl⟩

theorem calculateHeaderSize_of_data {q : IPv6hcPacket} (data0 : q.data 0 = 0x60 ||| hopcountFlags b.hopcount) :
    q.calculateHeaderSize = 9 + b.hoplimitSize + addressSizes (q.data 1) := by
  have sizes : 4 + switchTF q.tf + switchInline q.nh + switchInline q.hlim = 9 + b.hoplimitSize := by
    unfold tf nh hlim IPv6hcBuild.hoplimitSize
    rw [data0]
    cases b.hopcount <;> decide
  rw [calculateHeaderSize, sizes]
  simp only [addressSizes, cid, sac, sam, m, dac, dam, Nat.add_assoc]

def rangesEnd (ranges : List (Nat × Nat)) : Nat := (ranges.map fun range => range.1 + range.2).foldr max 0

theorem rangesEnd_append (before after : List (Nat × Nat)) :
    rangesEnd (before ++ after) = max (rangesEnd before) (rangesEnd after) := by
  induction before with
  | nil => exact (Nat.zero_max _).symm
  | cons range rest ih =>
    simp only [rangesEnd, List.cons_append, List.map_cons, List.foldr_cons] at ih ⊢
    omega

theorem rangesEnd_hoplimit (b : IPv6hcBuild) (h : IPv6HeaderFields) :
    max 3 (rangesEnd (ranges b h .hoplimit)) = 3 + b.hoplimitSize := by
  unfold ranges IPv6hcBuild.hoplimitSize
  by_cases inline : b.hopcount = .uncompressed
  · rw [if_pos inline, if_pos inline]
    rfl
  · rw [if_neg inline, if_neg inline]
    rfl

theorem writtenEnd_encode {order : List HeaderSetter} (all : order.Perm HeaderSetter.all) :
    (encode b h p order).writtenEnd =
      max (3 + b.hoplimitSize) (max (rangesEnd (ranges b h .srcIpaddr)) (rangesEnd (ranges b h .dstIpaddr))) := by
  have sorted : (encode b h p order).writtenEnd = rangesEnd ((0, 2) :: HeaderSetter.all.flatMap (ranges b h)) :=
    ((encode_writes all).2.2.map _).foldr_eq' (by intros; omega) _
  have split : (0, 2) :: HeaderSetter.all.flatMap (ranges b h) =
      [(0, 2)] ++ (ranges b h .hoplimit ++ ([(2, 1)] ++ (ranges b h .srcIpaddr ++ ranges b h .dstIpaddr))) := by
    simp only [HeaderSetter.all, List.flatMap_cons, List.flatMap_nil, List.append_nil]
    rfl
  have first : rangesEnd [(0, 2)] = 2 := rfl
  have next : rangesEnd [(2, 1)] = 3 := rfl
  have hoplimit := rangesEnd_hoplimit b h
  rw [sorted, split]
  simp only [rangesEnd_append, first, next]
  omega

/-- In every build the payload is taken to begin somewhere else than behind the header. -/
theorem getPayload_ne_writtenEnd {order : List HeaderSetter} (all : order.Perm HeaderSetter.all) :
    (encode b h p order).getPayload ≠ (encode b h p order).writtenEnd := by
  obtain ⟨data0, data1, -⟩ := encode_writes (b := b) (h := h) (p := p) all
  obtain ⟨src, srcCase⟩ := exists_srcCase b h
  obtain ⟨dst, dstCase⟩ := exists_dstCase b h
  rw [getPayload, calculateHeaderSize_of_data data0, data1, addressSizes_or srcCase dstCase, writtenEnd_encode all]
  generalize ranges b h .srcIpaddr = srcRanges, flags b h .srcIpaddr = srcFlags at srcCase ⊢
  generalize ranges b h .dstIpaddr = dstRanges, flags b h .dstIpaddr = dstFlags at dstCase ⊢
  cases srcCase <;> cases dstCase <;> simp only [rangesEnd, List.map_cons, List.map_nil, List.foldr_cons, List.foldr_nil] <;> omega

theorem encode_disjoint {order : List HeaderSetter} (all : order.Perm HeaderSetter.all) :
    (encode b h p order).written.Pairwise
      fun range range' => range.1 + range.2 ≤ range'.1 ∨ range'.1 + range'.2 ≤ range.1 := by
  obtain ⟨src, srcCase⟩ := exists_srcCase b h
  obtain ⟨dst, dstCase⟩ := exists_dstCase b h
  have hoplimit : b.hoplimitSize = 1 ∧ ranges b h .hoplimit = [(3, 1)] ∨
      b.hoplimitSize = 0 ∧ ranges b h .hoplimit = [] := by
    unfold IPv6hcBuild.hoplimitSize ranges
    by_cases inline : b.hopcount = .uncompressed
    · exact .inl ⟨if_pos inline, if_pos inline⟩
    · exact .inr ⟨if_neg inline, if_neg inline⟩
  have payloadLen : ranges b h .payloadLen = [] := rfl
  have nextheader : ranges b h .nextheader = [(2, 1)] := rfl
  rw [(encode_writes all).2.2.pairwise_iff fun apart => apart.symm]
  simp only [HeaderSetter.all, List.flatMap_cons, List.flatMap_nil, List.append_nil, payloadLen, nextheader]
  generalize ranges b h .srcIpaddr = srcRanges, flags b h .srcIpaddr = srcFlags at srcCase ⊢
  generalize ranges b h .dstIpaddr = dstRanges, flags b h .dstIpaddr = dstFlags at dstCase ⊢
  obtain ⟨size, hop⟩ | ⟨size, hop⟩ := hoplimit <;> rw [hop] <;> cases srcCase <;> cases dstCase <;> simp [size]

/-! ### What is read back -/

/-- The payload length is cut to its low byte, and the sign of the first byte of the fragment
header stands in for the upper bits. -/
theorem getPayloadLen_setPayloadLen_iff {len : BitVec 16} (fits : len.toNat < 2048) :
    (p.setPayloadLen len).getPayloadLen b = len ↔
      if b.charIsSigned then 0x700 ≤ len.toNat ∧ len.toNat < 0x780 else len.toNat < 0x100 := by
  have first : (0xC0#16 ||| (0x0700#16 &&& len)).setWidth 8 = 0xC0#8 := by
    rw [BitVec.setWidth_or, BitVec.setWidth_and]
    exact (congrArg (0xC0#8 ||| ·) BitVec.zero_and).trans BitVec.or_zero
  have second : (0x00FF#16 &&& len).setWidth 8 = len.setWidth 8 := by
    rw [BitVec.setWidth_and]
    exact BitVec.allOnes_and
  -- the bytes that are read, as a function of the low byte alone
  have value : ∀ (low : BitVec 8) (signed : Bool),
      ((((if signed then (0xC0#8).signExtend 32 else (0xC0#8).setWidth 32) &&& 0x07#32 <<< 8) |||
          (if signed then low.signExtend 32 else low.setWidth 32)).setWidth 16).toNat =
        if signed then if low.toNat < 128 then 0x700 + low.toNat else 0xFF00 + low.toNat else low.toNat := by
    decide +kernel
  unfold setPayloadLen writeFragmentHeader getPayloadLen charToInt
  dsimp only
  rw [first, second, ← BitVec.toNat_inj, value, BitVec.toNat_setWidth]
  split_ifs <;> omega

/-- An uncompressed source is read from the stack, a compressed one is never recognised. -/
theorem getSrcIpaddr_encode {order : List HeaderSetter} (all : order.Perm HeaderSetter.all) (stack : Ipv6Addr) :
    (encode b h p order).getSrcIpaddr b stack = if b.srcAddr = none then stack else unspecifiedIPv6Address := by
  obtain ⟨src, srcCase⟩ := exists_srcCase b h
  obtain ⟨dst, dstCase⟩ := exists_dstCase b h
  unfold getSrcIpaddr
  rw [(encode_writes all).2.1, (srcCase.flags_or dstCase).1]
  cases aspect : b.srcAddr with
  | none =>
    rw [if_pos rfl]
    simp only [flags, aspect]
    rfl
  | some u =>
    rw [if_neg (Option.some_ne_none u)]
    cases u <;> simp only [flags, aspect] <;> rfl

/-- The next header is read four bytes behind its place, where addresses are. -/
theorem getNextheader_encode {order : List HeaderSetter} (all : order.Perm HeaderSetter.all) :
    (encode b h p order).getNextheader = (encode b h p order).data 6 := by
  obtain ⟨data0, data1, -⟩ := encode_writes (b := b) (h := h) (p := p) all
  have noContext : switchCID (encode b h p order).cid = 0 := by
    obtain ⟨src, srcCase⟩ := exists_srcCase b h
    obtain ⟨dst, dstCase⟩ := exists_dstCase b h
    rw [cid, data1, (srcCase.flags_or dstCase).2]
    rfl
  unfold getNextheader calculateHCHeaderSizeWithoutFragmentSize
  rw [noContext]
  unfold nh tf
  rw [data0]
  cases b.hopcount <;> rfl

theorem not_roundTrips {order : List HeaderSetter} (all : order.Perm HeaderSetter.all) (srcStack dstStack : Ipv6Addr) :
    ¬RoundTrips b srcStack dstStack h (encode b h p order) :=
  fun roundTrips => getPayload_ne_writtenEnd all roundTrips.payload

/-- A build without aspects and with the hop limit in the packet. -/
def exampleBuild : IPv6hcBuild where
  hopcount := .uncompressed
  srcAddr := none
  destAddr := none
  destMulticastAddr := none
  srcAdviceOuter := false
  multicastAdviceOuter := false
  charIsSigned := true
  getDestIpFromUpperProtocolAddr := id

/-- From `fe80::1` to `fe80::2`. -/
def exampleFields : IPv6HeaderFields where
  src := Router.linkLocalPrefix.set! 15 1
  dst := Router.linkLocalPrefix.set! 15 2
  nextheader := 58
  hoplimit := 255
  payloadLen := 8

def examplePacket : IPv6hcPacket where
  fragmentheader := (0, 0)
  datagramTag := 0
  datagramTagCounter := 1
  data := fun _ => 0
  written := []

theorem not_roundTrips_addr8 : ¬RoundTrips { exampleBuild with srcAddr := some .addr8 } unspecifiedIPv6Address
    unspecifiedIPv6Address exampleFields (encode { exampleBuild with srcAddr := some .addr8 } exampleFields examplePacket HeaderSetter.all) :=
  not_roundTrips (.refl _) _ _

/-- The header ends at position 36 and the payload is taken to begin at 64, and the next header,
the payload length and the source are not those that were set either. -/
theorem uncompressedHeader_differs : exampleBuild.Compressible exampleFields ∧ exampleFields.payloadLen < 2048#16 ∧
    (encode exampleBuild exampleFields examplePacket HeaderSetter.all).writtenEnd = 36 ∧
    (encode exampleBuild exampleFields examplePacket HeaderSetter.all).getPayload = 64 ∧
    (encode exampleBuild exampleFields examplePacket HeaderSetter.all).getNextheader ≠ exampleFields.nextheader ∧
    (encode exampleBuild exampleFields examplePacket HeaderSetter.all).getPayloadLen exampleBuild ≠ exampleFields.payloadLen ∧
    ¬RoundTrips exampleBuild unspecifiedIPv6Address unspecifiedIPv6Address exampleFields
      (encode exampleBuild exampleFields examplePacket HeaderSetter.all) := by
  refine ⟨⟨fun _ value => (nomatch value), trivial, ?_⟩, by decide, by decide +kernel, by decide +kernel, by decide +kernel,
    by decide +kernel, fun roundTrips => ?_⟩
  · rw [if_neg (by decide)]
    trivial
  · have payload := roundTrips.payload
    revert payload
    decide +kernel

end IPv6hcPacket

end IPStack
