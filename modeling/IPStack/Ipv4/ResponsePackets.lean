import IPStack.Ipv4.Responses

/-! The packets that a host answers with, as their receivers read them. -/

namespace IPStack

open Bytes

/-! ### Memory with the same bytes -/

namespace InternetChecksum

theorem computePayload_congr {p q : Bytes} {start n : Nat} (bound : n < 2 ^ 16)
    (same : ∀ i < n, p.byte (start + i) = q.byte (start + i)) :
    computePayload (p.drop start) n = computePayload (q.drop start) n := by
  apply BitVec.eq_of_toNat_eq
  rw [toNat_computePayload _ bound, toNat_computePayload _ bound, wordSum_drop, wordSum_drop, wordSum_congr same]

end InternetChecksum

theorem SentPacket.send_eq {transport : Transport} (b : SentPacket .v4 transport) (known : transport ≠ .udp) :
    ∃ pseudoHeader, b.send = b.writeChecksum pseudoHeader := by
  cases transport with
  | udp => exact absurd rfl known
  | tcp => exact ⟨fun packet size => Ipv4Packet.computePseudoHeader packet size TcpSegment.ipTypeTcp, rfl⟩
  | icmp => exact ⟨fun _ _ => 0, rfl⟩

namespace Ipv4Packet

variable {p q : Bytes} {n : Nat}

theorem cksum_congr (same : ∀ i < 2 * n, p.byte i = q.byte i) : cksum p n = cksum q n := by
  have words : (List.range n).foldl (fun sum i => sum + (p.short (2 * i)).setWidth 32) (0 : BitVec 32) =
      (List.range n).foldl (fun sum i => sum + (q.short (2 * i)).setWidth 32) 0 := by
    refine List.foldl_ext _ _ _ fun sum i member => ?_
    have inside := List.mem_range.mp member
    unfold short
    rw [same (2 * i) (by omega), same (2 * i + 1) (by omega)]
  rw [cksum_eq, cksum_eq, words]

/-- What is read of the first twenty bytes. -/
structure SameHeader (p q : Bytes) : Prop where
  bytes : ∀ i < 20, i ≠ 10 → i ≠ 11 → p.byte i = q.byte i

variable (same : SameHeader p q)
include same

theorem SameHeader.getIhl : getIhl p = getIhl q := by
  unfold Ipv4Packet.getIhl
  rw [same.bytes 0 (by decide) (by decide) (by decide)]

theorem SameHeader.getTotalLen : getTotalLen p = getTotalLen q := by
  unfold Ipv4Packet.getTotalLen netShort
  rw [same.bytes 2 (by decide) (by decide) (by decide), same.bytes 3 (by decide) (by decide) (by decide)]

theorem SameHeader.getSrcIpaddr : getSrcIpaddr p = getSrcIpaddr q := by
  unfold Ipv4Packet.getSrcIpaddr long short
  rw [same.bytes 12 (by decide) (by decide) (by decide), same.bytes 13 (by decide) (by decide) (by decide),
    same.bytes 14 (by decide) (by decide) (by decide), same.bytes 15 (by decide) (by decide) (by decide)]

theorem SameHeader.getDstIpaddr : getDstIpaddr p = getDstIpaddr q := by
  unfold Ipv4Packet.getDstIpaddr long short
  rw [same.bytes 16 (by decide) (by decide) (by decide), same.bytes 17 (by decide) (by decide) (by decide),
    same.bytes 18 (by decide) (by decide) (by decide), same.bytes 19 (by decide) (by decide) (by decide)]

theorem SameHeader.computePseudoHeader (payloadlen : BitVec 16) (nextheader : BitVec 8) :
    computePseudoHeader p payloadlen nextheader = computePseudoHeader q payloadlen nextheader := by
  unfold Ipv4Packet.computePseudoHeader
  rw [same.getSrcIpaddr, same.getDstIpaddr]

/-- The transport checksum neither covers the checksum of the header nor what lies behind the packet. -/
theorem SameHeader.ipv4IcmpChecksumValid (payload : ∀ i, 20 ≤ i → i < Ipv4Packet.getTotalLen q → p.byte i = q.byte i)
    (header : 20 ≤ Ipv4Packet.getIhl q * 4) (interface : Interface) :
    ipv4IcmpChecksumValid p interface = ipv4IcmpChecksumValid q interface := by
  have bound := getTotalLen_lt q
  have number : (BitVec.ofNat 16 (Ipv4Packet.getTotalLen q - Ipv4Packet.getIhl q * 4)).toNat =
      Ipv4Packet.getTotalLen q - Ipv4Packet.getIhl q * 4 := by
    rw [BitVec.toNat_ofNat, Nat.mod_eq_of_lt (by omega)]
  unfold IPStack.ipv4IcmpChecksumValid InternetChecksum.checksumValid InternetChecksum.calcChecksum
  rw [same.getIhl, same.getTotalLen]
  dsimp only
  rw [number, InternetChecksum.computePayload_congr (by omega) fun i inside => payload _ (by omega) (by omega)]

theorem SameHeader.ipv4TcpChecksumValid {len : Nat} (payload : ∀ i, 20 ≤ i → i < len → p.byte i = q.byte i)
    (header : 20 ≤ Ipv4Packet.getIhl q * 4) (bound : len < 2 ^ 16) (interface : Interface) :
    ipv4TcpChecksumValid p len interface = ipv4TcpChecksumValid q len interface := by
  unfold IPStack.ipv4TcpChecksumValid TcpSegment.checksumValid Ipv4Packet.getData
  rw [same.getIhl]
  dsimp only
  rw [same.computePseudoHeader, InternetChecksum.computePayload_congr (by omega) fun i inside => payload _ (by omega) (by omega)]

omit same

/-- A packet in memory without options that is no fragment, with valid checksums, and with a payload
that but for its checksum is `content`. -/
structure Carries (p : Bytes) (transport : Transport) (src dst : BitVec 32) (content : Bytes) : Prop where
  first : p.byte 0 = 0x45
  whole : p.byte 6 = 0 ∧ p.byte 7 = 0
  total : Ipv4Packet.getTotalLen p = 20 + content.length
  ttl : getTtl p = 64
  protocol : getProtocol p = transport.ipType
  srcIpaddr : Ipv4Packet.getSrcIpaddr p = src
  dstIpaddr : Ipv4Packet.getDstIpaddr p = dst
  header : cksum p 10 = 0
  payload : ∀ i < content.length, i ≠ transport.checksumField → i ≠ transport.checksumField + 1 → p.byte (20 + i) = content.byte i
  checksum : ∀ interface, checksumAccepted .v4 transport p 20 (20 + content.length) interface

/-! ### What a management socket sends -/

section

variable {n : Nat} (s : Ipv4OnSocket n) (r : Ipv4Router n) (transport : Transport) (content : Bytes)

/-- The packet before its checksums are written. -/
def unchecked : Bytes := s.setupHeader r (.ofNat 16 (minHeaderSize + content.length)) transport.ipType ++ content

theorem length_unchecked : (unchecked s r transport content).length = 20 + content.length := by
  unfold unchecked
  rw [List.length_append]
  rfl

theorem byte_unchecked (i : Nat) : (unchecked s r transport content).byte (20 + i) = content.byte i := by
  unfold unchecked byte
  rw [List.getD_append_right _ _ _ _ (Nat.le_add_right 20 i)]
  exact congrArg (fun j => (content.getD j 0).toBitVec) (Nat.add_sub_cancel_left 20 i)

theorem getIhl_unchecked : Ipv4Packet.getIhl (unchecked s r transport content) = 5 := by
  have first : (unchecked s r transport content).byte 0 = 0x45 := rfl
  unfold Ipv4Packet.getIhl
  rw [first]
  rfl

variable {transport content} (room : transport.headerSize .v4 ≤ content.length) (small : 20 + content.length < 2 ^ 16)
include room small

/-- The same packet for the advice on `send`. -/
def sentPacket : SentPacket .v4 transport where
  packet := unchecked s r transport content
  memstartTransport := 20
  data := (unchecked s r transport content).length
  ip := Nat.le_refl 20
  header := by
    rw [length_unchecked]
    omega
  written := Nat.le_refl _
  size := by
    rw [length_unchecked]
    omega
  total _ := by
    refine ⟨by rw [getIhl_unchecked], ?_⟩
    have total : Ipv4Packet.getTotalLen (unchecked s r transport content) = (BitVec.ofNat 16 (20 + content.length)).toNat :=
      congrArg BitVec.toNat (netShort_networkBytes rfl rfl)
    rw [total, length_unchecked, BitVec.toNat_ofNat, Nat.mod_eq_of_lt small]

theorem ofContent_eq (known : transport ≠ .udp) :
    ofContent s r transport content = computeChecksum (sentPacket s r room small).send := by
  cases transport with
  | udp => exact absurd rfl known
  | tcp => rfl
  | icmp => rfl

theorem length_send (known : transport ≠ .udp) : (sentPacket s r room small).send.length = 20 + content.length := by
  obtain ⟨pseudoHeader, send⟩ := (sentPacket s r room small).send_eq known
  obtain ⟨fits, -⟩ := (sentPacket s r room small).field_fits
  rw [send, SentPacket.writeChecksum_eq, length_setNetShort (fits.trans_eq (SentPacket.length_zeroed _).symm),
    SentPacket.length_zeroed]
  exact length_unchecked ..

theorem byte_send (known : transport ≠ .udp) {j : Nat} (other : j ≠ 20 + transport.checksumField ∧ j ≠ 20 + transport.checksumField + 1) :
    (sentPacket s r room small).send.byte j = (unchecked s r transport content).byte j := by
  obtain ⟨pseudoHeader, send⟩ := (sentPacket s r room small).send_eq known
  obtain ⟨fits, -⟩ := (sentPacket s r room small).field_fits
  rw [send, SentPacket.writeChecksum_eq, byte_setNetShort (fits.trans_eq (SentPacket.length_zeroed _).symm) other,
    SentPacket.zeroed, byte_setNetShort fits other]
  rfl

variable (known : transport ≠ .udp) (rest : Bytes)
include known

/-- A packet in memory is what `send` has written but for the checksum of its header. -/
theorem byte_ofContent {j : Nat} (inside : j < 20 + content.length) (other : j ≠ 10 ∧ j ≠ 11) :
    (ofContent s r transport content ++ rest).byte j = (sentPacket s r room small).send.byte j := by
  have length := length_send s r room small known
  have header : 12 ≤ (sentPacket s r room small).send.length := by omega
  unfold byte
  rw [ofContent_eq s r room small known, List.getD_append _ _ _ _ (by rw [length_computeChecksum header]; omega),
    getD_computeChecksum header other]

theorem sameHeader_send : SameHeader (ofContent s r transport content ++ rest) (sentPacket s r room small).send :=
  ⟨fun i inside first second => byte_ofContent s r room small known rest (by omega) ⟨first, second⟩⟩

theorem sameHeader_unchecked : SameHeader (ofContent s r transport content ++ rest) (unchecked s r transport content) := by
  refine ⟨fun i inside first second => ?_⟩
  rw [byte_ofContent s r room small known rest (by omega) ⟨first, second⟩, byte_send s r room small known (by omega)]

theorem checksum_ofContent (interface : Interface) :
    checksumAccepted .v4 transport (ofContent s r transport content ++ rest) 20 (20 + content.length) interface := by
  have same := sameHeader_send s r room small known rest
  have byte {i : Nat} (behind : 20 ≤ i) (inside : i < 20 + content.length) :
      (ofContent s r transport content ++ rest).byte i = (sentPacket s r room small).send.byte i :=
    byte_ofContent s r room small known rest inside (by omega)
  have accepted : (sentPacket s r room small).Accepted interface := by
    refine .inr (.inr ?_)
    have none : (sentPacket s r room small).moreLength + (sentPacket s r room small).unwrittenSum = 0 := by
      unfold SentPacket.moreLength SentPacket.unwrittenSum restSum
      rw [show (sentPacket s r room small).data = (sentPacket s r room small).packet.length from rfl, Finset.Ico_self,
        Finset.sum_empty, Nat.sub_self, ite_self, Nat.zero_add]
    rw [none]
    exact Nat.dvd_zero 65535
  have ihl : getIhl (sentPacket s r room small).send = 5 := by
    have header := sameHeader_unchecked s r room small known rest
    rw [← same.getIhl, header.getIhl, getIhl_unchecked]
  cases transport with
  | udp => exact absurd rfl known
  | tcp =>
    change ipv4TcpChecksumValid _ _ interface = true
    rw [same.ipv4TcpChecksumValid (fun i behind inside => byte behind inside) (by omega) small]
    have valid := (SentPacket.accepted_tcpv4 interface (sentPacket s r room small)).mpr accepted
    rwa [show (sentPacket s r room small).packet.length = 20 + content.length from length_unchecked ..] at valid
  | icmp =>
    have total : getTotalLen (sentPacket s r room small).send = 20 + content.length := by
      have written := ((sentPacket s r room small).header_writeChecksum (fun _ _ => 0) rfl).2
      exact written.trans (length_unchecked ..)
    change ipv4IcmpChecksumValid _ interface = true
    rw [same.ipv4IcmpChecksumValid (fun i behind inside => byte behind (inside.trans_eq total)) (by omega)]
    exact (SentPacket.accepted_icmpv4 interface (sentPacket s r room small)).mpr accepted

theorem carries_ofContent : Carries (ofContent s r transport content ++ rest) transport (s.getSrcAddr r) s.dstIpv4Addr content := by
  have same := sameHeader_unchecked s r room small known rest
  have sent := (sentPacket s r room small).total rfl
  have field := (Transport.checksumField_inside .v4 transport).2
  refine ⟨?_, ⟨?_, ?_⟩, ?_, ?_, ?_, ?_, ?_, ?_, ?_, ?_⟩
  · exact same.bytes 0 (by decide) (by decide) (by decide)
  · exact same.bytes 6 (by decide) (by decide) (by decide)
  · exact same.bytes 7 (by decide) (by decide) (by decide)
  · exact same.getTotalLen.trans (sent.2.trans (length_unchecked ..))
  · exact same.bytes 8 (by decide) (by decide) (by decide)
  · exact (same.bytes 9 (by decide) (by decide) (by decide)).trans rfl
  · exact same.getSrcIpaddr.trans (long_machineBytes rfl rfl rfl rfl)
  · exact same.getDstIpaddr.trans (long_machineBytes rfl rfl rfl rfl)
  · have length := length_send s r room small known
    have header : 12 ≤ (sentPacket s r room small).send.length := by omega
    have ihl : getIhl (computeChecksum (sentPacket s r room small).send) = 5 := by
      rw [← ofContent_eq s r room small known, ← List.append_nil (ofContent s r transport content),
        (sameHeader_unchecked s r room small known []).getIhl, getIhl_unchecked]
    have valid := cksum_computeChecksum header (by rw [← getIhl_computeChecksum header, ihl]; decide)
    rw [ihl] at valid
    rw [← valid]
    refine cksum_congr fun i inside => ?_
    unfold byte
    rw [ofContent_eq s r room small known, List.getD_append _ _ _ _ (by rw [length_computeChecksum header]; omega)]
  · intro i inside first second
    rw [byte_ofContent s r room small known rest (by omega) (by omega), byte_send s r room small known (by omega),
      byte_unchecked]
  · exact checksum_ofContent s r room small known rest

end

end Ipv4Packet

end IPStack
