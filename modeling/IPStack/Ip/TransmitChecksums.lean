import IPStack.Ip.ChecksumWords

/-! The checksums of sent packets, and what the receive path says of them. -/

namespace IPStack

open Bytes

/-! ### The code -/

namespace InternetChecksum

/-- `calc_checksum` of all transport protocols. -/
def calcChecksum (packet : Bytes) (transport : Nat) (csum : BitVec 32) (payloadlen : BitVec 16) : BitVec 16 :=
  ~~~ accumulateCarryBits (csum + computePayload (packet.drop transport) payloadlen.toNat)

/-- `checksum_valid`, with `InternetChecksum_Rx_Offloading`. -/
def checksumValid (packet : Bytes) (transport : Nat) (csum : BitVec 32) (payloadlen : BitVec 16)
    (interface : Interface) : Bool :=
  interface.hasTransmitterHardwareChecksumming || calcChecksum packet transport csum payloadlen = 0

end InternetChecksum

/-- A 16-bit member in network byte order. -/
def Bytes.setNetShort (p : Bytes) (i : Nat) (value : BitVec 16) : Bytes := p.memcpy i (networkBytes value) 2

inductive Transport where
  | udp
  | tcp
  | icmp
deriving DecidableEq, Repr

namespace Transport

def headerSize : IpVersion → Transport → Nat
  | _, udp => UdpPacket.headerSize
  | _, tcp => TcpSegment.minHeaderSize
  | .v4, icmp => 8
  | .v6, icmp => 4

/-- Where the header has its checksum. -/
def checksumField : Transport → Nat
  | udp => 6
  | tcp => 16
  | icmp => 2

end Transport

def ipHeaderSize : IpVersion → Nat
  | .v4 => Ipv4Packet.minHeaderSize
  | .v6 => Ipv6Packet.headerSizeInBytes

/-- A send buffer from `memstart_ip` on. `data` is how far it has been written; all of it is sent,
and `setupHeader` has written its whole length. -/
structure SentPacket (version : IpVersion) (transport : Transport) where
  packet : Bytes
  memstartTransport : Nat
  data : Nat
  ip : ipHeaderSize version ≤ memstartTransport
  header : memstartTransport + transport.headerSize version ≤ data
  written : data ≤ packet.length
  size : packet.length - memstartTransport < 2 ^ 16
  total : version = .v4 → Ipv4Packet.getIhl packet * 4 = memstartTransport ∧ Ipv4Packet.getTotalLen packet = packet.length

namespace SentPacket

variable {version : IpVersion} {transport : Transport}

def payloadsize (b : SentPacket version transport) : BitVec 16 := .ofNat 16 (b.data - b.memstartTransport)

/-- The text of all advice on `send`. The pseudo header is read when the checksum is 0. -/
def writeChecksum (b : SentPacket version transport) (pseudoHeader : Bytes → BitVec 16 → BitVec 32) : Bytes :=
  let position := b.memstartTransport + transport.checksumField
  let packet := b.packet.setNetShort position 0
  packet.setNetShort position
    (InternetChecksum.calcChecksum packet b.memstartTransport (pseudoHeader packet b.payloadsize) b.payloadsize)

end SentPacket

/-- The version of the pseudo header. ICMP has none in IPv4. -/
def pseudoVersion : IpVersion → Transport → Option IpVersion
  | .v4, .icmp => none
  | version, _ => some version

namespace InternetChecksum

def computePseudoHeader : Option IpVersion → Bytes → BitVec 16 → BitVec 8 → BitVec 32
  | none, _, _, _ => 0
  | some .v4, packet, payloadlen, nextheader => Ipv4Packet.computePseudoHeader packet payloadlen nextheader
  | some .v6, packet, payloadlen, nextheader => Ipv6Packet.computePseudoHeader packet payloadlen nextheader

/-- The bytes of a pseudo header. -/
def pseudoHeader : Option IpVersion → Bytes → BitVec 16 → BitVec 8 → Bytes
  | none, _, _, _ => []
  | some .v4, packet, payloadlen, nextheader => Ipv4Packet.pseudoHeader packet payloadlen nextheader
  | some .v6, packet, payloadlen, nextheader => Ipv6Packet.pseudoHeader packet payloadlen nextheader

end InternetChecksum

def ipv6TypeIcmp : BitVec 8 := 58

def ipv4UdpTxChecksumming (b : SentPacket .v4 .udp) : Bytes :=
  b.writeChecksum fun packet size => Ipv4Packet.computePseudoHeader packet size UdpPacket.ipTypeUdp

def ipv6UdpTxChecksumming (b : SentPacket .v6 .udp) : Bytes :=
  b.writeChecksum fun packet size => Ipv6Packet.computePseudoHeader packet size UdpPacket.ipTypeUdp

def ipv4TcpTxChecksumming (b : SentPacket .v4 .tcp) : Bytes :=
  b.writeChecksum fun packet size => Ipv4Packet.computePseudoHeader packet size TcpSegment.ipTypeTcp

def ipv6TcpTxChecksumming (b : SentPacket .v6 .tcp) : Bytes :=
  b.writeChecksum fun packet size => Ipv6Packet.computePseudoHeader packet size TcpSegment.ipTypeTcp

def sendbufferIcmpv4Checksum (b : SentPacket .v4 .icmp) : Bytes := b.writeChecksum fun _ _ => 0

def sendbufferIcmpv6Checksum (b : SentPacket .v6 .icmp) : Bytes :=
  b.writeChecksum fun packet size => Ipv6Packet.computePseudoHeader packet size ipv6TypeIcmp

/-- What `send` hands to the interface. -/
def SentPacket.send : {version : IpVersion} → {transport : Transport} → SentPacket version transport → Bytes
  | .v4, .udp, b => ipv4UdpTxChecksumming b
  | .v6, .udp, b => ipv6UdpTxChecksumming b
  | .v4, .tcp, b => ipv4TcpTxChecksumming b
  | .v6, .tcp, b => ipv6TcpTxChecksumming b
  | .v4, .icmp, b => sendbufferIcmpv4Checksum b
  | .v6, .icmp, b => sendbufferIcmpv6Checksum b

/-- The test of `IPv4_TCP_Receive`. -/
def ipv4TcpChecksumValid (packet : Bytes) (len : Nat) (interface : Interface) : Bool :=
  let size := len - Ipv4Packet.getIhl packet * 4
  TcpSegment.checksumValid (Ipv4Packet.getData packet)
    (Ipv4Packet.computePseudoHeader packet (BitVec.ofNat 16 size) TcpSegment.ipTypeTcp) size interface

/-- The test of `IPv6_TCP_Receive`. -/
def ipv6TcpChecksumValid (packet : Bytes) (p : Ipv6Payload) (interface : Interface) : Bool :=
  let payloadlen := BitVec.ofNat 16 p.payloadLength.toNat
  InternetChecksum.checksumValid packet p.payload
    (Ipv6Packet.computePseudoHeader packet payloadlen TcpSegment.ipTypeTcp) payloadlen interface

/-- The test of `IPv4_ICMP_Receive`. -/
def ipv4IcmpChecksumValid (packet : Bytes) (interface : Interface) : Bool :=
  let header := Ipv4Packet.getIhl packet * 4
  InternetChecksum.checksumValid packet header 0 (BitVec.ofNat 16 (Ipv4Packet.getTotalLen packet - header)) interface

/-- The test of `IPv6_ICMP_Receive`. -/
def ipv6IcmpChecksumValid (packet : Bytes) (p : Ipv6Payload) (interface : Interface) : Bool :=
  let payloadlen := BitVec.ofNat 16 p.payloadLength.toNat
  InternetChecksum.checksumValid packet p.payload
    (Ipv6Packet.computePseudoHeader packet payloadlen ipv6TypeIcmp) payloadlen interface

/-- The receive path takes a packet of `len` bytes with a payload behind `memstartTransport` bytes. -/
def checksumAccepted (version : IpVersion) (transport : Transport) (packet : Bytes) (memstartTransport len : Nat)
    (interface : Interface) : Prop :=
  let p (nextHeader : BitVec 8) : Ipv6Payload := ⟨memstartTransport, .ofNat 32 (len - memstartTransport), nextHeader⟩
  match version, transport with
  | .v4, .udp => (UdpStack.rxChecksummingIpv4 packet len interface).result = some true
  | .v6, .udp => (UdpStack.rxChecksummingIpv6 packet (p UdpPacket.ipTypeUdp) interface).result = some true
  | .v4, .tcp => ipv4TcpChecksumValid packet len interface = true
  | .v6, .tcp => ipv6TcpChecksumValid packet (p TcpSegment.ipTypeTcp) interface = true
  | .v4, .icmp => ipv4IcmpChecksumValid packet interface = true
  | .v6, .icmp => ipv6IcmpChecksumValid packet (p ipv6TypeIcmp) interface = true

/-! ### Sums -/

namespace Bytes

variable {p q : Bytes} {start n i j k : Nat} {value : BitVec 16}

theorem byte_setNetShort (fits : i + 2 ≤ p.length) (other : j ≠ i ∧ j ≠ i + 1) : (p.setNetShort i value).byte j = p.byte j := by
  unfold setNetShort
  rw [byte_memcpy fits, if_neg (by omega)]

theorem length_setNetShort (fits : i + 2 ≤ p.length) : (p.setNetShort i value).length = p.length := length_memcpy fits

@[simp] theorem netShort_setNetShort (fits : i + 2 ≤ p.length) : (p.setNetShort i value).netShort i = value := by
  have high : (p.setNetShort i value).byte i = value.extractLsb' 8 8 := by
    unfold setNetShort
    rw [byte_memcpy fits, if_pos (by omega), Nat.sub_self]
    rfl
  have low : (p.setNetShort i value).byte (i + 1) = value.extractLsb' 0 8 := by
    unfold setNetShort
    rw [byte_memcpy fits, if_pos (by omega), Nat.add_sub_cancel_left]
    rfl
  unfold netShort
  rw [high, low]
  exact BitVec.extractLsb'_append_extractLsb'_eq_extractLsb' (by rfl) |>.trans (BitVec.extractLsb'_eq_self)

theorem wordSum_congr (same : ∀ i < n, p.byte (start + i) = q.byte (start + i)) : p.wordSum start n = q.wordSum start n := by
  refine Finset.sum_congr rfl fun i inside => ?_
  unfold weight
  rw [same i (Finset.mem_range.mp inside)]

theorem restSum_congr (same : ∀ i < n, k ≤ i → p.byte (start + i) = q.byte (start + i)) :
    p.restSum start k n = q.restSum start k n := by
  refine Finset.sum_congr rfl fun i inside => ?_
  obtain ⟨behind, inside⟩ := Finset.mem_Ico.mp inside
  unfold weight
  rw [same i inside behind]

/-- A word that was 0 adds its value to the sum. -/
theorem wordSum_setNetShort (even : i % 2 = 0) (fits : start + i + 2 ≤ p.length) (inside : i + 2 ≤ n)
    (zero : p.netShort (start + i) = 0) : (p.setNetShort (start + i) value).wordSum start n = p.wordSum start n + value.toNat := by
  have other {j : Nat} (away : j ≠ i ∧ j ≠ i + 1) : (p.setNetShort (start + i) value).byte (start + j) = p.byte (start + j) :=
    byte_setNetShort fits (by omega)
  have first : (p.setNetShort (start + i) value).wordSum start i = p.wordSum start i :=
    wordSum_congr fun j before => other (by omega)
  have rest : (p.setNetShort (start + i) value).restSum start (i + 2) n = p.restSum start (i + 2) n :=
    restSum_congr fun j _ behind => other (by omega)
  have number : (p.netShort (start + i)).toNat = 0 := congrArg BitVec.toNat zero
  rw [← wordSum_add_restSum inside, wordSum_succ_succ even, netShort_setNetShort fits, first, rest,
    ← wordSum_add_restSum inside, wordSum_succ_succ even, number]
  omega

end Bytes

namespace InternetChecksum

variable {packet : Bytes} {transport : Nat} {csum : BitVec 32} {payloadlen : BitVec 16}

theorem toNat_calcChecksum (small : csum.toNat ≤ 65535 * 65535 - 65535 * 32768) :
    (calcChecksum packet transport csum payloadlen).toNat =
      65535 - OnesComplement.fold 65535 (csum.toNat + packet.wordSum transport payloadlen.toNat) := by
  have bound := payloadlen.isLt
  have words : packet.wordSum transport payloadlen.toNat ≤ 32768 * 65535 := wordSum_le _ _ (by omega)
  unfold calcChecksum
  rw [BitVec.toNat_not, toNat_accumulateCarryBits, BitVec.toNat_add, toNat_computePayload _ bound, wordSum_drop,
    Nat.mod_eq_of_lt (by omega)]

/-- A packet is valid if all its words and those of the pseudo header add up to a multiple of 65535. -/
theorem calcChecksum_eq_zero_iff (small : csum.toNat ≤ 65535 * 65535 - 65535 * 32768) :
    calcChecksum packet transport csum payloadlen = 0 ↔ csum.toNat + packet.wordSum transport payloadlen.toNat ≠ 0 ∧
      65535 ∣ csum.toNat + packet.wordSum transport payloadlen.toNat := by
  rw [← OnesComplement.fold_eq_top_iff (by decide), ← BitVec.toNat_inj, toNat_calcChecksum small]
  have le := OnesComplement.fold_le (m := 65535) (by decide) (csum.toNat + packet.wordSum transport payloadlen.toNat)
  change _ = 0 ↔ _
  omega

end InternetChecksum

namespace InternetChecksum

variable (version : Option IpVersion) (packet : Bytes) (payloadlen : BitVec 16) (nextheader : BitVec 8)

theorem toNat_computePseudoHeader : (computePseudoHeader version packet payloadlen nextheader).toNat =
    (words (pseudoHeader version packet payloadlen nextheader)).sum := by
  cases version with
  | none => rfl
  | some version =>
    cases version with
    | v4 => exact (Ipv4Packet.toNat_computePseudoHeader ..).trans (Ipv4Packet.sum_pseudoHeader ..).symm
    | v6 => exact (Ipv6Packet.toNat_computePseudoHeader ..).trans (Ipv6Packet.sum_pseudoHeader ..).symm

theorem nextheader_le (version : IpVersion) :
    nextheader.toNat ≤ (computePseudoHeader (some version) packet payloadlen nextheader).toNat := by
  cases version with
  | v4 =>
    refine Nat.le_trans ?_ (Ipv4Packet.toNat_computePseudoHeader packet payloadlen nextheader).ge
    omega
  | v6 =>
    refine Nat.le_trans ?_ (Ipv6Packet.toNat_computePseudoHeader packet payloadlen nextheader).ge
    omega

theorem even_pseudoHeader : (pseudoHeader version packet payloadlen nextheader).length % 2 = 0 := by
  cases version with
  | none => rfl
  | some version => cases version <;> simp [pseudoHeader, Ipv4Packet.pseudoHeader, Ipv6Packet.pseudoHeader, networkBytes, length_slice]

theorem toNat_computePseudoHeader_le :
    (computePseudoHeader version packet payloadlen nextheader).toNat ≤ 65535 * 65535 - 65535 * 32768 := by
  have length := payloadlen.isLt
  have protocol := nextheader.isLt
  cases version with
  | none => exact Nat.zero_le _
  | some version =>
    cases version with
    | v4 =>
      have addresses := wordSum_le packet 12 (by decide : 8 ≤ 2 * 4)
      refine (Ipv4Packet.toNat_computePseudoHeader packet payloadlen nextheader).trans_le ?_
      omega
    | v6 =>
      have addresses := wordSum_le packet 8 (by decide : 32 ≤ 2 * 16)
      refine (Ipv6Packet.toNat_computePseudoHeader packet payloadlen nextheader).trans_le ?_
      omega

end InternetChecksum

/-! ### Sent packets -/

theorem pseudoVersion_eq_some {version other : IpVersion} {transport : Transport}
    (found : pseudoVersion version transport = some other) : version = other := by
  cases version with
  | v4 =>
    cases transport with
    | icmp => cases found
    | udp => exact Option.some.inj found
    | tcp => exact Option.some.inj found
  | v6 => exact Option.some.inj found

theorem Transport.checksumField_inside (version : IpVersion) (transport : Transport) :
    transport.checksumField % 2 = 0 ∧ transport.checksumField + 2 ≤ transport.headerSize version := by
  cases transport with
  | udp => cases version <;> exact ⟨by decide, by decide⟩
  | tcp => cases version <;> exact ⟨by decide, by decide⟩
  | icmp => cases version <;> exact ⟨by decide, by decide⟩

namespace SentPacket

variable {version : IpVersion} {transport : Transport} (b : SentPacket version transport)

/-- The packet that the checksum is computed over. -/
def zeroed : Bytes := b.packet.setNetShort (b.memstartTransport + transport.checksumField) 0

/-- The length of the payload as the receiver sees it. -/
def sentSize : BitVec 16 := .ofNat 16 (b.packet.length - b.memstartTransport)

theorem toNat_payloadsize : b.payloadsize.toNat = b.data - b.memstartTransport := by
  have := b.size
  have := b.written
  unfold payloadsize
  rw [BitVec.toNat_ofNat, Nat.mod_eq_of_lt (by omega)]

theorem toNat_sentSize : b.sentSize.toNat = b.packet.length - b.memstartTransport := by
  unfold sentSize
  rw [BitVec.toNat_ofNat, Nat.mod_eq_of_lt b.size]

theorem field_fits : b.memstartTransport + transport.checksumField + 2 ≤ b.packet.length ∧
    transport.checksumField + 2 ≤ b.data - b.memstartTransport := by
  have field := (Transport.checksumField_inside version transport).2
  have := b.header
  have := b.written
  omega

theorem length_zeroed : b.zeroed.length = b.packet.length := length_setNetShort b.field_fits.1

variable (pseudoHeader : Bytes → BitVec 16 → BitVec 32)

theorem writeChecksum_eq : b.writeChecksum pseudoHeader = b.zeroed.setNetShort (b.memstartTransport + transport.checksumField)
    (InternetChecksum.calcChecksum b.zeroed b.memstartTransport (pseudoHeader b.zeroed b.payloadsize) b.payloadsize) := rfl

/-- Only the checksum of the packet is written. -/
theorem byte_writeChecksum {j : Nat} (other : j < b.memstartTransport) :
    (b.writeChecksum pseudoHeader).byte j = b.zeroed.byte j ∧ b.zeroed.byte j = b.packet.byte j := by
  have fits := b.field_fits.1
  have fitsZeroed := fits.trans_eq b.length_zeroed.symm
  exact ⟨byte_setNetShort fitsZeroed (by omega), byte_setNetShort fits (by omega)⟩

/-- What the receiver adds up and the sender did not: the bytes that have not been written, and
what its pseudo header has more. -/
theorem calcChecksum_writeChecksum {csum : BitVec 32} {more : Nat}
    (csum_eq : csum.toNat = (pseudoHeader b.zeroed b.payloadsize).toNat + more)
    (small : csum.toNat ≤ 65535 * 65535 - 65535 * 32768) :
    InternetChecksum.calcChecksum (b.writeChecksum pseudoHeader) b.memstartTransport csum b.sentSize = 0 ↔
      65535 ∣ more + b.packet.restSum b.memstartTransport (b.data - b.memstartTransport)
        (b.packet.length - b.memstartTransport) := by
  obtain ⟨even, -⟩ := Transport.checksumField_inside version transport
  obtain ⟨fits, inside⟩ := b.field_fits
  have fitsZeroed := fits.trans_eq b.length_zeroed.symm
  have written : b.data - b.memstartTransport ≤ b.packet.length - b.memstartTransport := Nat.sub_le_sub_right b.written _
  have value : (InternetChecksum.calcChecksum b.zeroed b.memstartTransport (pseudoHeader b.zeroed b.payloadsize)
      b.payloadsize).toNat = 65535 - OnesComplement.fold 65535 ((pseudoHeader b.zeroed b.payloadsize).toNat +
        b.zeroed.wordSum b.memstartTransport b.payloadsize.toNat) := InternetChecksum.toNat_calcChecksum (by omega)
  have whole := OnesComplement.fold_add_complement (m := 65535) (by decide)
    ((pseudoHeader b.zeroed b.payloadsize).toNat + b.zeroed.wordSum b.memstartTransport b.payloadsize.toNat)
  obtain ⟨some, multiple⟩ := (OnesComplement.fold_eq_top_iff (by decide)).mp whole
  have rest : b.zeroed.restSum b.memstartTransport (b.data - b.memstartTransport) (b.packet.length - b.memstartTransport) =
      b.packet.restSum b.memstartTransport (b.data - b.memstartTransport) (b.packet.length - b.memstartTransport) :=
    restSum_congr fun i _ behind => byte_setNetShort fits (by omega)
  rw [InternetChecksum.calcChecksum_eq_zero_iff small, writeChecksum_eq, toNat_sentSize,
    wordSum_setNetShort even fitsZeroed (by omega) (netShort_setNetShort fits), value, csum_eq, ← wordSum_add_restSum written,
    rest]
  rw [toNat_payloadsize] at some multiple ⊢
  have total (p w m r v : Nat) : p + m + (w + r + v) = p + w + v + (m + r) := by omega
  rw [total, Nat.dvd_add_right multiple]
  exact and_iff_right (by omega)

/-! ### The receive path -/

/-- The bytes that have not been written. -/
def unwrittenSum : Nat :=
  b.packet.restSum b.memstartTransport (b.data - b.memstartTransport) (b.packet.length - b.memstartTransport)

/-- What the pseudo header of the receiver has more. -/
def moreLength : Nat := if pseudoVersion version transport = none then 0 else b.packet.length - b.data

theorem toNat_pseudoHeader_send (nextheader : BitVec 8) :
    (InternetChecksum.computePseudoHeader (pseudoVersion version transport) (b.writeChecksum pseudoHeader) b.sentSize nextheader).toNat =
      (InternetChecksum.computePseudoHeader (pseudoVersion version transport) b.zeroed b.payloadsize nextheader).toNat +
        b.moreLength := by
  have front := b.ip
  have written := b.written
  have header := b.header
  unfold moreLength
  cases found : pseudoVersion version transport with
  | none => rfl
  | some other =>
    obtain rfl := pseudoVersion_eq_some found
    rw [if_neg (by simp)]
    cases version with
    | v4 =>
      have front : 20 ≤ b.memstartTransport := front
      simp only [InternetChecksum.computePseudoHeader, Ipv4Packet.toNat_computePseudoHeader, toNat_payloadsize, toNat_sentSize]
      rw [wordSum_congr fun i inside => (b.byte_writeChecksum pseudoHeader (by omega : 12 + i < b.memstartTransport)).1]
      omega
    | v6 =>
      have front : 40 ≤ b.memstartTransport := front
      simp only [InternetChecksum.computePseudoHeader, Ipv6Packet.toNat_computePseudoHeader, toNat_payloadsize, toNat_sentSize]
      rw [wordSum_congr fun i inside => (b.byte_writeChecksum pseudoHeader (by omega : 8 + i < b.memstartTransport)).1]
      omega

variable (interface : Interface)

/-- The check of the receive path on a packet whose checksum the transmit path has written. -/
theorem checksumValid_writeChecksum (nextheader : BitVec 8) :
    InternetChecksum.checksumValid
      (b.writeChecksum fun packet size => InternetChecksum.computePseudoHeader (pseudoVersion version transport) packet size nextheader)
      b.memstartTransport
      (InternetChecksum.computePseudoHeader (pseudoVersion version transport)
        (b.writeChecksum fun packet size =>
          InternetChecksum.computePseudoHeader (pseudoVersion version transport) packet size nextheader)
        b.sentSize nextheader)
      b.sentSize interface = true ↔
      interface.hasTransmitterHardwareChecksumming = true ∨ 65535 ∣ b.moreLength + b.unwrittenSum := by
  unfold InternetChecksum.checksumValid
  rw [Bool.or_eq_true, decide_eq_true_eq, b.calcChecksum_writeChecksum _ (b.toNat_pseudoHeader_send _ nextheader)
    (InternetChecksum.toNat_computePseudoHeader_le _ _ _ _)]
  rfl

/-- The words that a checksum is computed of: the pseudo header and what has been written of the packet. -/
def checksummedWords (nextheader : BitVec 8) : List Nat :=
  words (InternetChecksum.pseudoHeader (pseudoVersion version transport) b.zeroed b.payloadsize nextheader ++
    b.zeroed.slice b.memstartTransport (b.data - b.memstartTransport))

theorem sum_checksummedWords (nextheader : BitVec 8) : (b.checksummedWords nextheader).sum =
    (InternetChecksum.computePseudoHeader (pseudoVersion version transport) b.zeroed b.payloadsize nextheader).toNat +
      b.zeroed.wordSum b.memstartTransport b.payloadsize.toNat := by
  unfold checksummedWords
  rw [words_append (InternetChecksum.even_pseudoHeader ..), List.sum_append, sum_words_slice, toNat_payloadsize,
    InternetChecksum.toNat_computePseudoHeader]

/-- The checksum is 0 if the words add up to a multiple of 65535. -/
theorem netShort_writeChecksum_eq_zero_iff {nextheader : BitVec 8} (positive : 0 < (b.checksummedWords nextheader).sum) :
    (b.writeChecksum fun packet size =>
        InternetChecksum.computePseudoHeader (pseudoVersion version transport) packet size nextheader).netShort
      (b.memstartTransport + transport.checksumField) = 0 ↔ 65535 ∣ (b.checksummedWords nextheader).sum := by
  rw [writeChecksum_eq, netShort_setNetShort (b.field_fits.1.trans_eq b.length_zeroed.symm),
    InternetChecksum.calcChecksum_eq_zero_iff (InternetChecksum.toNat_computePseudoHeader_le ..), ← sum_checksummedWords]
  exact and_iff_right (Nat.ne_of_gt positive)

/-- The sender writes no byte of the IP header. -/
theorem header_writeChecksum (v4 : version = .v4) : Ipv4Packet.getIhl (b.writeChecksum pseudoHeader) * 4 = b.memstartTransport ∧
    Ipv4Packet.getTotalLen (b.writeChecksum pseudoHeader) = b.packet.length := by
  subst v4
  have front : 20 ≤ b.memstartTransport := b.ip
  have same {j : Nat} (before : j < b.memstartTransport) : (b.writeChecksum pseudoHeader).byte j = b.packet.byte j := by
    obtain ⟨written, zeroed⟩ := b.byte_writeChecksum pseudoHeader before
    exact written.trans zeroed
  have ihl : Ipv4Packet.getIhl (b.writeChecksum pseudoHeader) = Ipv4Packet.getIhl b.packet := by
    unfold Ipv4Packet.getIhl
    rw [same (by omega)]
  have total : Ipv4Packet.getTotalLen (b.writeChecksum pseudoHeader) = Ipv4Packet.getTotalLen b.packet := by
    unfold Ipv4Packet.getTotalLen netShort
    rw [same (by omega), same (by omega)]
  rw [ihl, total]
  exact b.total rfl

/-- The receive path takes the packet: UDP also without a checksum. -/
def Accepted : Prop :=
  (transport = .udp ∧ 65535 ∣ (b.checksummedWords UdpPacket.ipTypeUdp).sum) ∨
    interface.hasTransmitterHardwareChecksumming = true ∨ 65535 ∣ b.moreLength + b.unwrittenSum

theorem accepted_icmpv4 (b : SentPacket .v4 .icmp) :
    ipv4IcmpChecksumValid b.send interface = true ↔ b.Accepted interface := by
  obtain ⟨ihl, total⟩ := b.header_writeChecksum (fun _ _ => 0) rfl
  unfold Accepted
  rw [or_iff_right (by simp), ← b.checksumValid_writeChecksum interface 1]
  unfold ipv4IcmpChecksumValid send sendbufferIcmpv4Checksum
  dsimp only
  rw [ihl, total]
  rfl

theorem accepted_icmpv6 (b : SentPacket .v6 .icmp) {p : Ipv6Payload} (payload : p.payload = b.memstartTransport)
    (length : p.payloadLength.toNat = b.packet.length - b.memstartTransport) :
    ipv6IcmpChecksumValid b.send p interface = true ↔ b.Accepted interface := by
  unfold Accepted
  rw [or_iff_right (by simp), ← b.checksumValid_writeChecksum interface ipv6TypeIcmp]
  unfold ipv6IcmpChecksumValid
  dsimp only
  rw [payload, length]
  rfl

theorem accepted_tcpv4 (b : SentPacket .v4 .tcp) :
    ipv4TcpChecksumValid b.send b.packet.length interface = true ↔ b.Accepted interface := by
  obtain ⟨ihl, -⟩ := b.header_writeChecksum
    (fun packet size => Ipv4Packet.computePseudoHeader packet size TcpSegment.ipTypeTcp) rfl
  have size := b.toNat_sentSize
  unfold Accepted
  rw [or_iff_right (by simp), ← b.checksumValid_writeChecksum interface TcpSegment.ipTypeTcp]
  unfold ipv4TcpChecksumValid send ipv4TcpTxChecksumming Ipv4Packet.getData
  dsimp only
  rw [ihl, ← size]
  unfold TcpSegment.checksumValid InternetChecksum.checksumValid InternetChecksum.calcChecksum
  rw [BitVec.ofNat_toNat, BitVec.setWidth_eq]
  rfl

theorem accepted_tcpv6 (b : SentPacket .v6 .tcp) {p : Ipv6Payload} (payload : p.payload = b.memstartTransport)
    (length : p.payloadLength.toNat = b.packet.length - b.memstartTransport) :
    ipv6TcpChecksumValid b.send p interface = true ↔ b.Accepted interface := by
  unfold Accepted
  rw [or_iff_right (by simp), ← b.checksumValid_writeChecksum interface TcpSegment.ipTypeTcp]
  unfold ipv6TcpChecksumValid
  dsimp only
  rw [payload, length]
  rfl

/-- A UDP datagram without a checksum, and one that is valid. -/
theorem accepted_udp {b : SentPacket version .udp} {wrong : Bool}
    (wrong_eq : wrong = (UdpPacket.getChecksum b.send b.memstartTransport ≠ 0 &&
      !(InternetChecksum.checksumValid b.send b.memstartTransport
        (InternetChecksum.computePseudoHeader (some version) b.send b.sentSize UdpPacket.ipTypeUdp) b.sentSize interface))) :
    (wrong = false ↔ b.Accepted interface) ∧
      (UdpPacket.getChecksum b.send b.memstartTransport = 0 ↔ 65535 ∣ (b.checksummedWords UdpPacket.ipTypeUdp).sum) := by
  have some : pseudoVersion version .udp = some version := by cases version <;> rfl
  have send : b.send = b.writeChecksum fun packet size =>
      InternetChecksum.computePseudoHeader (pseudoVersion version .udp) packet size UdpPacket.ipTypeUdp := by
    cases version <;> rfl
  have positive : 0 < (b.checksummedWords UdpPacket.ipTypeUdp).sum := by
    have number := InternetChecksum.nextheader_le b.zeroed b.payloadsize UdpPacket.ipTypeUdp version
    rw [sum_checksummedWords, some]
    exact Nat.add_pos_left (Nat.lt_of_lt_of_le (by decide) number) _
  have zero := b.netShort_writeChecksum_eq_zero_iff positive
  have valid := b.checksumValid_writeChecksum interface UdpPacket.ipTypeUdp
  rw [← send] at zero valid
  rw [some] at valid
  refine ⟨?_, zero⟩
  have none : UdpPacket.getChecksum b.send b.memstartTransport = 0 ↔ 65535 ∣ (b.checksummedWords UdpPacket.ipTypeUdp).sum := zero
  unfold Accepted
  rw [wrong_eq, ← valid, ← none]
  by_cases unchecked : UdpPacket.getChecksum b.send b.memstartTransport = 0
  · simp [unchecked]
  · simp only [ne_eq, unchecked, not_false_eq_true, decide_true, Bool.true_and, Bool.not_eq_false', and_false, false_or]

end SentPacket

namespace UdpStack

variable {packet : Bytes} {len : Nat} {interface : Interface}

theorem result_checksumValid {udp : Nat} {csum : BitVec 32} {payloadlen : BitVec 16} :
    (UdpPacket.checksumValid packet udp csum payloadlen interface).result =
      some (interface.hasTransmitterHardwareChecksumming || UdpPacket.calcChecksum packet udp csum payloadlen = 0) := by
  unfold UdpPacket.checksumValid
  cases interface.hasTransmitterHardwareChecksumming <;> rfl

theorem result_rxChecksummingIpv4 (enough : Ipv4Packet.minHeaderSize + UdpPacket.headerSize ≤ len)
    (inside : Ipv4Packet.getIhl packet * 4 ≤ len) (narrow : len < 2 ^ 16) :
    (rxChecksummingIpv4 packet len interface).result = some !(wrongChecksumIpv4 packet len interface) := by
  have exact : (len : Int) - Ipv4Packet.getIhl packet * 4 = (len - Ipv4Packet.getIhl packet * 4 : Nat) := by omega
  have number : (BitVec.ofInt 32 (len - Ipv4Packet.getIhl packet * 4 : Int)).toNat = len - Ipv4Packet.getIhl packet * 4 := by
    rw [exact, BitVec.ofInt_natCast, BitVec.toNat_ofNat, Nat.mod_eq_of_lt (by omega)]
  unfold rxChecksummingIpv4 wrongChecksumIpv4
  rw [if_neg (Nat.not_lt.mpr enough)]
  simp only [Traced.result_bind, UdpWalk.readsAt, UdpWalk.length, Traced.emit_result, Option.bind_some, number]
  by_cases none : UdpPacket.getChecksum packet (Ipv4Packet.getIhl packet * 4) = 0
  · rw [if_pos none]
    simp [none]
  · rw [if_neg none]
    have word : BitVec.ofInt 16 ((len - Ipv4Packet.getIhl packet * 4 : Nat) : Int) =
        BitVec.ofNat 16 (len - Ipv4Packet.getIhl packet * 4) := BitVec.ofInt_natCast ..
    simp only [Traced.result_bind, Traced.emit_result, Option.bind_some, word, result_checksumValid, ne_eq, none,
      not_false_eq_true, decide_true, Bool.true_and, Bool.not_not]

theorem result_rxChecksummingIpv6 {p : Ipv6Payload} :
    (rxChecksummingIpv6 packet p interface).result = some !(wrongChecksumIpv6 packet p interface) := by
  have word : BitVec.ofInt 16 (p.payloadLength.toNat : Int) = BitVec.ofNat 16 p.payloadLength.toNat := BitVec.ofInt_natCast ..
  unfold rxChecksummingIpv6 wrongChecksumIpv6
  simp only [Traced.result_bind, UdpWalk.readsAt, UdpWalk.length, Traced.emit_result, Option.bind_some, word]
  by_cases none : UdpPacket.getChecksum packet p.payload = 0
  · rw [if_pos none]
    simp [none]
  · rw [if_neg none]
    simp only [Traced.result_bind, Traced.emit_result, Option.bind_some, result_checksumValid, ne_eq, none,
      not_false_eq_true, decide_true, Bool.true_and, Bool.not_not]

end UdpStack

namespace SentPacket

variable {version : IpVersion} {transport : Transport} (b : SentPacket version transport) (interface : Interface)

theorem accepted_udpv4 (b : SentPacket .v4 .udp) :
    (UdpStack.rxChecksummingIpv4 b.send b.packet.length interface).result = some true ↔ b.Accepted interface := by
  obtain ⟨ihl, -⟩ := b.header_writeChecksum
    (fun packet size => Ipv4Packet.computePseudoHeader packet size UdpPacket.ipTypeUdp) rfl
  have ihl : Ipv4Packet.getIhl b.send * 4 = b.memstartTransport := ihl
  have front : 20 ≤ b.memstartTransport := b.ip
  have header : b.memstartTransport + 8 ≤ b.data := b.header
  have written := b.written
  have small : b.packet.length < 2 ^ 16 := by
    rw [← (b.total rfl).2]
    exact Ipv4Packet.getTotalLen_lt b.packet
  rw [UdpStack.result_rxChecksummingIpv4 (show 20 + 8 ≤ _ by omega) (by omega) small, Option.some.injEq, Bool.not_eq_true']
  refine (accepted_udp interface ?_).1
  unfold UdpStack.wrongChecksumIpv4
  dsimp only
  rw [ihl]
  rfl

theorem accepted_udpv6 (b : SentPacket .v6 .udp) {p : Ipv6Payload} (payload : p.payload = b.memstartTransport)
    (length : p.payloadLength.toNat = b.packet.length - b.memstartTransport) :
    (UdpStack.rxChecksummingIpv6 b.send p interface).result = some true ↔ b.Accepted interface := by
  rw [UdpStack.result_rxChecksummingIpv6, Option.some.injEq, Bool.not_eq_true']
  refine (accepted_udp interface ?_).1
  unfold UdpStack.wrongChecksumIpv6
  dsimp only
  rw [payload, length]
  rfl

/-- The receive path takes a sent packet if nothing is behind what has been written, or what is
there does not change the sum. -/
theorem checksumAccepted_iff : checksumAccepted version transport b.send b.memstartTransport b.packet.length interface ↔
    b.Accepted interface := by
  have size := b.size
  have length : (BitVec.ofNat 32 (b.packet.length - b.memstartTransport)).toNat = b.packet.length - b.memstartTransport := by
    rw [BitVec.toNat_ofNat, Nat.mod_eq_of_lt (by omega)]
  cases version with
  | v4 =>
    cases transport with
    | udp => exact accepted_udpv4 interface b
    | tcp => exact accepted_tcpv4 interface b
    | icmp => exact accepted_icmpv4 interface b
  | v6 =>
    cases transport with
    | udp => exact accepted_udpv6 interface b rfl length
    | tcp => exact accepted_tcpv6 interface b rfl length
    | icmp => exact accepted_icmpv6 interface b rfl length

end SentPacket

namespace InternetChecksum

/-- The code computes the one's complement sum of the pseudo header and of the payload, and its 32
bits are enough. -/
theorem toNat_computePayload_pseudoHeader (version : Option IpVersion) (packet payload : Bytes) (payloadlen : BitVec 16)
    (nextheader : BitVec 8) :
    let csum := computePseudoHeader version packet payloadlen nextheader + computePayload payload payloadlen.toNat
    let payloadWords := words (pseudoHeader version packet payloadlen nextheader ++ payload.slice 0 payloadlen.toNat)
    csum.toNat = payloadWords.sum ∧ (accumulateCarryBits csum).toNat = OnesComplement.sum 65535 payloadWords := by
  intro csum payloadWords
  have bound := payloadlen.isLt
  have header := toNat_computePseudoHeader_le version packet payloadlen nextheader
  have small := wordSum_le payload 0 (n := payloadlen.toNat) (k := 32768) (by omega)
  have added : csum.toNat = payloadWords.sum := by
    have total : payloadWords.sum = (words (pseudoHeader version packet payloadlen nextheader)).sum +
        payload.wordSum 0 payloadlen.toNat := by
      rw [← sum_words_slice, ← List.sum_append, ← words_append (even_pseudoHeader ..)]
    rw [total, ← toNat_computePseudoHeader, ← toNat_computePayload payload bound]
    refine BitVec.toNat_add_of_lt ?_
    rw [toNat_computePayload payload bound]
    omega
  refine ⟨added, ?_⟩
  rw [toNat_accumulateCarryBits, added, OnesComplement.sum_eq_fold (by decide) word_le]

end InternetChecksum

/-- A packet that is sent arrives: the receive path takes it, and no UDP datagram of IPv4 has the
checksum 0. -/
def SentPacket.Arrives {version : IpVersion} {transport : Transport} (b : SentPacket version transport)
    (interface : Interface) : Prop :=
  checksumAccepted version transport b.send b.memstartTransport b.packet.length interface ∧
    (version = .v4 → transport = .udp → UdpPacket.getChecksum b.send b.memstartTransport ≠ 0)

/-- The sums are always right. A packet arrives if its checksum covers what is sent, up to multiples
of 65535, and if it is not a UDP datagram of IPv4 whose sum is such a multiple. -/
theorem InternetChecksum.arrives_iff {version : IpVersion} {transport : Transport} (b : SentPacket version transport)
    (interface : Interface) :
    (∀ (version : Option IpVersion) (packet payload : Bytes) (payloadlen : BitVec 16) (nextheader : BitVec 8),
      let csum := computePseudoHeader version packet payloadlen nextheader + computePayload payload payloadlen.toNat
      let payloadWords := words (pseudoHeader version packet payloadlen nextheader ++ payload.slice 0 payloadlen.toNat)
      csum.toNat = payloadWords.sum ∧ (accumulateCarryBits csum).toNat = OnesComplement.sum 65535 payloadWords) ∧
    (b.Arrives interface ↔ b.Accepted interface ∧
      ¬(version = .v4 ∧ transport = .udp ∧ 65535 ∣ (b.checksummedWords UdpPacket.ipTypeUdp).sum)) := by
  refine ⟨toNat_computePayload_pseudoHeader, and_congr (b.checksumAccepted_iff interface) ?_⟩
  rw [not_and, not_and]
  refine imp_congr_right fun v4 => imp_congr_right fun udp => not_congr ?_
  subst v4 udp
  exact (SentPacket.accepted_udp interface rfl).2

namespace Sample

/-- From port 60372 to port 7, without data: all words add up to 65535. -/
def zeroSum : SentPacket .v4 .udp where
  packet := [0x45, 0, 0, 28, 0, 0, 0, 0, 64, 17, 0x66, 0xCB, 10, 0, 0, 1, 10, 0, 0, 2, 0xEB, 0xD4, 0, 7, 0, 8, 0, 0]
  memstartTransport := 20
  data := 28
  ip := by decide
  header := by decide
  written := by decide
  size := by decide
  total := by decide

/-- A buffer for four bytes of data of which one has been written. -/
def unfilled : SentPacket .v4 .udp where
  packet := [0x45, 0, 0, 32, 0, 0, 0, 0, 64, 17, 0x66, 0xC7, 10, 0, 0, 1, 10, 0, 0, 2, 0, 9, 0, 7, 0, 12, 0, 0, 5, 0, 0, 0]
  memstartTransport := 20
  data := 29
  ip := by decide
  header := by decide
  written := by decide
  size := by decide
  total := by decide

end Sample

/-- One datagram is sent with the checksum 0, and the receive path drops the other one. -/
theorem InternetChecksum.datagrams_lost :
    UdpPacket.getChecksum Sample.zeroSum.send 20 = 0 ∧
      ¬checksumAccepted .v4 .udp Sample.unfilled.send 20 32 UdpStack.Sample.interface := by
  constructor
  · decide
  · change ¬(UdpStack.rxChecksummingIpv4 _ 32 _).result = some true
    decide

end IPStack
