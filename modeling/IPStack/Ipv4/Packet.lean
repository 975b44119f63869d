import IPStack.Lib.Bytes
import IPStack.Tcp.Segment

/-! IPv4 packets and TCP segments as bytes in memory. -/

namespace IPStack

/-- What the receive path asks an interface. The two checksum members are false in a build
without `InternetChecksum_Rx_Offloading`. -/
structure Interface where
  ipv4Up : Bool
  ipv4Addr : BitVec 32
  hasTransmitterHardwareChecksumming : Bool
  hasReceiverHardwareChecksumming : Bool
deriving DecidableEq, Repr

/-! ### The Internet checksum -/

namespace InternetChecksum

def byteswap16 (val : BitVec 16) : BitVec 16 := ((val &&& 0xFF#16) <<< 8) ||| ((val &&& 0xFF00#16) >>> 8)

/-- One round of the loop of `accumulateCarryBits`. -/
def accumulate (csum : BitVec 32) : BitVec 32 := (csum &&& 0xFFFF#32) + (csum >>> 16)

/-- `while (csum >> 16)`: after two rounds nothing is left to carry. -/
def accumulateCarryBits (csum : BitVec 32) : BitVec 16 := (accumulate (accumulate csum)).setWidth 16

def computePayload (payload : Bytes) (len : Nat) : BitVec 32 :=
  let odd : BitVec 32 := if len % 2 = 1 then (payload.byte (len - 1)).setWidth 32 <<< 8 else 0
  (List.range (len / 2)).foldl (fun csum i => csum + (byteswap16 (payload.short (2 * i))).setWidth 32) odd

theorem toNat_accumulate (csum : BitVec 32) :
    (accumulate csum).toNat = csum.toNat % 2 ^ 16 + csum.toNat / 2 ^ 16 := by
  have masked : (csum &&& 0xFFFF#32).toNat = csum.toNat % 2 ^ 16 := by
    rw [BitVec.toNat_and]
    exact Nat.and_two_pow_sub_one_eq_mod csum.toNat 16
  unfold accumulate
  rw [BitVec.toNat_add, masked, BitVec.toNat_ushiftRight, Nat.shiftRight_eq_div_pow]
  have bound := csum.isLt
  omega

theorem accumulateCarryBits_done (csum : BitVec 32) : accumulate (accumulate csum) >>> 16 = 0#32 := by
  apply BitVec.eq_of_toNat_eq
  rw [BitVec.toNat_ushiftRight, Nat.shiftRight_eq_div_pow, toNat_accumulate, toNat_accumulate]
  have bound := csum.isLt
  simp only [BitVec.toNat_ofNat]
  omega

end InternetChecksum

/-! ### IPv4 packets -/

namespace Ipv4Packet

def minHeaderSize : Nat := 20

def mfFlag : BitVec 8 := 1

def ipv4Version : BitVec 8 := 4

def getIhl (packet : Bytes) : Nat := (packet.byte 0 &&& 0xF#8).toNat

def getVersion (packet : Bytes) : BitVec 8 := packet.byte 0 >>> 4

def getTotalLen (packet : Bytes) : Nat := (packet.netShort 2).toNat

def getId (packet : Bytes) : BitVec 16 := packet.netShort 4

def getFlags (packet : Bytes) : BitVec 8 := packet.byte 6 >>> 5

/-- The offset in units of eight bytes: the mask applies to the number in network order. -/
def getFragmentOffset (packet : Bytes) : Nat := (packet.netShort 6 &&& 0x1FFF#16).toNat

def getTtl (packet : Bytes) : BitVec 8 := packet.byte 8

def getProtocol (packet : Bytes) : BitVec 8 := packet.byte 9

/-- No aspect converts the addresses; they stay in network order. -/
def getSrcIpaddr (packet : Bytes) : BitVec 32 := packet.long 12

def getDstIpaddr (packet : Bytes) : BitVec 32 := packet.long 16

def getData (packet : Bytes) : Bytes := packet.drop (getIhl packet * 4)

def validPacketLength (packet : Bytes) (packetLen : Nat) : Nat :=
  if packetLen < minHeaderSize then 0
  else
    let ihl := getIhl packet * 4
    if ihl < minHeaderSize then 0
    else if packetLen < ihl then 0
    else if getTotalLen packet < ihl then 0
    else if packetLen < getTotalLen packet then 0
    else getTotalLen packet

def cksum (buf : Bytes) (nwords : Nat) : BitVec 16 :=
  let sum := (List.range nwords).foldl (fun sum i => sum + (buf.short (2 * i)).setWidth 32) (0 : BitVec 32)
  let sum := (sum >>> 16) + (sum &&& 0xFFFF#32)
  ~~~ (sum + (sum >>> 16)).setWidth 16

def validPacketChecksum (packet : Bytes) (interface : Interface) : Bool :=
  interface.hasReceiverHardwareChecksumming || cksum packet (getIhl packet * 2) = 0

/-- `InternetChecksumV4::computePseudoHeader`. -/
def computePseudoHeader (packet : Bytes) (payloadlen : BitVec 16) (nextheader : BitVec 8) : BitVec 32 :=
  let half (addr : BitVec 32) : BitVec 32 := (InternetChecksum.byteswap16 (addr.setWidth 16)).setWidth 32
  let src := getSrcIpaddr packet
  let dst := getDstIpaddr packet
  payloadlen.setWidth 32 + nextheader.setWidth 32 + half src + half (src >>> 16) + half dst + half (dst >>> 16)

/-- What a packet must satisfy before `IPv4_Receive` looks at its destination. -/
def accepted (packet : Bytes) (interface : Interface) (len : Nat) : Prop :=
  interface.ipv4Up = true ∧ validPacketLength packet len ≠ 0 ∧ getVersion packet = ipv4Version ∧
    getTtl packet ≠ 0 ∧ validPacketChecksum packet interface = true

instance (packet : Bytes) (interface : Interface) (len : Nat) : Decidable (accepted packet interface len) :=
  inferInstanceAs (Decidable (_ ∧ _))

/-- What `IPv4_Receive` passes on has room for its own header. -/
theorem validPacketLength_spec {packet : Bytes} {packetLen : Nat} (valid : validPacketLength packet packetLen ≠ 0) :
    validPacketLength packet packetLen = getTotalLen packet ∧ getTotalLen packet ≤ packetLen ∧
      20 ≤ getIhl packet * 4 ∧ getIhl packet * 4 ≤ getTotalLen packet := by
  unfold validPacketLength minHeaderSize at *
  dsimp only at *
  split_ifs at valid ⊢ <;> first | exact absurd rfl valid | omega

theorem getIhl_lt (packet : Bytes) : getIhl packet < 16 := by
  unfold getIhl
  rw [BitVec.toNat_and]
  exact Nat.lt_of_le_of_lt Nat.and_le_right (by decide)

theorem getTotalLen_lt (packet : Bytes) : getTotalLen packet < 2 ^ 16 := (packet.netShort 2).isLt

end Ipv4Packet

/-! ### TCP segments -/

namespace TcpSegment

def minHeaderSize : Nat := 20

/-- `TCP_Segment::IP_TYPE_TCP`. -/
def ipTypeTcp : BitVec 8 := 6

def getHeaderLen (segment : Bytes) : BitVec 8 := segment.byte 12 >>> 4

/-- `get_options_len`, an unsigned 8-bit number also for a header length below 5. -/
def getOptionsLen (segment : Bytes) : Nat := ((getHeaderLen segment - 5) * 4).toNat

/-- The loop of `get_option_mss` at option byte `i`. `none`: after that many options it has
not ended, which needs an option of length 0 and then lasts forever. -/
def optionMssFrom (segment : Bytes) (i : Nat) : Nat → Option (BitVec 16)
  | 0 => none
  | rounds + 1 =>
    if i < getOptionsLen segment then
      let len := segment.byte (20 + i + 1)
      if segment.byte (20 + i) = 0 then some 0
      else if segment.byte (20 + i) = 1 then optionMssFrom segment (i + 1) rounds
      else if segment.byte (20 + i) = 2 then
        -- the conversion to host order also swaps the number of the 8-bit case
        if 4 ≤ len then some (segment.netShort (20 + i + 2)) else some (segment.byte (20 + i + 2) ++ 0#8)
      else optionMssFrom segment (i + len.toNat) rounds
    else some 0

def getOptionMss (segment : Bytes) : Option (BitVec 16) := optionMssFrom segment 0 (getOptionsLen segment + 1)

def checksumValid (segment : Bytes) (csum : BitVec 32) (payloadlen : Nat) (interface : Interface) : Bool :=
  interface.hasTransmitterHardwareChecksumming ||
    ~~~ InternetChecksum.accumulateCarryBits (csum + InternetChecksum.computePayload segment payloadlen) = 0

/-- The segment in the first `len` bytes behind a pointer. Its data end with these bytes. -/
def read (segment : Bytes) (len : Nat) : TcpSegment where
  sport := segment.netShort 0
  dport := segment.netShort 2
  seqnum := segment.netLong 4
  acknum := segment.netLong 8
  headerLen := getHeaderLen segment
  fin := segment.byte 13 &&& 1 ≠ 0
  syn := segment.byte 13 &&& 2 ≠ 0
  rst := segment.byte 13 &&& 4 ≠ 0
  psh := segment.byte 13 &&& 8 ≠ 0
  ack := segment.byte 13 &&& 16 ≠ 0
  window := segment.netShort 14
  optionMss := (getOptionMss segment).getD 0
  data := (segment.take len).drop (4 * (getHeaderLen segment).toNat)

end TcpSegment

end IPStack
