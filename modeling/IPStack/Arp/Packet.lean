import IPStack.Arp.Cache
import IPStack.Ip.ChecksumWords

/-! ARP packets for IPv4 in Ethernet frames, as they are written and as they are read. -/

namespace IPStack

/-- A hardware address of Ethernet. -/
abbrev HwAddr := Vector UInt8 6

/-- A 32-bit member in the order of the machine. -/
def machineBytes (value : BitVec 32) : Bytes :=
  [.ofBitVec (value.extractLsb' 0 8), .ofBitVec (value.extractLsb' 8 8), .ofBitVec (value.extractLsb' 16 8),
    .ofBitVec (value.extractLsb' 24 8)]

/-- `memcpy` of a hardware address. -/
def Bytes.hwAddr (p : Bytes) (i : Nat) : HwAddr :=
  #v[p.getD i 0, p.getD (i + 1) 0, p.getD (i + 2) 0, p.getD (i + 3) 0, p.getD (i + 4) 0, p.getD (i + 5) 0]

/-- `set_dst_hwaddr_broadcast`. -/
def HwAddr.broadcast : HwAddr := .replicate 6 0xFF

def HwAddr.bytes (a : HwAddr) : Bytes := [a[0]!, a[1]!, a[2]!, a[3]!, a[4]!, a[5]!]

namespace Bytes

theorem netShort_networkBytes {p : Bytes} {i : Nat} {value : BitVec 16}
    (high : p.getD i 0 = .ofBitVec (value.extractLsb' 8 8)) (low : p.getD (i + 1) 0 = .ofBitVec (value.extractLsb' 0 8)) :
    p.netShort i = value := by
  unfold netShort byte
  rw [high, low]
  exact BitVec.extractLsb'_append_extractLsb'_eq_extractLsb' (by omega) |>.trans BitVec.extractLsb'_eq_self

theorem long_machineBytes {p : Bytes} {i : Nat} {value : BitVec 32}
    (first : p.getD i 0 = .ofBitVec (value.extractLsb' 0 8)) (second : p.getD (i + 1) 0 = .ofBitVec (value.extractLsb' 8 8))
    (third : p.getD (i + 2) 0 = .ofBitVec (value.extractLsb' 16 8))
    (fourth : p.getD (i + 3) 0 = .ofBitVec (value.extractLsb' 24 8)) : p.long i = value := by
  have low : p.short i = value.extractLsb' 0 16 := by
    unfold short byte
    rw [first, second]
    exact BitVec.extractLsb'_append_extractLsb'_eq_extractLsb' (by omega)
  have high : p.short (i + 2) = value.extractLsb' 16 16 := by
    unfold short byte
    rw [third, fourth]
    exact BitVec.extractLsb'_append_extractLsb'_eq_extractLsb' (by omega)
  unfold long
  rw [low, high]
  exact BitVec.extractLsb'_append_extractLsb'_eq_extractLsb' (by omega) |>.trans BitVec.extractLsb'_eq_self

end Bytes

namespace EthFrame

def ethHeaderSize : Nat := 14

def maxFrameSize : Nat := 1518

def getDstHwaddr (frame : Bytes) : HwAddr := frame.hwAddr 0

def getSrcHwaddr (frame : Bytes) : HwAddr := frame.hwAddr 6

def getType (frame : Bytes) : BitVec 16 := frame.netShort 12

def getData (frame : Bytes) : Bytes := frame.drop ethHeaderSize

end EthFrame

namespace ArpPacket

def ethTypeArp : BitVec 16 := 0x0806

def arpHwTypeEth : BitVec 16 := 1

def arpRequest : BitVec 16 := 1

def arpReply : BitVec 16 := 2

def arpHeaderSize : Nat := 8

def arpProtocolTypeIpv4 : BitVec 16 := 0x0800

def arpHwAddrSizeEth : Nat := 6

def arpProtocolAddrSizeIpv4 : Nat := 4

def arpIpv4Packetsize : Nat := arpHeaderSize + 2 * arpHwAddrSizeEth + 2 * arpProtocolAddrSizeIpv4

def getHwType (packet : Bytes) : BitVec 16 := packet.netShort 0

def getProtocolType (packet : Bytes) : BitVec 16 := packet.netShort 2

def getOpcode (packet : Bytes) : BitVec 16 := packet.netShort 6

def getPayload (packet : Bytes) : Bytes := packet.drop arpHeaderSize

/-- The addresses in the payload, where `arp_demux` looks for them. -/
def srcHwAddr (packet : Bytes) : HwAddr := (getPayload packet).hwAddr 0

def srcIpv4Addr (packet : Bytes) : BitVec 32 := (getPayload packet).long arpHwAddrSizeEth

def dstIpv4Addr (packet : Bytes) : BitVec 32 := (getPayload packet).long (2 * arpHwAddrSizeEth + arpProtocolAddrSizeIpv4)

end ArpPacket

/-- `Eth_ARP_IPv4_Packet`: the members of both headers and of the payload. -/
structure EthArpIpv4Packet where
  dstHwaddr : HwAddr
  srcHwaddr : HwAddr
  type : BitVec 16
  hwType : BitVec 16
  protocolType : BitVec 16
  hwAddrSize : BitVec 8
  protocolAddrSize : BitVec 8
  opcode : BitVec 16
  arpSrcHwaddr : HwAddr
  arpSrcIpv4Addr : BitVec 32
  arpDstHwaddr : HwAddr
  arpDstIpv4Addr : BitVec 32
deriving DecidableEq

open Bytes

namespace EthArpIpv4Packet

def framesize : Nat := EthFrame.ethHeaderSize + ArpPacket.arpIpv4Packetsize

/-- The bytes that `send` hands to the driver. -/
def frame (p : EthArpIpv4Packet) : Bytes :=
  p.dstHwaddr.bytes ++ p.srcHwaddr.bytes ++ networkBytes p.type ++ networkBytes p.hwType ++ networkBytes p.protocolType ++
    [.ofBitVec p.hwAddrSize, .ofBitVec p.protocolAddrSize] ++ networkBytes p.opcode ++ p.arpSrcHwaddr.bytes ++
    machineBytes p.arpSrcIpv4Addr ++ p.arpDstHwaddr.bytes ++ machineBytes p.arpDstIpv4Addr

/-- The text of `ipv4_request` and of the advice on `ipv4_reply`, which fill in a packet of an
interface with its own addresses as the sender's. -/
def fill (opcode : BitVec 16) (hwAddr : HwAddr) (ipv4Addr : BitVec 32) (dst : HwAddr) (dstAddr : BitVec 32) : EthArpIpv4Packet where
  dstHwaddr := dst
  srcHwaddr := hwAddr
  type := ArpPacket.ethTypeArp
  hwType := ArpPacket.arpHwTypeEth
  protocolType := ArpPacket.arpProtocolTypeIpv4
  hwAddrSize := BitVec.ofNat 8 ArpPacket.arpHwAddrSizeEth
  protocolAddrSize := BitVec.ofNat 8 ArpPacket.arpProtocolAddrSizeIpv4
  opcode := opcode
  arpSrcHwaddr := hwAddr
  arpSrcIpv4Addr := ipv4Addr
  arpDstHwaddr := dst
  arpDstIpv4Addr := dstAddr

/-! ### Reading what was written -/

theorem length_frame (p : EthArpIpv4Packet) : p.frame.length = framesize := rfl

theorem bytes_read (a : HwAddr) : (#v[a[0]!, a[1]!, a[2]!, a[3]!, a[4]!, a[5]!] : HwAddr) = a := by
  ext i inside
  have same := getElem!_pos a i inside
  interval_cases i <;> exact congrArg UInt8.toNat same

theorem getDstHwaddr_frame (p : EthArpIpv4Packet) : EthFrame.getDstHwaddr p.frame = p.dstHwaddr := bytes_read p.dstHwaddr

theorem srcHwAddr_frame (p : EthArpIpv4Packet) :
    ArpPacket.srcHwAddr (EthFrame.getData p.frame) = p.arpSrcHwaddr := bytes_read p.arpSrcHwaddr

theorem srcIpv4Addr_frame (p : EthArpIpv4Packet) :
    ArpPacket.srcIpv4Addr (EthFrame.getData p.frame) = p.arpSrcIpv4Addr := long_machineBytes rfl rfl rfl rfl

end EthArpIpv4Packet

end IPStack
