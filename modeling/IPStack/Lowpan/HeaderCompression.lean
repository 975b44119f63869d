import IPStack.Ipv6.DestinationCache

/-! The compressed IPv6 header of 6LoWPAN, with the aspects that compress its addresses. -/

namespace IPStack

inductive HopCount where
  | uncompressed
  | hopcount255
  | hopcount64
  | hopcount1
deriving DecidableEq, Repr

inductive UnicastAspect where
  | addr8
  | addr2
  | addr0
deriving DecidableEq, Repr

inductive MulticastAspect where
  | addr4
  | addr2
  | addr1
deriving DecidableEq, Repr

/-- A build of the compressed header. Two aspects can advise one function, and neither of them
proceeds, so only the outer one takes effect; the sources give them no order. -/
structure IPv6hcBuild where
  hopcount : HopCount
  srcAddr : Option UnicastAspect
  destAddr : Option UnicastAspect
  destMulticastAddr : Option MulticastAspect
  srcAdviceOuter : Bool
  multicastAdviceOuter : Bool
  charIsSigned : Bool
  /-- Without an aspect of the link layer this changes nothing. -/
  getDestIpFromUpperProtocolAddr : Ipv6Addr → Ipv6Addr

/-- The packet from its fragment header on. `written` are the ranges of `data` that were
written, by start and length; the program does not keep them. -/
structure IPv6hcPacket where
  fragmentheader : BitVec 8 × BitVec 8
  datagramTag : BitVec 16
  datagramTagCounter : BitVec 16
  data : Nat → UInt8
  written : List (Nat × Nat)

/-- `offset` is advanced where the switch has no `break`, too. -/
def switchTF (tf : UInt8) : Nat :=
  match tf.toNat with
  | 0 => 4
  | 1 => 3
  | 2 => 1
  | _ => 0

def switchInline (mode : UInt8) : Nat :=
  match mode.toNat with
  | 0 => 1
  | _ => 0

def switchCID (cid : UInt8) : Nat :=
  match cid.toNat with
  | 1 => 1
  | _ => 0

/-- An address with a prefix known to both sides. -/
def switchContext (mode : UInt8) : Nat :=
  match mode.toNat with
  | 1 => 8
  | 2 => 2
  | _ => 0

def switchUnicast (mode : UInt8) : Nat :=
  match mode.toNat with
  | 0 => 16
  | 1 => 8
  | 2 => 2
  | _ => 0

def switchMulticast (mode : UInt8) : Nat :=
  match mode.toNat with
  | 0 => 16
  | 1 => 6
  | 2 => 4
  | 3 => 1
  | _ => 0

def switchMulticastContext (mode : UInt8) : Nat :=
  match mode.toNat with
  | 0 => 6
  | _ => 0

/-- The cases 0 and 1 of a switch; case 0 falls through. -/
def switchFallThrough (mode : UInt8) (case0 case1 : Nat) : Nat :=
  match mode.toNat with
  | 0 => case0 + case1
  | 1 => case1
  | _ => 0

/-! ### Compressed addresses -/

namespace Ipv6Addr

/-- The link local prefix and the interface identifier from the packet. -/
def linkLocal64 (ptr : Nat → UInt8) : Ipv6Addr :=
  #v[0xFE, 0x80, 0, 0, 0, 0, 0, 0, ptr 0, ptr 1, ptr 2, ptr 3, ptr 4, ptr 5, ptr 6, ptr 7]

def linkLocal16 (ptr : Nat → UInt8) : Ipv6Addr :=
  #v[0xFE, 0x80, 0, 0, 0, 0, 0, 0, 0, 0, 0, 0xFF, 0xFE, 0, ptr 0, ptr 1]

def linkLocal0 (fromUpper : Ipv6Addr → Ipv6Addr) : Ipv6Addr :=
  fromUpper #v[0xFE, 0x80, 0, 0, 0, 0, 0, 0, 0, 0, 0, 0, 0, 0, 0, 0]

def multicast48 (ptr : Nat → UInt8) : Ipv6Addr :=
  #v[0xFF, ptr 0, 0, 0, 0, 0, 0, 0, 0, 0, 0, ptr 1, ptr 2, ptr 3, ptr 4, ptr 5]

def multicast32 (ptr : Nat → UInt8) : Ipv6Addr :=
  #v[0xFF, ptr 0, 0, 0, 0, 0, 0, 0, 0, 0, 0, 0, 0, ptr 1, ptr 2, ptr 3]

def multicast8 (ptr : Nat → UInt8) : Ipv6Addr :=
  #v[0xFF, 0x02, 0, 0, 0, 0, 0, 0, 0, 0, 0, 0, 0, 0, 0, ptr 0]

end Ipv6Addr

/-- The case labels of the source are octal and decimal numbers. The first case reads the
16 bytes from the address of the parameter `readPtr` on, not those it points to: `stack`. -/
def readCompressedIpaddr (b : IPv6hcBuild) (stack : Ipv6Addr) (readPtr : Nat → UInt8) (flagbyte : UInt8) : Ipv6Addr :=
  match flagbyte.toNat with
  | 0 => stack
  | 1 => .linkLocal64 readPtr
  | 10 => .linkLocal16 readPtr
  | 11 => .linkLocal0 b.getDestIpFromUpperProtocolAddr
  | _ => unspecifiedIPv6Address

def readCompressedMulticastDestIpaddr (stack : Ipv6Addr) (readPtr : Nat → UInt8) (flagbyte : UInt8) : Ipv6Addr :=
  match flagbyte.toNat with
  | 0 => stack
  | 1 => .multicast48 readPtr
  | 10 => .multicast32 readPtr
  | 11 => .multicast8 readPtr
  | _ => unspecifiedIPv6Address

namespace IPv6hcBuild

variable (b : IPv6hcBuild)

def hoplimitSize : Nat := if b.hopcount = .uncompressed then 1 else 0

def hcHeadersizeWithoutFragHeader : Nat := 2

def hcFragHeader : Nat := 4

end IPv6hcBuild

def UnicastAspect.size : UnicastAspect → Nat
  | .addr8 => 8
  | .addr2 => 2
  | .addr0 => 0

def MulticastAspect.size : MulticastAspect → Nat
  | .addr4 => 4
  | .addr2 => 2
  | .addr1 => 1

namespace IPv6hcBuild

variable (b : IPv6hcBuild)

/-- No aspect advises this function. -/
def getWriteSrcHeaderSize : Nat := 16

/-- The aspects of the source address advise this function, too. -/
def getWriteDestHeaderSize : Nat :=
  match b.srcAddr, b.destAddr with
  | none, none => 16
  | some src, none => src.size
  | none, some dest => dest.size
  | some src, some dest => if b.srcAdviceOuter then src.size else dest.size

def getWriteMulticastDestHeaderSize : Nat :=
  match b.destMulticastAddr with
  | none => 16
  | some multicast => multicast.size

/-- Without the sizes of the addresses. -/
def getWriteHeaderSize : Nat :=
  1 + b.hoplimitSize + hcHeadersizeWithoutFragHeader + hcFragHeader

end IPv6hcBuild

namespace IPv6hcPacket

variable (b : IPv6hcBuild) (p : IPv6hcPacket)

/-! ### The packet's bytes -/

/-- `memcpy` to `data`. -/
def write (start : Nat) (bytes : List UInt8) : IPv6hcPacket :=
  { p with
    data := fun i => if start ≤ i ∧ i < start + bytes.length then bytes.getD (i - start) 0 else p.data i
    written := p.written ++ [(start, bytes.length)] }

/-- `flagbyte |= flags` -/
def orFlagbyte (flags : UInt8) : IPv6hcPacket :=
  { p with data := fun i => if i = 1 then p.data 1 ||| flags else p.data i }

def tf : UInt8 := p.data 0 &&& 0x18

def nh : UInt8 := p.data 0 &&& 0x04

def hlim : UInt8 := p.data 0 &&& 0x03

def cid : UInt8 := p.data 1 &&& 0x80

def sac : UInt8 := p.data 1 &&& 0x40

def sam : UInt8 := p.data 1 &&& 0x30

def m : UInt8 := p.data 1 &&& 0x08

def dac : UInt8 := p.data 1 &&& 0x04

def dam : UInt8 := p.data 1 &&& 0x03

/-! ### Writing -/

def writeFragmentHeader (size : BitVec 16) : IPv6hcPacket :=
  { p with
    fragmentheader := ((0xC0#16 ||| (0x0700#16 &&& size)).setWidth 8, (0x00FF#16 &&& size).setWidth 8)
    datagramTag := p.datagramTagCounter
    datagramTagCounter := p.datagramTagCounter + 1 }

def hopcountFlags : HopCount → UInt8
  | .uncompressed => 0
  | .hopcount255 => 3
  | .hopcount64 => 2
  | .hopcount1 => 1

def setUpHeader : IPv6hcPacket :=
  { p with
    data := fun i => if i = 0 then 0x60 ||| hopcountFlags b.hopcount else if i = 1 then 0 else p.data i
    written := [(0, 2)] }

def setPayloadLen (len : BitVec 16) : IPv6hcPacket := p.writeFragmentHeader len

def setHoplimit (t : UInt8) : IPv6hcPacket :=
  match b.hopcount with
  | .uncompressed => p.write (IPv6hcBuild.hcHeadersizeWithoutFragHeader + 1) [t]
  | _ => p

def setNextheader (i : UInt8) : IPv6hcPacket := p.write IPv6hcBuild.hcHeadersizeWithoutFragHeader [i]

def writeCompressedSrcIpaddr (addr : Ipv6Addr) (writePtr : Nat) : IPv6hcPacket :=
  match b.srcAddr with
  | none => p.write writePtr addr.toList
  | some .addr8 => (p.write writePtr (addr.toList.drop 8)).orFlagbyte 0x10
  | some .addr2 => (p.write writePtr [addr[14]!, addr[15]!]).orFlagbyte 0x20
  | some .addr0 => p.orFlagbyte 0x30

/-- The aspects of the multicast destination advise this function, and not the one for
multicast addresses. -/
def writeCompressedDstIpaddr (addr : Ipv6Addr) (writePtr : Nat) : IPv6hcPacket :=
  let unicast : UnicastAspect → IPv6hcPacket
    | .addr8 => (p.write writePtr (addr.toList.drop 8)).orFlagbyte 0x01
    | .addr2 => (p.write writePtr [addr[14]!, addr[15]!]).orFlagbyte 0x02
    | .addr0 => p.orFlagbyte 0x03
  let multicast : MulticastAspect → IPv6hcPacket
    | .addr4 => (p.write writePtr [addr[12]!, addr[13]!, addr[14]!, addr[15]!]).orFlagbyte 0x01
    | .addr2 => (p.write writePtr [addr[14]!, addr[15]!]).orFlagbyte 0x02
    | .addr1 => (p.write (writePtr + 1) [addr[15]!]).orFlagbyte 0x03
  match b.destAddr, b.destMulticastAddr with
  | none, none => p.write writePtr addr.toList
  | some u, none => unicast u
  | none, some m => multicast m
  | some u, some m => if b.multicastAdviceOuter then multicast m else unicast u

def writeCompressedMulticastDstIpaddr (addr : Ipv6Addr) (writePtr : Nat) : IPv6hcPacket :=
  (p.orFlagbyte 0x08).write writePtr addr.toList

def setSrcIpaddr (addr : Ipv6Addr) : IPv6hcPacket :=
  let offset := IPv6hcBuild.hcHeadersizeWithoutFragHeader + 1 + b.hoplimitSize
  p.writeCompressedSrcIpaddr b addr offset

def setDstIpaddr (addr : Ipv6Addr) : IPv6hcPacket :=
  let offset := IPv6hcBuild.hcHeadersizeWithoutFragHeader + 1 + b.hoplimitSize + IPv6hcBuild.getWriteSrcHeaderSize
  if getIPv6AddressScope addr = .multicast then p.writeCompressedMulticastDstIpaddr addr offset
  else p.writeCompressedDstIpaddr b addr offset

/-! ### Reading -/

/-- `char` to `int`. -/
def charToInt (c : BitVec 8) : BitVec 32 := if b.charIsSigned then c.signExtend 32 else c.setWidth 32

def getPayloadLen : BitVec 16 :=
  -- the shift binds stronger than the mask
  ((charToInt b p.fragmentheader.1 &&& 0x07#32 <<< 8) ||| charToInt b p.fragmentheader.2).setWidth 16

def calculateHCHeaderSizeWithoutFragmentSize : Nat := 2 + switchCID p.cid

def calculateHeaderSize : Nat :=
  4 + switchTF p.tf + switchInline p.nh + switchInline p.hlim + switchCID p.cid +
    switchFallThrough p.sac (switchUnicast p.sam) (switchContext p.sam) +
    switchFallThrough p.m (switchFallThrough p.dac (switchUnicast p.dam) (switchContext p.dam))
      (switchFallThrough p.dac (switchMulticast p.dam) (switchMulticastContext p.dam))

/-- The position of the payload in `data`. -/
def getPayload : Nat := p.calculateHeaderSize

def getHoplimit : UInt8 :=
  match p.hlim.toNat with
  | 0 => p.data (p.calculateHCHeaderSizeWithoutFragmentSize + switchTF p.tf + switchInline p.nh)
  | 1 => 1
  | 2 => 64
  | 3 => 255
  | _ => 0

def getNextheader : UInt8 :=
  match p.nh.toNat with
  | 0 => p.data (p.calculateHCHeaderSizeWithoutFragmentSize + switchTF p.tf)
  | _ => 0

def getSrcIpaddr (stack : Ipv6Addr) : Ipv6Addr :=
  let offset := p.calculateHCHeaderSizeWithoutFragmentSize + 1 + b.hoplimitSize
  readCompressedIpaddr b stack (fun i => p.data (offset + i)) (p.data 1 &&& 0x30)

def getDstIpaddr (stack : Ipv6Addr) : Ipv6Addr :=
  let offset := p.calculateHCHeaderSizeWithoutFragmentSize + 1 + b.hoplimitSize + IPv6hcBuild.getWriteSrcHeaderSize
  if p.data 1 &&& 0x08 ≠ 0 then
    readCompressedMulticastDestIpaddr stack (fun i => p.data (offset + i)) (p.data 1 &&& 0x03)
  else readCompressedIpaddr b stack (fun i => p.data (offset + i)) (p.data 1 &&& 0x03)

end IPv6hcPacket

end IPStack
