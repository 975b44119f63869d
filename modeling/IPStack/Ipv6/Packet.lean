import IPStack.Lib.Bytes
import IPStack.Lib.Traced

/-! IPv6 packets as bytes in memory, and the walk of `ipv6_demux` over their headers. -/

namespace IPStack

namespace Ipv6Packet

def headerSizeInBytes : Nat := 40

def getPayloadLen (packet : Bytes) : BitVec 16 := packet.netShort 4

def getNextheader (packet : Bytes) : BitVec 8 := packet.byte 6

/-- 0 if the length is invalid. The length in the packet does not count its header. -/
def validPacketLength (packet : Bytes) (packetLenInBytes : Nat) : Nat :=
  if packetLenInBytes < headerSizeInBytes then 0
  else if packetLenInBytes < (getPayloadLen packet).toNat then 0
  else (getPayloadLen packet).toNat

end Ipv6Packet

/-- What the walk over a packet does: it reads a byte, hands the payload to the handlers of
the upper layers, or goes on with another round of its loop. Positions are offsets from the
start of the packet. -/
inductive Ipv6Event where
  | read (position : Nat)
  | hands (nextHeader : BitVec 8) (payload : Nat) (payloadLength : BitVec 32)
  | continues (payloadLength payloadLength' : BitVec 32)
deriving DecidableEq, Repr

abbrev Ipv6Walk := Traced Ipv6Event

def readByte (packet : Bytes) (position : Nat) : Ipv6Walk (BitVec 8) := .emit (.read position) (packet.byte position)

/-! ### Options -/

namespace ExtensionHeaderOptions

/-- An unknown option is skipped unless one of the two high bits of its type is set. -/
def parseOption (type : BitVec 8) : Bool := type &&& 0xC0#8 = 0#8

/-- The parameters of `parseOptions`, which are its loop variables. -/
structure Cursor where
  data : Nat
  remainingLength : Nat
deriving DecidableEq, Repr

/-- The result of `parseOptions`, and where its cursor stands then. -/
structure Parsed where
  accepted : Bool
  data : Nat
deriving DecidableEq, Repr

/-- One round of the loop of `parseOptions`. -/
def parseRound (packet : Bytes) (s : Cursor) : Ipv6Walk (Cursor ⊕ Parsed) :=
  if s.remainingLength = 0 then pure (.inr ⟨true, s.data⟩)
  else do
    let optionLen ← readByte packet (s.data + 1)
    let type ← readByte packet s.data
    if !parseOption type then pure (.inr ⟨false, s.data⟩)
    else if s.remainingLength < optionLen.toNat then pure (.inr ⟨false, s.data⟩)
    else pure (.inl ⟨s.data + optionLen.toNat, s.remainingLength - optionLen.toNat⟩)

def parseOptions (fuel : Nat) (packet : Bytes) (data remainingLength : Nat) : Ipv6Walk Parsed :=
  Traced.loop (parseRound packet) fuel ⟨data, remainingLength⟩

def writePaddingOption (data : Bytes) (position : Nat) (remainingBytes : BitVec 8) : Bytes :=
  if remainingBytes = 1 then data.set position 0
  else (data.set position 1).set (position + 1) (.ofBitVec (remainingBytes - 2))

end ExtensionHeaderOptions

/-! ### The hop-by-hop header of sent packets -/

/-- The members of `IPV6` that the router alert option adds. -/
structure Ipv6AlertOption where
  useAlertoption : Bool
  alertoptiontype : UInt8
deriving DecidableEq, Repr

namespace Ipv6HopByHop

def getMinSize (ipv6 : Ipv6AlertOption) : Nat := if ipv6.useAlertoption then 4 else 0

def getSize (ipv6 : Ipv6AlertOption) : Nat :=
  let minsize := getMinSize ipv6
  let rest := minsize % 8
  if rest = 0 then minsize else minsize + (8 - rest)

/-- The used size and the bytes, written from `position` on. -/
def writeOptions (ipv6 : Ipv6AlertOption) (data : Bytes) (position : Nat) : Nat × Bytes :=
  if !ipv6.useAlertoption then (0, data)
  else (4, (((data.set position 5).set (position + 1) 2).set (position + 2) 0).set (position + 3) ipv6.alertoptiontype)

/-- The size of the header and the bytes with it. Its first byte is written later. -/
def writeExtensionHeader (ipv6 : Ipv6AlertOption) (data : Bytes) : Nat × Bytes :=
  if getMinSize ipv6 = 0 then (0, data)
  else
    let allSize := getSize ipv6
    let (usedSize, data) := writeOptions ipv6 data 2
    let data := data.set 1 (.ofNat (allSize / 8 - 1))
    let usedSize := allSize - usedSize
    if usedSize = 0 then (allSize, data)
    else (allSize, ExtensionHeaderOptions.writePaddingOption data (2 + usedSize) (BitVec.ofNat 8 usedSize - 2))

end Ipv6HopByHop

/-! ### The walk over the headers -/

/-- The arguments of `ipv6_payload_demux` that are passed by reference. -/
structure Ipv6Payload where
  payload : Nat
  payloadLength : BitVec 32
  nextHeader : BitVec 8
deriving DecidableEq, Repr

/-- The size of the extension header at a position: its length byte counts units of eight
bytes behind the first one. -/
def extensionLengthInBytes (lenInOctets : BitVec 8) : Nat := lenInOctets.toNat * 8 + 8

/-- The receive advice of an extension header with a number; the result tells whether the
packet is dropped. The hop-by-hop and the destination options are received alike. -/
def receiveExtension (number : BitVec 8) (fuel : Nat) (packet : Bytes) (p : Ipv6Payload) : Ipv6Walk (Ipv6Payload × Bool) :=
  if p.nextHeader = number then do
    let lenInOctets ← readByte packet (p.payload + 1)
    let length := extensionLengthInBytes lenInOctets
    let parsed ← ExtensionHeaderOptions.parseOptions fuel packet (p.payload + 2) length
    if !parsed.accepted then pure (p, true)
    else pure ({ p with payload := p.payload + length, payloadLength := p.payloadLength - BitVec.ofNat 32 length }, false)
  else pure (p, false)

/-- `IPv6_HopByHop_Header_Receive`. -/
def receiveHopByHop : Nat → Bytes → Ipv6Payload → Ipv6Walk (Ipv6Payload × Bool) := receiveExtension 0

/-- `IPv6_HeaderOption_Destinations_Receive`. -/
def receiveDestination : Nat → Bytes → Ipv6Payload → Ipv6Walk (Ipv6Payload × Bool) := receiveExtension 60

/-- The next headers that the receive advice of the upper layers compares with: TCP, UDP and
ICMPv6. -/
def upperLayers : List (BitVec 8) := [6, 17, 58]

/-- `ipv6_payload_demux` with the advice of the two extension headers around it. `upper` is
the result of an upper layer's advice, which leaves the arguments as they are. -/
def ipv6PayloadDemux (upper : Ipv6Payload → Bool) (fuel : Nat) (packet : Bytes) (p : Ipv6Payload) :
    Ipv6Walk (Ipv6Payload × Bool) := do
  let (p, stop) ← receiveHopByHop fuel packet p
  if stop then pure (p, true)
  else
    let (p, stop) ← receiveDestination fuel packet p
    if stop then pure (p, true)
    else if p.nextHeader ∈ upperLayers then Traced.emit (.hands p.nextHeader p.payload p.payloadLength) (p, upper p)
    else pure (p, p.nextHeader = 59)

/-- One round of the loop of `ipv6_demux`. The state is that of the payload and
`remainingLengthFailSafe`; the result tells whether the packet found its handler. -/
def demuxRound (upper : Ipv6Payload → Bool) (fuel : Nat) (packet : Bytes) (s : Ipv6Payload × BitVec 32) :
    Ipv6Walk ((Ipv6Payload × BitVec 32) ⊕ Bool) := do
  let (p, done) ← ipv6PayloadDemux upper fuel packet s.1
  if done then pure (.inr true)
  else if p.payloadLength = 0 then pure (.inr true)
  else if p.payloadLength = s.2 then pure (.inr false) -- error_no_protocol_handler_v6
  else Traced.emit (.continues s.1.payloadLength p.payloadLength) (.inl (p, p.payloadLength))

/-- `Demux::ipv6_demux`. -/
def ipv6Demux (upper : Ipv6Payload → Bool) (fuel : Nat) (packet : Bytes) : Ipv6Walk Bool := do
  let high ← readByte packet 4
  let low ← readByte packet 5
  let length := (high ++ low).setWidth 32
  let nextHeader ← readByte packet 6
  Traced.loop (demuxRound upper fuel packet) fuel
    ({ payload := Ipv6Packet.headerSizeInBytes, payloadLength := length, nextHeader := nextHeader }, length)

end IPStack
