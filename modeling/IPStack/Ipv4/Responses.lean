import IPStack.Ipv4.Reassembly
import IPStack.Ipv4.Routes
import IPStack.Socket.SharedMemory

/-! What a host answers to the packets it receives, on its own: ICMP messages and resets. They are
sent by management sockets, which share one memory. -/

namespace IPStack

open Bytes

namespace IcmpPacket

def headerSize : Nat := 8

def ipv4TypeIcmp : BitVec 8 := 1

def typeDestinationUnreachable : BitVec 8 := 3

def codeProtocolUnreachable : BitVec 8 := 2

def codePortUnreachable : BitVec 8 := 3

def typeEchoRequest : BitVec 8 := 8

def typeEchoReply : BitVec 8 := 0

def codeEcho : BitVec 8 := 0

def getType (icmp : Bytes) : BitVec 8 := icmp.byte 0

def getCode (icmp : Bytes) : BitVec 8 := icmp.byte 1

/-- The identifier and the sequence number of an echo message, as they are stored. -/
def getQuench (icmp : Bytes) : BitVec 32 := icmp.long 4

/-- A message whose checksum is 0, with `size` bytes that are copied from a pointer. -/
def fill (type code : BitVec 8) (quench : BitVec 32) (data : Bytes) (size : Nat) : Bytes :=
  [.ofBitVec type, .ofBitVec code, 0, 0] ++ machineBytes quench ++ data.slice 0 size

end IcmpPacket

/-- A 32-bit member in network byte order. -/
def networkLong (value : BitVec 32) : Bytes := networkBytes (value.extractLsb' 16 16) ++ networkBytes (value.extractLsb' 0 16)

namespace TcpSegment

/-- `Management_TCP_Socket::prepareResponse`. -/
def prepareResponse (incoming : Bytes) (payloadLen : BitVec 32) : Bytes :=
  let hasAck := incoming.byte 13 &&& 16 ≠ 0
  let consumed : BitVec 32 := if incoming.byte 13 &&& 2 ≠ 0 ∨ incoming.byte 13 &&& 1 ≠ 0 then payloadLen + 1 else payloadLen
  networkBytes (incoming.netShort 2) ++ networkBytes (incoming.netShort 0) ++
    (if hasAck then networkLong (incoming.netLong 8) ++ networkLong 0 else networkLong 0 ++ networkLong (incoming.netLong 4 + consumed)) ++
    [0x50, if hasAck then 4 else 4 ||| 16] ++ networkBytes 0 ++ [0, 0] ++ networkBytes 0

end TcpSegment

/-- The protocol that the aspects of a transport layer write. -/
def Transport.ipType : Transport → BitVec 8
  | .udp => UdpPacket.ipTypeUdp
  | .tcp => TcpSegment.ipTypeTcp
  | .icmp => IcmpPacket.ipv4TypeIcmp

/-- The features that answer, and the checksum of UDP. -/
structure ResponseConfig where
  clock : Clock
  echoReply : Bool
  protocolUnreachable : Bool
  portUnreachable : Bool
  tcpReset : Bool
  udpRxChecksumming : Bool

/-- What the rest of the host answers meanwhile: the clock, the driver, `ipv4_lookup`, and whether a
socket of TCP or UDP takes the packet. -/
structure ResponseEnv where
  now : BitVec 64
  hasBeenSent : Nat → Bool
  lookup : Option HwAddr
  socketTakes : Bool

/-- The management memory has no block that is larger than a frame, and little else in a send buffer. -/
structure ManagementLayout extends SharedMemoryLayout where
  sizeBig_le : toMempoolSizes.sizeBig.toNat ≤ EthFrame.maxFrameSize
  sizeofSendBuffer_lt : sizeofSendBuffer.toNat < 2 ^ 16

/-- `icmp` and `reset` are the members `ipv4` of `ICMPv4_Socket` and of `Management_TCP_Socket`. A
host that has read the null pointer, or written behind a block, is not looked at any more. -/
structure Ipv4Host (l : ManagementLayout) (n : Nat) where
  router : Ipv4Router n
  memory : SharedMemory l.toSharedMemoryLayout
  icmp : Ipv4OnSocket n
  reset : Ipv4OnSocket n
  reassembly : Reassembly
  crashed : Bool

/-- `arrive` has what lies behind the packet in the frame, and behind the frame in memory. -/
inductive Ipv4Event (l : ManagementLayout) (n : Nat)
  | arrive (interface : Fin n) (frame padding behind : Bytes) (env : ResponseEnv)
  | transmit (interface : Fin n) (frame : Bytes)
  | setRouter (router : Ipv4Router n)
  | manage (call : SharedMemory.Call l.toSharedMemoryLayout)

namespace Ipv4Packet

def ethTypeIpv4 : BitVec 16 := 0x0800

/-- The advice on `send`: the checksum of the transport layer, then that of the header. -/
def writeChecksums (transport : Transport) (packet : Bytes) : Bytes :=
  let size := BitVec.ofNat 16 (packet.length - minHeaderSize)
  let field := minHeaderSize + transport.checksumField
  let zeroed := packet.setNetShort field 0
  let csum := InternetChecksum.computePseudoHeader (pseudoVersion .v4 transport) zeroed size transport.ipType
  computeChecksum (zeroed.setNetShort field (InternetChecksum.calcChecksum zeroed minHeaderSize csum size))

/-- What a management socket sends as a packet. -/
def ofContent {n : Nat} (s : Ipv4OnSocket n) (r : Ipv4Router n) (transport : Transport) (content : Bytes) : Bytes :=
  writeChecksums transport (s.setupHeader r (.ofNat 16 (minHeaderSize + content.length)) transport.ipType ++ content)

end Ipv4Packet

namespace Ipv4Host

variable {l : ManagementLayout} {n : Nat}

/-- The headers of Ethernet and IPv4, which `estimateSendBufferMinSize` adds up. -/
def headersSize : Nat := EthFrame.ethHeaderSize + Ipv4Packet.minHeaderSize

def getMaxPayloadLength (h : Ipv4Host l n) (s : Ipv4OnSocket n) : BitVec 32 :=
  match s.interface with
  | none => 0
  | some used =>
    let memsize := h.memory.mempool.getMaxFreeBlockSize
    let mtusize := (h.router.interfaces used).mtu
    (if memsize < mtusize then memsize else mtusize) - BitVec.ofNat 32 headersSize

/-- The frame of a packet, which a socket sends with the addresses of the interface that it uses. -/
def frame (h : Ipv4Host l n) (s : Ipv4OnSocket n) (used : Fin n) (hw : HwAddr) (transport : Transport) (content : Bytes) : Bytes :=
  hw.bytes ++ (h.router.interfaces used).hwAddr.bytes ++ networkBytes Ipv4Packet.ethTypeIpv4 ++
    Ipv4Packet.ofContent s h.router transport content

/-- `requestSendBuffer` of a management socket for `size` bytes, what is written then, and `send`.
The buffer leaves on the interface that the request names. -/
def respond (h : Ipv4Host l n) (s : Ipv4OnSocket n) (interface : Fin n) (size : Nat) (transport : Transport)
    (content : Bytes) (env : ResponseEnv) : (Ipv4Host l n × Ipv4OnSocket n) × List (Fin n × Bytes) :=
  match s.interface with
  | none => (({ h with crashed := true }, s), [])
  | some used =>
    let created := h.memory.createInstance (.ofNat 32 (headersSize + size)) env.hasBeenSent
    match created.1 with
    | none => (({ h with memory := created.2 }, s), [])
    | some buffer =>
      let s' := { s with id := s.id + 1 }
      match (Ipv4Interface.groupAddress (s.getNexthopIpaddr h.router)).or env.lookup with
      | none => (({ h with memory := created.2.step (.setState buffer SendBuffer.invalidState) }, s'), [])
      | some hw =>
        if size < content.length then (({ h with crashed := true }, s'), [])
        else (({ h with memory := created.2.step (.setState buffer SendBuffer.transmittedState) }, s'),
          [(interface, h.frame s used hw transport content)])

/-- An answer of `ICMPv4_Socket`. -/
def respondIcmp (h : Ipv4Host l n) (s : Ipv4OnSocket n) (interface : Fin n) (size : Nat) (content : Bytes) (env : ResponseEnv) :
    Ipv4Host l n × List (Fin n × Bytes) :=
  let sent := h.respond s interface size .icmp content env
  ({ sent.1.1 with icmp := sent.1.2 }, sent.2)

/-- The advice of `IPv4_ICMP_Echo_Reply` behind its test. A message that has no room for its header
is written behind the end of its block. -/
def echoReply (h : Ipv4Host l n) (packet : Bytes) (payloadlen : Nat) (interface : Fin n) (env : ResponseEnv) :
    Ipv4Host l n × List (Fin n × Bytes) :=
  let icmp := Ipv4Packet.getData packet
  let s := h.icmp.setDstAddr h.router (Ipv4Packet.getSrcIpaddr packet)
  let maxlen := ((h.getMaxPayloadLength s).setWidth 16).toNat
  let payloadlen := if maxlen < payloadlen then maxlen else payloadlen
  h.respondIcmp s interface payloadlen
    (IcmpPacket.fill IcmpPacket.typeEchoReply 0 (IcmpPacket.getQuench icmp) (icmp.drop IcmpPacket.headerSize)
      (payloadlen - IcmpPacket.headerSize)) env

/-- The text of `IPv4_ICMP_Port_Unreachable` and `IPv4_ICMP_Protocol_Unreachable`. -/
def unreachable (h : Ipv4Host l n) (code : BitVec 8) (packet : Bytes) (interface : Fin n) (env : ResponseEnv) :
    Ipv4Host l n × List (Fin n × Bytes) :=
  let s := h.icmp.setDstAddr h.router (Ipv4Packet.getSrcIpaddr packet)
  let echoErrornousPacketSize := Ipv4Packet.getIhl packet * 4 + 8
  h.respondIcmp s interface (echoErrornousPacketSize + IcmpPacket.headerSize)
    (IcmpPacket.fill IcmpPacket.typeDestinationUnreachable code 0 packet echoErrornousPacketSize) env

def errorPortNotReachable (c : ResponseConfig) (h : Ipv4Host l n) (packet : Bytes) (interface : Fin n) (env : ResponseEnv) :
    Ipv4Host l n × List (Fin n × Bytes) :=
  if c.portUnreachable then h.unreachable IcmpPacket.codePortUnreachable packet interface env else (h, [])

def errorNoProtocolHandler (c : ResponseConfig) (h : Ipv4Host l n) (packet : Bytes) (interface : Fin n) (env : ResponseEnv) :
    Ipv4Host l n × List (Fin n × Bytes) :=
  if c.protocolUnreachable then h.unreachable IcmpPacket.codeProtocolUnreachable packet interface env else (h, [])

/-- `IPv4_TCP_Reset`. Without it a segment that no socket takes has no protocol handler. -/
def tcpReset (c : ResponseConfig) (h : Ipv4Host l n) (packet : Bytes) (interface : Fin n) (env : ResponseEnv) :
    Ipv4Host l n × List (Fin n × Bytes) :=
  let segment := Ipv4Packet.getData packet
  if c.tcpReset = false then h.errorNoProtocolHandler c packet interface env
  else if segment.byte 13 &&& 4 ≠ 0 then (h, [])
  else
    let s := h.reset.setDstAddr h.router (Ipv4Packet.getSrcIpaddr packet)
    let payloadLen : Int :=
      Ipv4Packet.getTotalLen packet - (Ipv4Packet.getIhl packet + (TcpSegment.getHeaderLen segment).toNat) * 4
    let sent := h.respond s interface TcpSegment.minHeaderSize .tcp
      (TcpSegment.prepareResponse segment (.ofInt 32 payloadLen)) env
    ({ sent.1.1 with reset := sent.1.2 }, sent.2)

/-- `IPv4_TCP_Receive`, `IPv4_TCP_Listen` and `IPv4_TCP_Reset`. -/
def receiveTcp (c : ResponseConfig) (h : Ipv4Host l n) (packet : Bytes) (len : Nat) (interface : Fin n) (env : ResponseEnv) :
    Ipv4Host l n × List (Fin n × Bytes) :=
  let i := (h.router.interfaces interface).toInterface
  if i.ipv4Addr = 0 ∨ len < TcpSegment.minHeaderSize ∨ len < Ipv4Packet.getIhl packet * 4 then (h, [])
  else if ipv4TcpChecksumValid packet len i = false then (h, [])
  else if env.socketTakes then (h, [])
  else h.tcpReset c packet interface env

/-- `IPv4_UDP_Rx_Checksumming` and `IPv4_UDP_Receive`. -/
def receiveUdp (c : ResponseConfig) (h : Ipv4Host l n) (packet : Bytes) (len : Nat) (interface : Fin n) (env : ResponseEnv) :
    Ipv4Host l n × List (Fin n × Bytes) :=
  let i := (h.router.interfaces interface).toInterface
  let wrong := len < Ipv4Packet.minHeaderSize + UdpPacket.headerSize ∨ UdpStack.wrongChecksumIpv4 packet len i = true
  if c.udpRxChecksumming = true ∧ wrong then (h, [])
  else if len < UdpPacket.headerSize ∨ len < Ipv4Packet.getIhl packet * 4 then (h, [])
  else if env.socketTakes then (h, [])
  else h.errorPortNotReachable c packet interface env

/-- `IPv4_ICMP_Receive` and `icmpv4_demux`. A packet that gets here is as long as its header. -/
def receiveIcmp (c : ResponseConfig) (h : Ipv4Host l n) (packet : Bytes) (interface : Fin n) (env : ResponseEnv) :
    Ipv4Host l n × List (Fin n × Bytes) :=
  let payloadlen := Ipv4Packet.getTotalLen packet - Ipv4Packet.getIhl packet * 4
  let icmp := Ipv4Packet.getData packet
  if payloadlen < IcmpPacket.headerSize then (h, [])
  else if ipv4IcmpChecksumValid packet (h.router.interfaces interface).toInterface = false then (h, [])
  else if c.echoReply = true ∧ IcmpPacket.getType icmp = IcmpPacket.typeEchoRequest ∧
    IcmpPacket.getCode icmp = IcmpPacket.codeEcho then h.echoReply packet payloadlen interface env
  else (h, [])

/-- `ipv4_demux` behind `IPv4_Receive`. -/
def ipv4Protocols (c : ResponseConfig) (h : Ipv4Host l n) (packet : Bytes) (len : Nat) (interface : Fin n) (env : ResponseEnv) :
    Ipv4Host l n × List (Fin n × Bytes) :=
  if Ipv4Packet.getProtocol packet = TcpSegment.ipTypeTcp then h.receiveTcp c packet len interface env
  else if Ipv4Packet.getProtocol packet = UdpPacket.ipTypeUdp then h.receiveUdp c packet len interface env
  else if Ipv4Packet.getProtocol packet = IcmpPacket.ipv4TypeIcmp then h.receiveIcmp c packet interface env
  else h.errorNoProtocolHandler c packet interface env

def ipv4Demux (c : ResponseConfig) (h : Ipv4Host l n) (packet : Bytes) (len : Nat) (interface : Fin n) (env : ResponseEnv) :
    Ipv4Host l n × List (Fin n × Bytes) :=
  let received := h.reassembly.ipv4Receive c.clock (h.router.interfaces interface).toInterface env.now packet len
  let h := { h with reassembly := received.1 }
  match received.2 with
  | .passed packet len => h.ipv4Protocols c packet len interface env
  | .dropped => (h, [])
  | .forwarded => (h, [])

/-- `demux` with the advice of `Ethernet_Receive` and `IPv4_Receive_Ethernet`, for a frame of
`framelen` bytes in memory. -/
def demux (c : ResponseConfig) (h : Ipv4Host l n) (memory : Bytes) (framelen : Nat) (interface : Fin n) (env : ResponseEnv) :
    Ipv4Host l n × List (Fin n × Bytes) :=
  if framelen < EthFrame.ethHeaderSize ∨ EthFrame.maxFrameSize < framelen then (h, [])
  else if EthFrame.getType memory ≠ Ipv4Packet.ethTypeIpv4 then (h, [])
  else h.ipv4Demux c (EthFrame.getData memory) (framelen - EthFrame.ethHeaderSize) interface env

def step (c : ResponseConfig) (h : Ipv4Host l n) : Ipv4Event l n → Ipv4Host l n × List (Fin n × Bytes)
  | .arrive interface frame padding behind env =>
    if h.crashed || h.reassembly.crashed then (h, [])
    else h.demux c (frame ++ padding ++ behind) (frame.length + padding.length) interface env
  | .transmit interface frame => (h, [(interface, frame)])
  | .setRouter router => ({ h with router := router }, [])
  | .manage call => ({ h with memory := h.memory.step call }, [])

/-- The host at the start. -/
def start (router : Ipv4Router n) (usingGateway : Bool) (state : Nat → BitVec 8) : Ipv4Host l n :=
  ⟨router, .new _ state, .new usingGateway, .new usingGateway, .initial, false⟩

end Ipv4Host

end IPStack
