import IPStack.Ipv4.Packet
import IPStack.Ipv6.ExtensionHeaders
import IPStack.Socket.SendBuffers
import IPStack.Udp.Demux

/-! UDP datagrams on their way from a packet to the queue of a socket. -/

namespace IPStack

/-- What the receive path does with a packet: it reads bytes of it, or computes a length. -/
inductive UdpEvent where
  | reads (position count : Nat)
  | computes (exact : Int) (value : Nat)
deriving DecidableEq, Repr

/-- A byte that is read lies in a packet of `size` bytes, and a length is what it should be. -/
def UdpEvent.Correct (size : Nat) : UdpEvent → Prop
  | .reads position count => ∀ i < count, position + i < size
  | .computes exact value => exact = value

abbrev UdpWalk := Traced UdpEvent

namespace UdpWalk

def readsAt {α : Type} (position count : Nat) (value : α) : UdpWalk α := .emit (.reads position count) value

/-- A length in `w` bits. -/
def length (w : Nat) (exact : Int) : UdpWalk (BitVec w) :=
  .emit (.computes exact (BitVec.ofInt w exact).toNat) (BitVec.ofInt w exact)

end UdpWalk

open UdpWalk

/-- `n` bytes from a position on. -/
def Bytes.slice (packet : Bytes) (position n : Nat) : Bytes := (List.range n).map fun i => packet.getD (position + i) 0

/-! ### The code -/

namespace UdpPacket

def headerSize : Nat := 8

def ipTypeUdp : BitVec 8 := 17

/-- The members of the header at a position of a packet. -/
def getSport (packet : Bytes) (udp : Nat) : BitVec 16 := packet.netShort udp

def getDport (packet : Bytes) (udp : Nat) : BitVec 16 := packet.netShort (udp + 2)

def getLength (packet : Bytes) (udp : Nat) : BitVec 16 := packet.netShort (udp + 4)

def getChecksum (packet : Bytes) (udp : Nat) : BitVec 16 := packet.netShort (udp + 6)

def calcChecksum (packet : Bytes) (udp : Nat) (csum : BitVec 32) (payloadlen : BitVec 16) : BitVec 16 :=
  ~~~ InternetChecksum.accumulateCarryBits (csum + InternetChecksum.computePayload (packet.drop udp) payloadlen.toNat)

def checksumValid (packet : Bytes) (udp : Nat) (csum : BitVec 32) (payloadlen : BitVec 16) (interface : Interface) :
    UdpWalk Bool :=
  if interface.hasTransmitterHardwareChecksumming then pure true
  else readsAt udp payloadlen.toNat (calcChecksum packet udp csum payloadlen = 0)

end UdpPacket

/-- `InternetChecksumV6::computePseudoHeader`: both addresses as 16-bit numbers in network order. -/
def Ipv6Packet.computePseudoHeader (packet : Bytes) (payloadlen : BitVec 16) (nextheader : BitVec 8) : BitVec 32 :=
  (List.range 16).foldl (fun csum i => csum + (packet.netShort (8 + 2 * i)).setWidth 32) (payloadlen.setWidth 32) +
    nextheader.setWidth 32

/-- A block of a memory pool with a received datagram. `dataStart` is what has been written from
`m_dataStart` on. -/
structure UdpReceiveBuffer where
  receivedSize : BitVec 16
  dataStart : Bytes
deriving DecidableEq, Repr

/-- `getData()` and `getSize()`. -/
def UdpReceiveBuffer.payload (r : UdpReceiveBuffer) : Bytes := r.dataStart.take r.receivedSize.toNat

/-- The members of a socket on the receive path. The queue keeps pointers; none is the null pointer. -/
structure UdpSocket where
  mempool : BasicMempool
  receivequeue : List (Option UdpReceiveBuffer)
  bufferSize : Nat

/-- The demultiplexer with the sockets in its list. -/
structure UdpStack (n : Nat) where
  demux : UdpDemux n
  socket : Fin n → UdpSocket

namespace UdpSocket

/-- One slot of the ring buffer stays empty. -/
def isFull (s : UdpSocket) : Bool := s.bufferSize ≤ s.receivequeue.length + 1

def setMempool (s : UdpSocket) (m : BasicMempool) : UdpSocket := { s with mempool := m }

def addToReceiveQueue (s : UdpSocket) (r : Option UdpReceiveBuffer) : UdpSocket :=
  if s.isFull then s else { s with receivequeue := s.receivequeue ++ [r] }

end UdpSocket

namespace UdpReceiveBuffer

/-- `sizeof(ReceiveBuffer)`. -/
def headerSize : Nat := 8

/-- `sizeof(RemoteInfo)` of the two factories. -/
def remoteInfoSize : IpVersion → Nat
  | .v4 => 8
  | .v6 => 20

def padding (version : IpVersion) (payloadsize : Nat) : Nat :=
  match version with
  | .v4 => (4 - (payloadsize + remoteInfoSize .v4) % 4) % 4
  | .v6 => 0

/-- The number of the port is kept as the machine has it. -/
def portBytes (port : BitVec 16) : Bytes := [.ofBitVec (port.extractLsb' 0 8), .ofBitVec (port.extractLsb' 8 8)]

/-- The members of `RemoteInfo`, whose order differs. -/
def writeRemoteInfo (version : IpVersion) (data : Bytes) (d : Nat) (remoteport : BitVec 16) (address : Bytes) : Bytes :=
  match version with
  | .v4 => ((data.memcpy (d + 6) [52] 1).memcpy (d + 4) (portBytes remoteport) 2).memcpy d address 4
  | .v6 => ((data.memcpy d [54] 1).memcpy (d + 2) (portBytes remoteport) 2).memcpy (d + 4) address 16

def createReceiveBuffer (m : BasicMempool) (packet : Bytes) (payload : Nat) (payloadsize : BitVec 16) :
    UdpWalk (Option UdpReceiveBuffer × BasicMempool) := do
  let size ← length 32 (payloadsize.toNat + headerSize)
  match m.alloc size with
  | (none, m) => pure (none, m)
  | (some _, m) =>
    readsAt payload payloadsize.toNat (some ⟨payloadsize, packet.slice payload payloadsize.toNat⟩, m)

/-- The text of both factories. -/
def createReceiveBufferUdp (version : IpVersion) (m : BasicMempool) (packet : Bytes) (payload : Nat)
    (payloadsize remoteport : BitVec 16) (address : Bytes) : UdpWalk (Option UdpReceiveBuffer × BasicMempool) := do
  let size ← length 16 (payloadsize.toNat + remoteInfoSize version + padding version payloadsize.toNat)
  let (r, m) ← createReceiveBuffer m packet payload size
  let position := payloadsize.toNat + padding version payloadsize.toNat
  pure (r.map fun r => ⟨payloadsize, writeRemoteInfo version r.dataStart position remoteport address⟩, m)

def createReceiveBufferUdpIpv4 : BasicMempool → Bytes → Nat → BitVec 16 → BitVec 16 → Bytes →
    UdpWalk (Option UdpReceiveBuffer × BasicMempool) := createReceiveBufferUdp .v4

def createReceiveBufferUdpIpv6 : BasicMempool → Bytes → Nat → BitVec 16 → BitVec 16 → Bytes →
    UdpWalk (Option UdpReceiveBuffer × BasicMempool) := createReceiveBufferUdp .v6

end UdpReceiveBuffer

namespace UdpStack

variable {n : Nat}

/-- The loop over the bound sockets. -/
def find (s : UdpStack n) (dport : BitVec 16) : Option (Option (Fin n)) :=
  Linked.search s.demux.next (fun k => s.demux.sport k = dport) n s.demux.udpHeadSocket

def setSocket (s : UdpStack n) (k : Fin n) (socket : UdpSocket) : UdpStack n :=
  { s with socket := Function.update s.socket k socket }

/-- `get_src_ipaddr`. -/
def readSource (version : IpVersion) (packet : Bytes) : UdpWalk Bytes :=
  match version with
  | .v4 => readsAt 12 4 (packet.slice 12 4)
  | .v6 => readsAt 8 16 (packet.slice 8 16)

/-- The body of that loop for the socket that is found. -/
def deliver (version : IpVersion) (s : UdpStack n) (packet : Bytes) (udp : Nat) (k : Fin n) : UdpWalk (UdpStack n) := do
  let len ← readsAt (udp + 4) 2 (UdpPacket.getLength packet udp)
  let payloadsize ← length 16 (len.toNat - UdpPacket.headerSize)
  let sport ← readsAt udp 2 (UdpPacket.getSport packet udp)
  let address ← readSource version packet
  let (r, m) ← UdpReceiveBuffer.createReceiveBufferUdp version (s.socket k).mempool packet (udp + UdpPacket.headerSize)
    payloadsize sport address
  pure (s.setSocket k (((s.socket k).setMempool m).addToReceiveQueue r))

/-- What both receive aspects do behind their test of the length. -/
def receive (version : IpVersion) (s : UdpStack n) (packet : Bytes) (udp : Nat) : UdpWalk (UdpStack n) := do
  let dport ← readsAt (udp + 2) 2 (UdpPacket.getDport packet udp)
  match s.find dport with
  | none => .running
  | some none => pure s -- error_port_not_reachable
  | some (some k) => s.deliver version packet udp k

/-- `IPv4_UDP_Rx_Checksumming`; the result tells whether it proceeds. -/
def rxChecksummingIpv4 (packet : Bytes) (len : Nat) (interface : Interface) : UdpWalk Bool :=
  if len < Ipv4Packet.minHeaderSize + UdpPacket.headerSize then pure false
  else do
    let ihl ← readsAt 0 1 (Ipv4Packet.getIhl packet)
    let size ← length 32 (len - ihl * 4)
    let checksum ← readsAt (ihl * 4 + 6) 2 (UdpPacket.getChecksum packet (ihl * 4))
    if checksum = 0 then pure true
    else do
      let payloadlen ← length 16 size.toNat
      let csum ← readsAt 12 8 (Ipv4Packet.computePseudoHeader packet payloadlen UdpPacket.ipTypeUdp)
      UdpPacket.checksumValid packet (ihl * 4) csum payloadlen interface

/-- The advice of UDP on `ipv4_demux`. `rxChecksumming` tells whether the checksum aspect is woven
before the other one. -/
def ipv4Demux (rxChecksumming : Bool) (s : UdpStack n) (packet : Bytes) (len : Nat) (interface : Interface) :
    UdpWalk (UdpStack n) := do
  let protocol ← readsAt 9 1 (Ipv4Packet.getProtocol packet)
  if protocol ≠ UdpPacket.ipTypeUdp then pure s
  else do
    let proceeds ← (if rxChecksumming then rxChecksummingIpv4 packet len interface else pure true : UdpWalk Bool)
    if proceeds then do
      let ihl ← readsAt 0 1 (Ipv4Packet.getIhl packet)
      if len < UdpPacket.headerSize ∨ len < ihl * 4 then pure s else s.receive .v4 packet (ihl * 4)
    else pure s

/-- `IPv6_UDP_Rx_Checksumming`. -/
def rxChecksummingIpv6 (packet : Bytes) (p : Ipv6Payload) (interface : Interface) : UdpWalk Bool := do
  let checksum ← readsAt (p.payload + 6) 2 (UdpPacket.getChecksum packet p.payload)
  if checksum = 0 then pure true
  else do
    let payloadlen ← length 16 p.payloadLength.toNat
    let csum ← readsAt 8 32 (Ipv6Packet.computePseudoHeader packet payloadlen UdpPacket.ipTypeUdp)
    UdpPacket.checksumValid packet p.payload csum payloadlen interface

/-- The advice of UDP on `ipv6_payload_demux`. -/
def ipv6PayloadDemux (rxChecksumming : Bool) (s : UdpStack n) (packet : Bytes) (p : Ipv6Payload) (interface : Interface) :
    UdpWalk (UdpStack n) :=
  if p.nextHeader ≠ UdpPacket.ipTypeUdp then pure s
  else do
    let proceeds ← (if rxChecksumming then rxChecksummingIpv6 packet p interface else pure true : UdpWalk Bool)
    if proceeds then
      if p.payloadLength.toNat < UdpPacket.headerSize then pure s else s.receive .v6 packet p.payload
    else pure s

/-! ### Datagrams that are received as they should be -/

/-- `get_length() - UDP_HEADER_SIZE` as the factories take it. -/
def payloadSize (len : BitVec 16) : BitVec 16 := .ofInt 16 (len.toNat - UdpPacket.headerSize)

/-- The bytes that a factory copies for a payload. -/
def copiedSize (version : IpVersion) (payloadsize : Nat) : Nat :=
  payloadsize + UdpReceiveBuffer.remoteInfoSize version + UdpReceiveBuffer.padding version payloadsize

/-- The size of the block that is asked for. -/
def blockSize (version : IpVersion) (payloadsize : BitVec 16) : BitVec 32 :=
  .ofInt 32 ((BitVec.ofInt 16 (copiedSize version payloadsize.toNat)).toNat + UdpReceiveBuffer.headerSize)

/-- The socket that a datagram is for. -/
def target (s : UdpStack n) (packet : Bytes) (udp : Nat) : Option (Fin n) := (s.find (UdpPacket.getDport packet udp)).join

/-- No block is free for a datagram, or the queue has no place for it. -/
def unavailable (socket : UdpSocket) (version : IpVersion) (len : BitVec 16) : Prop :=
  (socket.mempool.alloc (blockSize version (payloadSize len))).1 = none ∨ socket.isFull = true

/-- A payload is the one of the datagram, which lies in the packet as a whole. -/
structure ExactPayload (packet : Bytes) (udp size : Nat) (payload : Bytes) : Prop where
  header : UdpPacket.headerSize ≤ (UdpPacket.getLength packet udp).toNat
  inside : udp + (UdpPacket.getLength packet udp).toNat ≤ size
  payload_eq : payload =
    packet.slice (udp + UdpPacket.headerSize) ((UdpPacket.getLength packet udp).toNat - UdpPacket.headerSize)

/-- The stack behind a datagram of a packet of `size` bytes. -/
structure Outcome (version : IpVersion) (s : UdpStack n) (packet : Bytes) (udp size : Nat) (s' : UdpStack n) : Prop where
  stored : ∀ k r, (s'.socket k).receivequeue = (s.socket k).receivequeue ++ [some r] → ExactPayload packet udp size r.payload
  restored : ∀ k, s.target packet udp = some k →
    unavailable (s.socket k) version (UdpPacket.getLength packet udp) → s' = s

/-- Every byte that is read lies in the packet, no length wraps around, and the stack is as it should be. -/
abbrev Receives (version : IpVersion) (s : UdpStack n) (packet : Bytes) (udp size : Nat) (t : UdpWalk (UdpStack n)) : Prop :=
  t.Ensures (UdpEvent.Correct size) (s.Outcome version packet udp size)

/-- The copy, which takes as many bytes behind the payload as `RemoteInfo` needs, stays in the
packet, and the queue has a place; or neither a block nor a place is there. -/
def Deliverable (socket : UdpSocket) (version : IpVersion) (udp size : Nat) (len : BitVec 16) : Prop :=
  udp + 6 ≤ size ∧ UdpPacket.headerSize ≤ len.toNat ∧
    if (socket.mempool.alloc (blockSize version (payloadSize len))).1 = none then
      copiedSize version (len.toNat - UdpPacket.headerSize) < 2 ^ 16 ∧ socket.isFull = true
    else udp + UdpPacket.headerSize + copiedSize version (len.toNat - UdpPacket.headerSize) ≤ size ∧ socket.isFull = false

/-- The condition on the part that IPv4 and IPv6 share. -/
def Receivable (version : IpVersion) (s : UdpStack n) (packet : Bytes) (udp size : Nat) : Prop :=
  udp + 4 ≤ size ∧
    ∀ k, s.target packet udp = some k → Deliverable (s.socket k) version udp size (UdpPacket.getLength packet udp)

/-- The checksum aspect of IPv4 drops a datagram: it has a checksum, which is wrong. -/
def wrongChecksumIpv4 (packet : Bytes) (len : Nat) (interface : Interface) : Bool :=
  let udp := Ipv4Packet.getIhl packet * 4
  let payloadlen := BitVec.ofNat 16 (len - udp)
  let csum := Ipv4Packet.computePseudoHeader packet payloadlen UdpPacket.ipTypeUdp
  UdpPacket.getChecksum packet udp ≠ 0 &&
    !(interface.hasTransmitterHardwareChecksumming || UdpPacket.calcChecksum packet udp csum payloadlen = 0)

def wrongChecksumIpv6 (packet : Bytes) (p : Ipv6Payload) (interface : Interface) : Bool :=
  let payloadlen := BitVec.ofNat 16 p.payloadLength.toNat
  let csum := Ipv6Packet.computePseudoHeader packet payloadlen UdpPacket.ipTypeUdp
  UdpPacket.getChecksum packet p.payload ≠ 0 &&
    !(interface.hasTransmitterHardwareChecksumming || UdpPacket.calcChecksum packet p.payload csum payloadlen = 0)

/-- The condition for a packet of `len` bytes, with the aspect that verifies the checksum or without. -/
def ReceivableIpv4 (rxChecksumming : Bool) (s : UdpStack n) (packet : Bytes) (len : Nat) (interface : Interface) : Prop :=
  if rxChecksumming then
    len < Ipv4Packet.minHeaderSize + UdpPacket.headerSize ∨
      Ipv4Packet.getIhl packet * 4 + UdpPacket.headerSize ≤ len ∧
        (wrongChecksumIpv4 packet len interface = true ∨ s.Receivable .v4 packet (Ipv4Packet.getIhl packet * 4) len)
  else s.Receivable .v4 packet (Ipv4Packet.getIhl packet * 4) len

/-- The condition for a payload in a packet of `size` bytes. -/
def ReceivableIpv6 (rxChecksumming : Bool) (s : UdpStack n) (packet : Bytes) (p : Ipv6Payload) (size : Nat)
    (interface : Interface) : Prop :=
  if rxChecksumming then
    p.payload + UdpPacket.headerSize ≤ size ∧
      (UdpPacket.getChecksum packet p.payload ≠ 0 → interface.hasTransmitterHardwareChecksumming = false →
        p.payload + p.payloadLength.toNat ≤ size) ∧
      (wrongChecksumIpv6 packet p interface = true ∨ p.payloadLength.toNat < UdpPacket.headerSize ∨
        s.Receivable .v6 packet p.payload size)
  else p.payloadLength.toNat < UdpPacket.headerSize ∨ s.Receivable .v6 packet p.payload size

/-! ### What the parts ensure -/

variable {size : Nat} {packet : Bytes} {udp : Nat} {version : IpVersion} {s : UdpStack n}

theorem ensures_readsAt {α : Type} {position count : Nat} {value : α} {Q : α → Prop} :
    (readsAt position count value).Ensures (UdpEvent.Correct size) Q ↔ (count ≠ 0 → position + count ≤ size) ∧ Q value := by
  refine Traced.ensures_emit.trans (and_congr_left fun _ => ⟨fun correct some => ?_, fun inside i less => ?_⟩)
  · have := correct (count - 1) (by omega)
    omega
  · have := inside (by omega)
    omega

theorem toNat_ofInt_eq {w : Nat} {exact : Int} : exact = (BitVec.ofInt w exact).toNat ↔ 0 ≤ exact ∧ exact < 2 ^ w := by
  rw [BitVec.toNat_ofInt]
  have positive : (0 : Int) < 2 ^ w := Int.pow_pos (by decide)
  constructor
  · intro same
    have bound := Int.emod_lt_of_pos exact positive
    have nonneg := Int.emod_nonneg exact (Int.ne_of_gt positive)
    push_cast at same
    omega
  · rintro ⟨nonneg, less⟩
    push_cast
    rw [Int.emod_eq_of_lt nonneg less]
    omega

theorem ensures_length {w : Nat} {exact : Int} {Q : BitVec w → Prop} :
    (UdpWalk.length w exact).Ensures (UdpEvent.Correct size) Q ↔ (0 ≤ exact ∧ exact < 2 ^ w) ∧ Q (BitVec.ofInt w exact) :=
  Traced.ensures_emit.trans (and_congr_left fun _ => toNat_ofInt_eq)

theorem alloc_none {m : BasicMempool} {size : BitVec 32} (none : (m.alloc size).1 = none) : (m.alloc size).2 = m := by
  unfold BasicMempool.alloc at none ⊢
  split_ifs at none ⊢
  rfl

theorem alloc_some {m : BasicMempool} {size : BitVec 32} (some : (m.alloc size).1 ≠ none) : (m.alloc size).2 ≠ m := by
  intro same
  unfold BasicMempool.alloc at some same
  split_ifs at some same with small big
  · have := congrArg BasicMempool.freeSmall same
    have := small.2
    simp only at *
    omega
  · have := congrArg BasicMempool.freeBig same
    have := big.2
    simp only at *
    omega
  · exact some rfl

theorem ensures_createReceiveBuffer {m : BasicMempool} {payload : Nat} {payloadsize : BitVec 16}
    {Q : Option UdpReceiveBuffer × BasicMempool → Prop} :
    (UdpReceiveBuffer.createReceiveBuffer m packet payload payloadsize).Ensures (UdpEvent.Correct size) Q ↔
      if (m.alloc (.ofInt 32 (payloadsize.toNat + UdpReceiveBuffer.headerSize))).1 = none then Q (none, m)
      else (payloadsize.toNat ≠ 0 → payload + payloadsize.toNat ≤ size) ∧
        Q (some ⟨payloadsize, packet.slice payload payloadsize.toNat⟩,
          (m.alloc (.ofInt 32 (payloadsize.toNat + UdpReceiveBuffer.headerSize))).2) := by
  have narrow := payloadsize.isLt
  have fits : (0 : Int) ≤ payloadsize.toNat + (UdpReceiveBuffer.headerSize : Int) ∧
      payloadsize.toNat + (UdpReceiveBuffer.headerSize : Int) < 2 ^ 32 := by
    unfold UdpReceiveBuffer.headerSize
    omega
  unfold UdpReceiveBuffer.createReceiveBuffer
  rw [Traced.ensures_bind, ensures_length, and_iff_right fits]
  generalize block : BitVec.ofInt 32 (payloadsize.toNat + (UdpReceiveBuffer.headerSize : Int)) = size'
  by_cases none : (m.alloc size').1 = none
  · have same := alloc_none none
    rw [if_pos none]
    generalize m.alloc size' = result at none same ⊢
    obtain ⟨found, pool⟩ := result
    obtain rfl : found = Option.none := none
    obtain rfl : pool = m := same
    exact Traced.ensures_pure
  · rw [if_neg none]
    generalize m.alloc size' = result at none ⊢
    obtain ⟨found, pool⟩ := result
    cases found with
    | none => exact absurd rfl none
    | some found => exact ensures_readsAt

theorem ensures_createReceiveBufferUdp {m : BasicMempool} {payload : Nat} {payloadsize remoteport : BitVec 16}
    {address : Bytes} {Q : Option UdpReceiveBuffer × BasicMempool → Prop} :
    (UdpReceiveBuffer.createReceiveBufferUdp version m packet payload payloadsize remoteport address).Ensures
        (UdpEvent.Correct size) Q ↔
      copiedSize version payloadsize.toNat < 2 ^ 16 ∧
        if (m.alloc (blockSize version payloadsize)).1 = none then Q (none, m)
        else payload + copiedSize version payloadsize.toNat ≤ size ∧
          Q (some ⟨payloadsize, UdpReceiveBuffer.writeRemoteInfo version
              (packet.slice payload (copiedSize version payloadsize.toNat))
              (payloadsize.toNat + UdpReceiveBuffer.padding version payloadsize.toNat) remoteport address⟩,
            (m.alloc (blockSize version payloadsize)).2) := by
  have exact : (payloadsize.toNat : Int) + UdpReceiveBuffer.remoteInfoSize version +
      UdpReceiveBuffer.padding version payloadsize.toNat = copiedSize version payloadsize.toNat := by
    unfold copiedSize
    omega
  have positive : copiedSize version payloadsize.toNat ≠ 0 := by
    unfold copiedSize UdpReceiveBuffer.remoteInfoSize
    cases version <;> simp
  have bounds : (0 : Int) ≤ copiedSize version payloadsize.toNat ∧ (copiedSize version payloadsize.toNat : Int) < 2 ^ 16 ↔
      copiedSize version payloadsize.toNat < 2 ^ 16 := by omega
  unfold UdpReceiveBuffer.createReceiveBufferUdp
  rw [Traced.ensures_bind, ensures_length, exact, bounds]
  refine and_congr_right fun short => ?_
  have number : (BitVec.ofInt 16 (copiedSize version payloadsize.toNat)).toNat = copiedSize version payloadsize.toNat := by
    rw [BitVec.ofInt_natCast, BitVec.toNat_ofNat, Nat.mod_eq_of_lt short]
  rw [Traced.ensures_bind, ensures_createReceiveBuffer]
  change (if (m.alloc (blockSize version payloadsize)).1 = none then _ else _) ↔ _
  split_ifs
  · exact Traced.ensures_pure
  · have block : blockSize version payloadsize = .ofInt 32 (copiedSize version payloadsize.toNat + UdpReceiveBuffer.headerSize) := by
      unfold blockSize
      rw [number]
    rw [number, Traced.ensures_pure, block]
    exact and_congr_left fun _ => ⟨fun inside => inside positive, fun inside _ => inside⟩

/-! ### The stack behind a datagram -/

theorem take_memcpy {dest src : Bytes} {start n p : Nat} (before : p ≤ start) (held : start ≤ dest.length) :
    (dest.memcpy start src n).take p = dest.take p := by
  unfold Bytes.memcpy
  rw [List.take_append_of_le_length (by rw [List.length_take]; omega), List.take_take, Nat.min_eq_left before]

theorem take_writeRemoteInfo {data address : Bytes} {p d : Nat} {remoteport : BitVec 16} (before : p ≤ d)
    (fits : d + UdpReceiveBuffer.remoteInfoSize version ≤ data.length) :
    (UdpReceiveBuffer.writeRemoteInfo version data d remoteport address).take p = data.take p := by
  unfold UdpReceiveBuffer.remoteInfoSize at fits
  cases version with
  | v4 =>
    dsimp only at fits
    unfold UdpReceiveBuffer.writeRemoteInfo
    dsimp only
    have first : (data.memcpy (d + 6) [52] 1).length = data.length := Bytes.length_memcpy (by omega)
    have second : ((data.memcpy (d + 6) [52] 1).memcpy (d + 4) (UdpReceiveBuffer.portBytes remoteport) 2).length = data.length :=
      (Bytes.length_memcpy (by omega)).trans first
    rw [take_memcpy before (by omega), take_memcpy (by omega) (by omega), take_memcpy (by omega) (by omega)]
  | v6 =>
    dsimp only at fits
    unfold UdpReceiveBuffer.writeRemoteInfo
    dsimp only
    have first : (data.memcpy d [54] 1).length = data.length := Bytes.length_memcpy (by omega)
    have second : ((data.memcpy d [54] 1).memcpy (d + 2) (UdpReceiveBuffer.portBytes remoteport) 2).length = data.length :=
      (Bytes.length_memcpy (by omega)).trans first
    rw [take_memcpy (by omega) (by omega), take_memcpy (by omega) (by omega), take_memcpy before (by omega)]

theorem take_slice {position n p : Nat} (inside : p ≤ n) : (packet.slice position n).take p = packet.slice position p := by
  unfold Bytes.slice
  rw [← List.map_take, List.take_range, Nat.min_eq_left inside]

/-- What a datagram leaves as it was. -/
theorem outcome_self : s.Outcome version packet udp size s where
  stored k r appended := by
    have longer := congrArg List.length appended
    rw [List.length_append] at longer
    simp at longer
  restored _ _ _ := rfl

theorem addToReceiveQueue_of_full {socket : UdpSocket} (full : socket.isFull = true) (r : Option UdpReceiveBuffer) :
    socket.addToReceiveQueue r = socket := if_pos full

theorem addToReceiveQueue_of_room {socket : UdpSocket} (room : socket.isFull = false) (r : Option UdpReceiveBuffer) :
    socket.addToReceiveQueue r = { socket with receivequeue := socket.receivequeue ++ [r] } :=
  if_neg (ne_true_of_eq_false room)

@[simp] theorem setSocket_self (s : UdpStack n) (k : Fin n) (socket : UdpSocket) : (s.setSocket k socket).socket k = socket := by
  unfold setSocket
  exact Function.update_self ..

theorem setSocket_of_ne {j k : Fin n} (other : j ≠ k) (socket : UdpSocket) : (s.setSocket k socket).socket j = s.socket j := by
  unfold setSocket
  exact Function.update_of_ne other ..

theorem setSocket_eq_self {k : Fin n} {socket : UdpSocket} : s.setSocket k socket = s ↔ socket = s.socket k := by
  constructor
  · intro same
    rw [← setSocket_self s k socket, same]
  · rintro rfl
    unfold setSocket
    rw [Function.update_eq_self]

/-- Without a block the null pointer is queued, unless the queue is full. -/
theorem outcome_none {k : Fin n} (found : s.target packet udp = some k)
    (none : ((s.socket k).mempool.alloc (blockSize version (payloadSize (UdpPacket.getLength packet udp)))).1 = none) :
    s.Outcome version packet udp size (s.setSocket k ((s.socket k).addToReceiveQueue Option.none)) ↔
      (s.socket k).isFull = true := by
  constructor
  · intro outcome
    by_contra room
    rw [Bool.not_eq_true] at room
    have same := setSocket_eq_self.mp (outcome.restored k found (.inl none))
    rw [addToReceiveQueue_of_room room] at same
    have longer := congrArg (fun socket => socket.receivequeue.length) same
    simp at longer
  · intro full
    rw [addToReceiveQueue_of_full full, setSocket_eq_self.mpr rfl]
    exact outcome_self

/-- With a block the datagram is queued, unless the queue is full: then the block is lost. -/
theorem outcome_some {k : Fin n} {m : BasicMempool} {r : UdpReceiveBuffer} (found : s.target packet udp = some k)
    (some : ((s.socket k).mempool.alloc (blockSize version (payloadSize (UdpPacket.getLength packet udp)))).1 ≠ none)
    (taken : m ≠ (s.socket k).mempool) (exactly : ExactPayload packet udp size r.payload) :
    s.Outcome version packet udp size
        (s.setSocket k (((s.socket k).setMempool m).addToReceiveQueue (Option.some r))) ↔ (s.socket k).isFull = false := by
  constructor
  · intro outcome
    by_contra full
    rw [Bool.not_eq_false] at full
    have same := setSocket_eq_self.mp (outcome.restored k found (.inr full))
    have still : ((s.socket k).setMempool m).isFull = true := full
    rw [addToReceiveQueue_of_full still] at same
    exact taken (congrArg UdpSocket.mempool same)
  · intro room
    have still : ((s.socket k).setMempool m).isFull = false := room
    rw [addToReceiveQueue_of_room still]
    constructor
    · intro j r' appended
      by_cases same : j = k
      · subst same
        rw [setSocket_self] at appended
        have last := List.append_cancel_left appended
        obtain rfl : r = r' := by simpa using last
        exact exactly
      · rw [setSocket_of_ne same] at appended
        have unchanged : s.Outcome version packet udp size s := outcome_self
        exact unchanged.stored j r' appended
    · intro j found' unavailable
      obtain rfl : k = j := Option.some.inj (found.symm.trans found')
      rcases unavailable with none | full
      · exact absurd none some
      · exact absurd (room.symm.trans full) Bool.false_ne_true

/-! ### The receive aspects -/

def sourceEnd : IpVersion → Nat
  | .v4 => 16
  | .v6 => 24

theorem ensures_readSource {p : Prop} (header : sourceEnd version ≤ size) :
    (readSource version packet).Ensures (UdpEvent.Correct size) (fun _ => p) ↔ p := by
  cases version with
  | v4 => exact ensures_readsAt.trans (and_iff_right fun _ => header)
  | v6 => exact ensures_readsAt.trans (and_iff_right fun _ => header)

theorem payloadSize_toNat {len : BitVec 16} (header : UdpPacket.headerSize ≤ len.toNat) :
    (payloadSize len).toNat = len.toNat - UdpPacket.headerSize := by
  have narrow := len.isLt
  have exact : (len.toNat : Int) - UdpPacket.headerSize = (len.toNat - UdpPacket.headerSize : Nat) := by omega
  unfold payloadSize
  rw [exact, BitVec.ofInt_natCast, BitVec.toNat_ofNat, Nat.mod_eq_of_lt (by omega)]

/-- The factory leaves the copied payload as it is. -/
theorem payload_writeRemoteInfo {payloadsize remoteport : BitVec 16} {address : Bytes} {position : Nat} :
    (UdpReceiveBuffer.mk payloadsize (UdpReceiveBuffer.writeRemoteInfo version
      (packet.slice position (copiedSize version payloadsize.toNat))
      (payloadsize.toNat + UdpReceiveBuffer.padding version payloadsize.toNat) remoteport address)).payload =
      packet.slice position payloadsize.toNat := by
  have size : (packet.slice position (copiedSize version payloadsize.toNat)).length = copiedSize version payloadsize.toNat := by
    unfold Bytes.slice
    rw [List.length_map, List.length_range]
  unfold copiedSize at size
  unfold UdpReceiveBuffer.payload
  dsimp only
  rw [take_writeRemoteInfo (Nat.le_add_right _ _) (by unfold copiedSize; omega), take_slice (by unfold copiedSize; omega)]

theorem exactPayload_buffer {len remoteport : BitVec 16} {address : Bytes} (len_eq : UdpPacket.getLength packet udp = len)
    (long : UdpPacket.headerSize ≤ len.toNat)
    (copied : udp + UdpPacket.headerSize + copiedSize version (len.toNat - UdpPacket.headerSize) ≤ size) :
    ExactPayload packet udp size (UdpReceiveBuffer.mk (payloadSize len) (UdpReceiveBuffer.writeRemoteInfo version
      (packet.slice (udp + UdpPacket.headerSize) (copiedSize version (len.toNat - UdpPacket.headerSize)))
      (len.toNat - UdpPacket.headerSize + UdpReceiveBuffer.padding version (len.toNat - UdpPacket.headerSize))
      remoteport address)).payload := by
  subst len_eq
  refine ⟨long, ?_, ?_⟩
  · unfold copiedSize at copied
    omega
  · rw [← payloadSize_toNat long]
    exact payload_writeRemoteInfo

theorem receives_deliver {k : Fin n} (short : size < 2 ^ 16 + udp) (header : sourceEnd version ≤ size)
    (found : s.target packet udp = some k) :
    s.Receives version packet udp size (s.deliver version packet udp k) ↔
      Deliverable (s.socket k) version udp size (UdpPacket.getLength packet udp) := by
  have narrow := (UdpPacket.getLength packet udp).isLt
  unfold Receives deliver Deliverable
  rw [Traced.ensures_bind, ensures_readsAt, and_congr_left' (show (2 ≠ 0 → udp + 4 + 2 ≤ size) ↔ udp + 6 ≤ size by omega)]
  refine and_congr_right fun inside => ?_
  rw [Traced.ensures_bind, ensures_length]
  have positive : 0 ≤ ((UdpPacket.getLength packet udp).toNat : Int) - UdpPacket.headerSize ∧
      ((UdpPacket.getLength packet udp).toNat : Int) - UdpPacket.headerSize < 2 ^ 16 ↔
      UdpPacket.headerSize ≤ (UdpPacket.getLength packet udp).toNat := by omega
  rw [and_congr_left' positive]
  refine and_congr_right fun long => ?_
  have exact := payloadSize_toNat long
  change Traced.Ensures _ _ (readsAt udp 2 (UdpPacket.getSport packet udp) >>= fun sport => readSource version packet >>=
    fun address => UdpReceiveBuffer.createReceiveBufferUdp version (s.socket k).mempool packet
      (udp + UdpPacket.headerSize) (payloadSize (UdpPacket.getLength packet udp)) sport address >>= _) ↔ _
  rw [Traced.ensures_bind, ensures_readsAt, and_iff_right fun _ => by omega, Traced.ensures_bind]
  refine (Traced.ensures_congr fun address => ?_).trans (ensures_readSource header)
  rw [Traced.ensures_bind, ensures_createReceiveBufferUdp, exact]
  by_cases none : ((s.socket k).mempool.alloc (blockSize version (payloadSize (UdpPacket.getLength packet udp)))).1 = none
  · rw [if_pos none, if_pos none, Traced.ensures_pure]
    exact and_congr_right fun _ => outcome_none found none
  · rw [if_neg none, if_neg none, Traced.ensures_pure]
    constructor
    · rintro ⟨-, copied, outcome⟩
      exact ⟨copied, (outcome_some found none (alloc_some none) (exactPayload_buffer rfl long copied)).mp outcome⟩
    · rintro ⟨copied, room⟩
      exact ⟨by omega, copied, (outcome_some found none (alloc_some none) (exactPayload_buffer rfl long copied)).mpr room⟩

theorem receives_receive (short : size < 2 ^ 16 + udp) (header : sourceEnd version ≤ size) :
    s.Receives version packet udp size (s.receive version packet udp) ↔ s.Receivable version packet udp size := by
  unfold Receives receive Receivable
  rw [Traced.ensures_bind, ensures_readsAt]
  refine and_congr (by omega) ?_
  have target_eq : s.target packet udp = (s.find (UdpPacket.getDport packet udp)).join := rfl
  cases found : s.find (UdpPacket.getDport packet udp) with
  | none =>
    rw [found] at target_eq
    exact iff_of_true Traced.ensures_running fun k found => nomatch target_eq.symm.trans found
  | some place =>
    rw [found] at target_eq
    cases place with
    | none => exact iff_of_true (Traced.ensures_pure.mpr outcome_self) fun k found => nomatch target_eq.symm.trans found
    | some k =>
      have target_eq : s.target packet udp = some k := target_eq
      have only : (∀ j, s.target packet udp = some j →
          Deliverable (s.socket j) version udp size (UdpPacket.getLength packet udp)) ↔
          Deliverable (s.socket k) version udp size (UdpPacket.getLength packet udp) := by
        rw [target_eq]
        exact ⟨fun all => all k rfl, fun one j same => Option.some.inj same ▸ one⟩
      rw [only]
      exact receives_deliver short header target_eq

theorem ensures_checksumValid {csum : BitVec 32} {payloadlen : BitVec 16} {interface : Interface} {Q : Bool → Prop} :
    (UdpPacket.checksumValid packet udp csum payloadlen interface).Ensures (UdpEvent.Correct size) Q ↔
      (interface.hasTransmitterHardwareChecksumming = false → payloadlen.toNat ≠ 0 → udp + payloadlen.toNat ≤ size) ∧
        Q (interface.hasTransmitterHardwareChecksumming || UdpPacket.calcChecksum packet udp csum payloadlen = 0) := by
  unfold UdpPacket.checksumValid
  cases interface.hasTransmitterHardwareChecksumming with
  | true => exact Traced.ensures_pure.trans (and_iff_right fun offloaded => nomatch offloaded).symm
  | false => exact ensures_readsAt.trans (and_congr_left' ⟨fun inside _ => inside, fun inside => inside rfl⟩)

theorem length_ofNat {w len : Nat} (narrow : len < 2 ^ w) {Q : BitVec w → Prop} :
    (UdpWalk.length w len).Ensures (UdpEvent.Correct size) Q ↔ Q (BitVec.ofNat w len) := by
  rw [ensures_length, BitVec.ofInt_natCast]
  exact and_iff_right ⟨by omega, by exact_mod_cast narrow⟩

/-- The checksum aspect of IPv4 with a packet whose header is inside. -/
theorem ensures_rxChecksummingIpv4 {interface : Interface} {len : Nat} {Q : Bool → Prop}
    (header : Ipv4Packet.minHeaderSize ≤ Ipv4Packet.getIhl packet * 4) (inside : Ipv4Packet.getIhl packet * 4 ≤ len)
    (narrow : len < 2 ^ 16) :
    (rxChecksummingIpv4 packet len interface).Ensures (UdpEvent.Correct len) Q ↔
      if len < Ipv4Packet.minHeaderSize + UdpPacket.headerSize then Q false
      else Ipv4Packet.getIhl packet * 4 + UdpPacket.headerSize ≤ len ∧ Q !(wrongChecksumIpv4 packet len interface) := by
  unfold rxChecksummingIpv4
  by_cases small : len < Ipv4Packet.minHeaderSize + UdpPacket.headerSize
  · rw [if_pos small, if_pos small]
    exact Traced.ensures_pure
  rw [if_neg small, if_neg small]
  unfold Ipv4Packet.minHeaderSize at header small
  have exact : (len : Int) - Ipv4Packet.getIhl packet * 4 = (len - Ipv4Packet.getIhl packet * 4 : Nat) := by omega
  have number : (BitVec.ofNat 32 (len - Ipv4Packet.getIhl packet * 4)).toNat = len - Ipv4Packet.getIhl packet * 4 := by
    rw [BitVec.toNat_ofNat, Nat.mod_eq_of_lt (by omega)]
  have payload : (BitVec.ofNat 16 (len - Ipv4Packet.getIhl packet * 4)).toNat = len - Ipv4Packet.getIhl packet * 4 := by
    rw [BitVec.toNat_ofNat, Nat.mod_eq_of_lt (by omega)]
  rw [Traced.ensures_bind, ensures_readsAt, and_iff_right fun _ => by omega, Traced.ensures_bind, exact,
    length_ofNat (by omega), Traced.ensures_bind, ensures_readsAt, number]
  unfold UdpPacket.headerSize
  refine and_congr (by omega) ?_
  unfold wrongChecksumIpv4
  by_cases none : UdpPacket.getChecksum packet (Ipv4Packet.getIhl packet * 4) = 0
  · simp [none]
  · rw [if_neg none, Traced.ensures_bind, length_ofNat (by omega), Traced.ensures_bind, ensures_readsAt,
      and_iff_right fun _ => by omega, ensures_checksumValid, payload, and_iff_right fun _ _ => by omega]
    dsimp only
    rw [decide_eq_true none, Bool.true_and, Bool.not_not]

theorem ensures_rxChecksummingIpv6 {interface : Interface} {p : Ipv6Payload} {Q : Bool → Prop}
    (header : Ipv6Packet.headerSizeInBytes ≤ size) (narrow : p.payloadLength.toNat < 2 ^ 16) :
    (rxChecksummingIpv6 packet p interface).Ensures (UdpEvent.Correct size) Q ↔
      p.payload + UdpPacket.headerSize ≤ size ∧
        (UdpPacket.getChecksum packet p.payload ≠ 0 → interface.hasTransmitterHardwareChecksumming = false →
          p.payload + p.payloadLength.toNat ≤ size) ∧ Q !(wrongChecksumIpv6 packet p interface) := by
  unfold rxChecksummingIpv6
  unfold Ipv6Packet.headerSizeInBytes at header
  have payload : (BitVec.ofNat 16 p.payloadLength.toNat).toNat = p.payloadLength.toNat := by
    rw [BitVec.toNat_ofNat, Nat.mod_eq_of_lt narrow]
  rw [Traced.ensures_bind, ensures_readsAt]
  unfold UdpPacket.headerSize
  rw [and_congr_left' (show (2 ≠ 0 → p.payload + 6 + 2 ≤ size) ↔ p.payload + 8 ≤ size by omega)]
  refine and_congr_right fun first => ?_
  unfold wrongChecksumIpv6
  by_cases none : UdpPacket.getChecksum packet p.payload = 0
  · simp [none]
  · rw [if_neg none, Traced.ensures_bind, length_ofNat narrow, Traced.ensures_bind, ensures_readsAt,
      and_iff_right fun _ => by omega, ensures_checksumValid, payload]
    refine and_congr ⟨fun inside _ offloaded => ?_, fun inside offloaded _ => inside none offloaded⟩ ?_
    · by_cases empty : p.payloadLength.toNat = 0
      · omega
      · exact inside offloaded empty
    · dsimp only
      rw [decide_eq_true none, Bool.true_and, Bool.not_not]

/-! ### Results -/

theorem receives_ipv4Demux {rxChecksumming : Bool} {len : Nat} {interface : Interface}
    (header : Ipv4Packet.minHeaderSize ≤ Ipv4Packet.getIhl packet * 4) (inside : Ipv4Packet.getIhl packet * 4 ≤ len)
    (narrow : len < 2 ^ 16) (protocol : Ipv4Packet.getProtocol packet = UdpPacket.ipTypeUdp) :
    s.Receives .v4 packet (Ipv4Packet.getIhl packet * 4) len (s.ipv4Demux rxChecksumming packet len interface) ↔
      s.ReceivableIpv4 rxChecksumming packet len interface := by
  have least : 20 ≤ Ipv4Packet.getIhl packet * 4 := header
  have behind : (readsAt 0 1 (Ipv4Packet.getIhl packet) >>= fun ihl =>
      if len < UdpPacket.headerSize ∨ len < ihl * 4 then pure s else s.receive .v4 packet (ihl * 4)).Ensures
        (UdpEvent.Correct len) (s.Outcome .v4 packet (Ipv4Packet.getIhl packet * 4) len) ↔
      s.Receivable .v4 packet (Ipv4Packet.getIhl packet * 4) len := by
    have long : ¬(len < UdpPacket.headerSize ∨ len < Ipv4Packet.getIhl packet * 4) := by
      unfold UdpPacket.headerSize
      omega
    rw [Traced.ensures_bind, ensures_readsAt, and_iff_right fun _ => by omega, if_neg long]
    exact receives_receive (by omega) (show 16 ≤ len by omega)
  unfold Receives ipv4Demux ReceivableIpv4
  rw [Traced.ensures_bind, ensures_readsAt, and_iff_right fun _ => by omega, if_neg (not_not.mpr protocol), Traced.ensures_bind]
  cases rxChecksumming with
  | false => exact Traced.ensures_pure.trans behind
  | true =>
    refine (ensures_rxChecksummingIpv4 header inside narrow).trans ?_
    rw [if_pos rfl]
    by_cases small : len < Ipv4Packet.minHeaderSize + UdpPacket.headerSize
    · rw [if_pos small]
      exact iff_of_true (Traced.ensures_pure.mpr outcome_self) (.inl small)
    · rw [if_neg small, or_iff_right small]
      refine and_congr_right fun _ => ?_
      cases wrongChecksumIpv4 packet len interface with
      | true => exact iff_of_true (Traced.ensures_pure.mpr outcome_self) (.inl rfl)
      | false => exact behind.trans (or_iff_right Bool.false_ne_true).symm

theorem receives_ipv6PayloadDemux {rxChecksumming : Bool} {p : Ipv6Payload} {interface : Interface}
    (header : Ipv6Packet.headerSizeInBytes ≤ size) (short : size < 2 ^ 16 + p.payload)
    (narrow : p.payloadLength.toNat < 2 ^ 16) (nextHeader : p.nextHeader = UdpPacket.ipTypeUdp) :
    s.Receives .v6 packet p.payload size (s.ipv6PayloadDemux rxChecksumming packet p interface) ↔
      s.ReceivableIpv6 rxChecksumming packet p size interface := by
  have least : 40 ≤ size := header
  have behind : (if p.payloadLength.toNat < UdpPacket.headerSize then (pure s : UdpWalk (UdpStack n))
      else s.receive .v6 packet p.payload).Ensures (UdpEvent.Correct size) (s.Outcome .v6 packet p.payload size) ↔
      p.payloadLength.toNat < UdpPacket.headerSize ∨ s.Receivable .v6 packet p.payload size := by
    by_cases small : p.payloadLength.toNat < UdpPacket.headerSize
    · rw [if_pos small]
      exact iff_of_true (Traced.ensures_pure.mpr outcome_self) (.inl small)
    · rw [if_neg small, or_iff_right small]
      exact receives_receive short (show 24 ≤ size by omega)
  unfold Receives ipv6PayloadDemux ReceivableIpv6
  rw [if_neg (not_not.mpr nextHeader), Traced.ensures_bind]
  cases rxChecksumming with
  | false => exact Traced.ensures_pure.trans behind
  | true =>
    refine (ensures_rxChecksummingIpv6 header narrow).trans ?_
    rw [if_pos rfl]
    refine and_congr_right fun _ => and_congr_right fun _ => ?_
    cases wrongChecksumIpv6 packet p interface with
    | true => exact iff_of_true (Traced.ensures_pure.mpr outcome_self) (.inl rfl)
    | false => exact behind.trans (or_iff_right Bool.false_ne_true).symm

/-! ### A socket on port 7 -/

namespace Sample

def interface : Interface where
  ipv4Up := true
  ipv4Addr := 0x0200000A
  hasTransmitterHardwareChecksumming := false
  hasReceiverHardwareChecksumming := false

/-- One block of 64 bytes is free. -/
def stack : UdpStack 1 where
  demux := { udpHeadSocket := some ⟨0, Nat.one_pos⟩, next := fun _ => none, sport := fun _ => 7, udpLastDefaultPort := 0 }
  socket := fun _ =>
    { mempool := ⟨64, 64, by decide, 1, 0⟩
      receivequeue := []
      bufferSize := 4 }

/-- A datagram of four bytes to port 7, without a checksum. -/
def datagram : Bytes := [0, 9, 0, 7, 0, 12, 0, 0, 1, 2, 3, 4]

/-- The datagram in a packet that ends with it. -/
def exactPacket : Bytes :=
  [0x45, 0, 0, 32, 0, 0, 0, 0, 64, 17, 0x66, 0xCB, 10, 0, 0, 1, 10, 0, 0, 2] ++ datagram

/-- The datagram in a packet with eight bytes behind it. -/
def paddedPacket : Bytes :=
  [0x45, 0, 0, 40, 0, 0, 0, 0, 64, 17, 0x66, 0xC3, 10, 0, 0, 1, 10, 0, 0, 2] ++ datagram ++ List.replicate 8 0

/-- In an IPv6 packet with 20 bytes behind it. -/
def paddedIpv6Packet : Bytes := IPStack.Sample.ipv6Packet 17 (datagram ++ List.replicate 20 0)

end Sample

/-- Where a packet ends: at the end of its payload or of what has been received. -/
def ipv6PacketEnd (packet : Bytes) (received : Nat) : Nat :=
  min received (Ipv6Packet.headerSizeInBytes + (Ipv6Packet.getPayloadLen packet).toNat)

/-- A UDP datagram in a packet that the IP layer accepts is received as it should be if and only
if the condition holds, for both versions of IP. -/
theorem receives_iff (s : UdpStack n) (rxChecksumming : Bool) (packet : Bytes) (received : Nat) (interface : Interface) :
    (Ipv4Packet.accepted packet interface received → Ipv4Packet.getProtocol packet = UdpPacket.ipTypeUdp →
      (s.Receives .v4 packet (Ipv4Packet.getIhl packet * 4) (Ipv4Packet.getTotalLen packet)
        (s.ipv4Demux rxChecksumming packet (Ipv4Packet.validPacketLength packet received) interface) ↔
        s.ReceivableIpv4 rxChecksumming packet (Ipv4Packet.getTotalLen packet) interface)) ∧
    ∀ upper fuel payload payloadLength, Ipv6Packet.validPacketLength packet received ≠ 0 →
      Ipv6Event.hands UdpPacket.ipTypeUdp payload payloadLength ∈ (ipv6Demux upper fuel packet).events →
      (s.Receives .v6 packet payload (ipv6PacketEnd packet received)
        (s.ipv6PayloadDemux rxChecksumming packet ⟨payload, payloadLength, UdpPacket.ipTypeUdp⟩ interface) ↔
        s.ReceivableIpv6 rxChecksumming packet (.start packet) (ipv6PacketEnd packet received) interface) := by
  constructor
  · intro accepted protocol
    obtain ⟨len_eq, -, header, inside⟩ := Ipv4Packet.validPacketLength_spec accepted.2.1
    rw [len_eq]
    exact receives_ipv4Demux header inside (Ipv4Packet.getTotalLen_lt packet) protocol
  · intro upper fuel payload payloadLength valid handed
    have start : ⟨payload, payloadLength, UdpPacket.ipTypeUdp⟩ = Ipv6Payload.start packet :=
      handsStart_ipv6Demux valid _ handed
    have long : 40 ≤ received := by
      by_contra short
      exact valid (if_pos (Nat.not_le.mp short))
    have number : (Ipv6Payload.start packet).payloadLength.toNat = (Ipv6Packet.getPayloadLen packet).toNat :=
      BitVec.toNat_setWidth_of_le (by decide)
    have position : (Ipv6Payload.start packet).payload = 40 := rfl
    have narrow := (Ipv6Packet.getPayloadLen packet).isLt
    have payload_eq : payload = (Ipv6Payload.start packet).payload := congrArg Ipv6Payload.payload start
    rw [start, payload_eq]
    refine receives_ipv6PayloadDemux ?_ ?_ (by omega) (congrArg Ipv6Payload.nextHeader start).symm
    · unfold ipv6PacketEnd Ipv6Packet.headerSizeInBytes
      omega
    · unfold ipv6PacketEnd Ipv6Packet.headerSizeInBytes
      omega

theorem receives_iff_padded :
    Sample.stack.Receives .v4 Sample.paddedPacket 20 40 (Sample.stack.ipv4Demux false Sample.paddedPacket 40 Sample.interface) ∧
      Sample.stack.Receives .v6 Sample.paddedIpv6Packet 40 72
        (Sample.stack.ipv6PayloadDemux false Sample.paddedIpv6Packet ⟨40, 32, 17⟩ Sample.interface) := by
  constructor
  · refine ((receives_iff Sample.stack false Sample.paddedPacket 40 Sample.interface).1 (by decide) (by decide)).mpr ?_
    refine ⟨by decide, fun k _ => ⟨by decide, by decide, ?_⟩⟩
    obtain rfl : k = 0 := Subsingleton.elim k 0
    rw [if_neg (by decide)]
    exact ⟨by decide, by decide⟩
  · refine ((receives_iff Sample.stack false Sample.paddedIpv6Packet 72 Sample.interface).2 (fun _ => true) 1 40 32
      (by decide) (by decide)).mpr (.inr ⟨by decide, fun k _ => ⟨by decide, by decide, ?_⟩⟩)
    obtain rfl : k = 0 := Subsingleton.elim k 0
    rw [if_neg (by decide)]
    exact ⟨by decide, by decide⟩

/-- The factory copies the bytes behind a datagram that ends with its packet. -/
theorem exactPacket_read_past : ¬∀ (n : Nat) (s : UdpStack n) (packet : Bytes) (received : Nat) (interface : Interface),
    Ipv4Packet.accepted packet interface received → Ipv4Packet.getProtocol packet = UdpPacket.ipTypeUdp →
      s.Receives .v4 packet (Ipv4Packet.getIhl packet * 4) (Ipv4Packet.getTotalLen packet)
        (s.ipv4Demux false packet (Ipv4Packet.validPacketLength packet received) interface) := by
  intro always
  have received := always 1 Sample.stack Sample.exactPacket 32 Sample.interface (by decide) (by decide)
  have condition := (receives_ipv4Demux (by decide) (by decide) (by decide) (by decide)).mp received
  have deliverable := condition.2 0 (by decide)
  have copied := deliverable.2.2
  rw [if_neg (by decide)] at copied
  exact absurd copied.1 (by decide)

end UdpStack

end IPStack
