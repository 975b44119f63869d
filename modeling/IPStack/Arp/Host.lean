import IPStack.Arp.Packet

/-! A host that runs ARP: its interfaces, the cache and the static table they share, the pool with
one packet, and the tasks that are in `ipv4_lookup`. -/

namespace IPStack

/-- What ARP asks an interface. -/
structure ArpInterface where
  hwAddr : HwAddr
  ipv4Addr : BitVec 32
  ipv4Up : Bool

/-- `MAX_STATIC_ENTRIES`. -/
abbrev maxStaticEntries : Nat := 1

/-- The requests that a lookup sends at most. -/
def maxRequests : Nat := 3

/-- A lookup in `ipv4_wait`, with the number of its requests. -/
structure ArpLookup (n : Nat) where
  addr : BitVec 32
  interface : Fin n
  requests : Nat

/-- What a lookup has returned. -/
structure ArpAnswer where
  addr : BitVec 32
  hwAddr : Option HwAddr
deriving DecidableEq

/-- `packet` is the member `interface` of the packet in the pool. `answers` is an observation. -/
structure ArpHost (n : Nat) where
  interfaces : Fin n → ArpInterface
  cache : ARPCache
  staticEntries : Fin maxStaticEntries → CacheEntry
  packet : Option (Fin n)
  lookups : Nat → Option (ArpLookup n)
  answers : List ArpAnswer

/-- What happens to a host. `hasBeenSent` is what the driver answers meanwhile, and tasks have
numbers. A wait ends because its time is over or because a poll of the table finds the address. -/
inductive ArpEvent (n : Nat)
  | lookup (task : Nat) (addr : BitVec 32) (interface : Fin n) (hasBeenSent : Bool)
  | poll (task : Nat)
  | timeout (task : Nat) (hasBeenSent : Bool)
  | arrive (interface : Fin n) (frame : Bytes) (hasBeenSent : Bool)
  | clear
  | insertStatic (addr : BitVec 32) (hwAddr : HwAddr)
  | removeStatic (addr : BitVec 32)
  | setIpv4Addr (interface : Fin n) (addr : BitVec 32)
  | setIpv4Up (interface : Fin n) (up : Bool)
  | transmit (interface : Fin n) (frame : Bytes)

namespace ArpHost

variable {n : Nat}

/-- The host at the start, in memory that is zero. -/
def start (interfaces : Fin n → ArpInterface) : ArpHost n :=
  ⟨interfaces, .inst, fun _ => ⟨0, .replicate 6 0⟩, none, fun _ => none, []⟩

/-- `getNextFreePacket`: whether the packet is free. -/
def packetIsFree (h : ArpHost n) (hasBeenSent : Bool) : Prop := h.packet = none ∨ hasBeenSent = true

instance (h : ArpHost n) (hasBeenSent : Bool) : Decidable (h.packetIsFree hasBeenSent) := inferInstanceAs (Decidable (_ ∨ _))

/-- The packet is filled in and sent on an interface. -/
def sendPacket (h : ArpHost n) (interface : Fin n) (opcode : BitVec 16) (dst : HwAddr) (dstAddr : BitVec 32)
    (hasBeenSent : Bool) : ArpHost n × List (Fin n × Bytes) :=
  if h.packetIsFree hasBeenSent then
    let i := h.interfaces interface
    ({ h with packet := some interface }, [(interface, (EthArpIpv4Packet.fill opcode i.hwAddr i.ipv4Addr dst dstAddr).frame)])
  else (h, [])

def ipv4Request (h : ArpHost n) (addr : BitVec 32) (interface : Fin n) (hasBeenSent : Bool) : ArpHost n × List (Fin n × Bytes) :=
  h.sendPacket interface ArpPacket.arpRequest .broadcast addr hasBeenSent

/-- `ipv4_reply` with the advice of `IPv4_ARP_Receive`. -/
def ipv4Reply (h : ArpHost n) (srcHwaddr : HwAddr) (srcIpv4Addr : BitVec 32) (interface : Fin n) (hasBeenSent : Bool) :
    ArpHost n × List (Fin n × Bytes) :=
  h.sendPacket interface ArpPacket.arpReply srcHwaddr srcIpv4Addr hasBeenSent

/-- `arp_demux` with the advice of `IPv4_ARP_Send_Receive`. -/
def arpDemux (h : ArpHost n) (packet : Bytes) (len : Nat) (interface : Fin n) (hasBeenSent : Bool) :
    ArpHost n × List (Fin n × Bytes) :=
  if ArpPacket.getProtocolType packet = ArpPacket.arpProtocolTypeIpv4 then
    if (h.interfaces interface).ipv4Up = false then (h, [])
    else if len < ArpPacket.arpIpv4Packetsize then (h, [])
    else if (h.interfaces interface).ipv4Addr = ArpPacket.dstIpv4Addr packet then
      if ArpPacket.getOpcode packet = ArpPacket.arpRequest then
        h.ipv4Reply (ArpPacket.srcHwAddr packet) (ArpPacket.srcIpv4Addr packet) interface hasBeenSent
      else if ArpPacket.getOpcode packet = ArpPacket.arpReply then
        ({ h with cache := h.cache.ipv4Update (ArpPacket.srcIpv4Addr packet) (ArpPacket.srcHwAddr packet) }, [])
      else (h, [])
    else (h, [])
  else (h, [])

/-- `demux` with the advice of `Ethernet_Receive`, and `ethernet_demux` with that of `ARP_Ethernet`. -/
def demux (h : ArpHost n) (frame : Bytes) (interface : Fin n) (hasBeenSent : Bool) : ArpHost n × List (Fin n × Bytes) :=
  if frame.length < EthFrame.ethHeaderSize ∨ EthFrame.maxFrameSize < frame.length then (h, [])
  else if EthFrame.getType frame ≠ ArpPacket.ethTypeArp then (h, [])
  else if frame.length - EthFrame.ethHeaderSize < ArpPacket.arpHeaderSize then (h, [])
  else if ArpPacket.getHwType (EthFrame.getData frame) ≠ ArpPacket.arpHwTypeEth then (h, [])
  else h.arpDemux (EthFrame.getData frame) (frame.length - EthFrame.ethHeaderSize) interface hasBeenSent

/-- The static entry with an address. -/
def staticFind (h : ArpHost n) (addr : BitVec 32) : Option (Fin maxStaticEntries) :=
  Slots.find CacheEntry.ipv4Addr h.staticEntries addr

/-- The lookup of a task returns. -/
def answer (h : ArpHost n) (task : Nat) (addr : BitVec 32) (hwAddr : Option HwAddr) : ArpHost n :=
  { h with lookups := Function.update h.lookups task none, answers := ⟨addr, hwAddr⟩ :: h.answers }

/-- A round of the loop of `ipv4_lookup` up to its wait. -/
def beginRound (h : ArpHost n) (task : Nat) (addr : BitVec 32) (interface : Fin n) (requests : Nat) (hasBeenSent : Bool) :
    ArpHost n × List (Fin n × Bytes) :=
  match h.cache.ipv4Find addr with
  | some i => (h.answer task addr (some (h.cache.entries i).hwAddr), [])
  | none =>
    if requests < maxRequests then
      let asked := h.ipv4Request addr interface hasBeenSent
      ({ asked.1 with lookups := Function.update h.lookups task (some ⟨addr, interface, requests + 1⟩) }, asked.2)
    else (h.answer task addr none, [])

/-- `ipv4_lookup` up to its first wait, with the advice of `IPv4_ARP_Static` in front of that of
`IPv4_ARP_Send`. -/
def ipv4Lookup (h : ArpHost n) (task : Nat) (addr : BitVec 32) (interface : Fin n) (hasBeenSent : Bool) :
    ArpHost n × List (Fin n × Bytes) :=
  match h.staticFind addr with
  | some i => (h.answer task addr (some (h.staticEntries i).hwAddr), [])
  | none => h.beginRound task addr interface 0 hasBeenSent

/-- `ipv4_insert` of the static table. -/
def ipv4Insert (h : ArpHost n) (addr : BitVec 32) (hwAddr : HwAddr) : ArpHost n :=
  match h.staticFind 0 with
  | some i => { h with staticEntries := Function.update h.staticEntries i ⟨addr, hwAddr⟩ }
  | none => h

def ipv4Remove (h : ArpHost n) (addr : BitVec 32) : ArpHost n :=
  match h.staticFind addr with
  | some i => { h with staticEntries := Function.update h.staticEntries i { h.staticEntries i with ipv4Addr := 0 } }
  | none => h

/-- A task calls `ipv4_lookup`. One that is in a lookup calls no other. -/
def callLookup (h : ArpHost n) (task : Nat) (addr : BitVec 32) (interface : Fin n) (hasBeenSent : Bool) :
    ArpHost n × List (Fin n × Bytes) :=
  match h.lookups task with
  | some _ => (h, [])
  | none => h.ipv4Lookup task addr interface hasBeenSent

/-- A poll in `ipv4_wait`. -/
def pollTable (h : ArpHost n) (task : Nat) : ArpHost n :=
  match h.lookups task with
  | some l =>
    match h.cache.ipv4Find l.addr with
    | some i => h.answer task l.addr (some (h.cache.entries i).hwAddr)
    | none => h
  | none => h

/-- The time of `ipv4_wait` is over. -/
def waitIsOver (h : ArpHost n) (task : Nat) (hasBeenSent : Bool) : ArpHost n × List (Fin n × Bytes) :=
  match h.lookups task with
  | some l => h.beginRound task l.addr l.interface l.requests hasBeenSent
  | none => (h, [])

def step (h : ArpHost n) : ArpEvent n → ArpHost n × List (Fin n × Bytes)
  | .lookup task addr interface hasBeenSent => h.callLookup task addr interface hasBeenSent
  | .poll task => (h.pollTable task, [])
  | .timeout task hasBeenSent => h.waitIsOver task hasBeenSent
  | .arrive interface frame hasBeenSent => h.demux frame interface hasBeenSent
  | .clear => ({ h with cache := h.cache.clear }, [])
  | .insertStatic addr hwAddr => (h.ipv4Insert addr hwAddr, [])
  | .removeStatic addr => (h.ipv4Remove addr, [])
  | .setIpv4Addr interface addr =>
    ({ h with interfaces := Function.update h.interfaces interface { h.interfaces interface with ipv4Addr := addr } }, [])
  | .setIpv4Up interface up =>
    ({ h with interfaces := Function.update h.interfaces interface { h.interfaces interface with ipv4Up := up } }, [])
  | .transmit interface frame => (h, [(interface, frame)])

end ArpHost

end IPStack
