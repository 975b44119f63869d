import IPStack.Ipv6.RouterAdvertisement

/-! Routes and next hops of the IPv6 instances, and the events that work on the neighbour
caches, the address memories and the next hops. -/

namespace IPStack

open AddressMemory

inductive IPv6AddressScope where
  | nondefined
  | loopback
  | linklocal
  | uniqueLocalUnicast
  | multicast
  | globalUnicast
  | notRecogniced
deriving DecidableEq, Repr

def getIPv6AddressScope (addr : Ipv6Addr) : IPv6AddressScope :=
  -- the mask leaves no 1
  if addr[0]! &&& 0x30 = 1 then .globalUnicast
  else if addr[0]! = 0xFF then .multicast
  else if addr[0]! = 0xFE ∧ addr[1]! = 0x80 then .linklocal
  else if addr[0]! = 0xFC ∨ addr[0]! = 0xFD then .uniqueLocalUnicast
  else if (addr.toList.take 10).all (· = 0) then
    if addr[10]! = 0xFF ∧ addr[11]! = 0xFF then .globalUnicast
    else if addr[10]! = 0 ∧ addr[12]! = 0 ∧ addr[13]! = 0 ∧ addr[14]! = 0 ∧ addr[15]! = 0 then .nondefined
    else if addr[10]! = 0 ∧ addr[12]! = 0 ∧ addr[13]! = 0 ∧ addr[14]! = 0 ∧ addr[15]! = 1 then .loopback
    else .notRecogniced
  else .notRecogniced

def unspecifiedIPv6Address : Ipv6Addr := .replicate 16 0

namespace IPV6

def defaultHoplimit : BitVec 8 := 255

def construct (n : Nat) : IPV6 n where
  interface := none
  srcIpv6Addr := unspecifiedIPv6Address
  dstIpv6Addr := unspecifiedIPv6Address
  hoplimit := defaultHoplimit
  nexthopNDPCacheEntry := none

end IPV6

/-- The address entry whose address is to be the source, and the interface. -/
structure RouteResult (n : Nat) where
  proposedSrcAddr : Option (Fin n × Nat)
  interface : Option (Fin n)
  isDefaultRouter : Bool
deriving DecidableEq

namespace Router

variable {n : Nat}

def ipv6FindRouteIsMatching (dst : Ipv6Addr) (entry : AddressEntry) : Bool :=
  entry.preferredTimeMinutes ≠ 0 && compareIpv6Addr dst entry.ipv6 entry.prefixlen

/-- The first address of a memory that meets a test. -/
def findAddress (m : AddressMemory) (test : AddressEntry → Bool) : Option Nat :=
  (List.range m.size).find? fun i => (m.addressAt i).any test

def findLastAddress (m : AddressMemory) (test : AddressEntry → Bool) : Option Nat :=
  (List.range m.size).reverse.find? fun i => (m.addressAt i).any test

/-- The loop over the interfaces. Without a matching address the first default router is taken. -/
def ipv6FindRouteFrom (r : Router n) (dst : Ipv6Addr) : List (Fin n) → RouteResult n → RouteResult n
  | [], backupDefaultRouter => { backupDefaultRouter with isDefaultRouter := true }
  | k :: rest, backupDefaultRouter =>
    if !(r.interfaces k).ipv6Up then r.ipv6FindRouteFrom dst rest backupDefaultRouter
    else
      match findAddress (r.memory k) (ipv6FindRouteIsMatching dst) with
      | some i => ⟨some (k, i), some k, false⟩
      | none =>
        if backupDefaultRouter.interface.isSome then r.ipv6FindRouteFrom dst rest backupDefaultRouter
        else
          let proposed := findLastAddress (r.memory k) fun entry => getIPv6AddressScope entry.ipv6 = .globalUnicast
          r.ipv6FindRouteFrom dst rest
            { backupDefaultRouter with
              proposedSrcAddr := (proposed.map fun i => (k, i)).or backupDefaultRouter.proposedSrcAddr
              interface := (r.memory k).ndpcacheFindRouter.map fun _ => k }

/-- With the multicast aspect, a multicast packet is sent on the first active interface. -/
def ipv6FindRoute (r : Router n) (multicast : Bool) (dst : Ipv6Addr) : RouteResult n :=
  if multicast && getIPv6AddressScope dst = .multicast then
    ⟨none, (List.finRange n).find? fun k => (r.interfaces k).ipv6Up, false⟩
  else r.ipv6FindRouteFrom dst (List.finRange n) ⟨none, none, false⟩

def modifyIPV6 (r : Router n) (j : Nat) (f : IPV6 n → IPV6 n) : Router n := { r with ipv6 := r.ipv6.modify j f }

def setNexthop (r : Router n) (j : Nat) (p : Option (NDPCachePointer n)) : Router n :=
  r.modifyIPV6 j fun ipv6 => { ipv6 with nexthopNDPCacheEntry := p }

/-- The advice of the destination cache after `resolveRoute`. The entry at position `i` of
interface `k'` is its result. -/
def updateNexthop (r : Router n) (j : Nat) (k k' : Fin n) (i : Nat) (entry : AddressEntry) : Router n :=
  let r := if getIPv6AddressScope entry.ipv6 = .linklocal then r.setNexthop j none else r
  if getIPv6AddressScope entry.ipv6 = .linklocal ∨ entry.routerEntryPosition = entryUndefined then r
  else
    match (r.memory k).neighbourAt entry.routerEntryPosition with
    | none => r.setMemory k' ((r.memory k').modifyAddress i fun entry => { entry with routerEntryPosition := entryUndefined })
    | some ndpentry => r.setNexthop j (some ⟨k, entry.routerEntryPosition, ndpentry.ipv6⟩)

def resolveRoute (multicast : Bool) (r : Router n) (j : Nat) : Router n :=
  match r.ipv6[j]? with
  | none => r
  | some ipv6 =>
    if ipv6.dstIpv6Addr[0]! = 0 then r.modifyIPV6 j fun ipv6 => { ipv6 with interface := none }
    else
      let route := r.ipv6FindRoute multicast ipv6.dstIpv6Addr
      match route.proposedSrcAddr.bind fun p => (r.memory p.1).addressAt p.2 |>.map fun entry => (p, entry) with
      | none => r.modifyIPV6 j fun ipv6 => { ipv6 with srcIpv6Addr := unspecifiedIPv6Address, interface := route.interface }
      | some (p, entry) =>
        let r := r.modifyIPV6 j fun ipv6 =>
          { ipv6 with
            srcIpv6Addr := entry.ipv6
            hoplimit := if entry.hoplimit ≠ 0 then entry.hoplimit else IPV6.defaultHoplimit
            interface := route.interface }
        match route.interface with
        | none => r
        | some k => r.updateNexthop j k p.1 p.2 entry

def setDstAddr (multicast : Bool) (r : Router n) (j : Nat) (dst : Ipv6Addr) (interface : Option (Fin n)) : Router n :=
  let r := r.modifyIPV6 j fun ipv6 => { ipv6 with dstIpv6Addr := dst }
  match interface with
  | none => r.resolveRoute multicast j
  | some k => r.modifyIPV6 j fun ipv6 => { ipv6 with interface := some k }

def setupDestinationCacheEntryForInterface (multicast : Bool) (r : Router n) (k : Fin n) : Router n :=
  (List.range r.ipv6.length).foldl (fun r j =>
    if r.ipv6[j]?.any fun ipv6 => ipv6.interface = some k then r.resolveRoute multicast j else r) r

/-! ### Addresses -/

/-- An address made of a prefix on an interface; without a router the position is undefined. -/
def makeIPv6AddressByPrefix (r : Router n) (k : Fin n) (ipv6Prefix : Ipv6Addr) (prefixlen : UInt8)
    (routerEntryPosition : Nat) : Router n :=
  r.setMemory k ((r.interfaces k).makeIPv6AddressByPrefix (r.memory k) ipv6Prefix prefixlen routerEntryPosition).1

def refreshInMinutes : BitVec 32 := 3

def refreshAddress (m : AddressMemory) (i : Nat) : AddressMemory :=
  match m.addressAt i with
  | none => m
  | some entry =>
    if entry.validTimeMinutes = AddressEntry.noTimeExpire then m
    else if entry.validTimeMinutes ≤ refreshInMinutes then m.freeEntry i
    else m.modifyAddress i fun entry =>
      { entry with
        validTimeMinutes := entry.validTimeMinutes - refreshInMinutes
        preferredTimeMinutes :=
          if entry.preferredTimeMinutes ≤ refreshInMinutes then 0 else entry.preferredTimeMinutes - refreshInMinutes }

def refreshIPv6Addresses (r : Router n) (k : Fin n) : Router n :=
  r.setMemory k (AddressMemory.visit id .address refreshAddress (r.memory k)).1

/-- A duplicate address is freed and registered again with another last byte. -/
def isDuplicateAddress (r : Router n) (k : Fin n) (dst : Ipv6Addr) : Router n :=
  match findAddress (r.memory k) fun entry => entry.ipv6 = dst with
  | none => r
  | some i =>
    r.setMemory k <| (r.memory k).modifyAddress i fun entry =>
      { entry with ipv6 := entry.ipv6.set! 15 (entry.ipv6[15]! + 1), state := .valid }

def joinMulticastGroup (r : Router n) (k : Fin n) (addr : Ipv6Addr) : Router n :=
  if (r.memory k).slots.any fun s => s = .multicast ⟨addr⟩ then r
  else
    match (r.memory k).findEntry .free 0 with
    | none => r
    | some i => r.setMemory k ((r.memory k).write i (.multicast ⟨addr⟩))

def leaveMulticastGroup (r : Router n) (k : Fin n) (addr : Ipv6Addr) : Router n :=
  match (List.range (r.memory k).size).find? fun i => (r.memory k).getEntryAtPosition i = .multicast ⟨addr⟩ with
  | none => r
  | some i => r.setMemory k ((r.memory k).freeEntry i)

def freeAll (r : Router n) (k : Fin n) (type : EntryId) : Router n :=
  r.setMemory k (AddressMemory.visit id type freeEntry (r.memory k)).1

def linkLocalAllNodes : Ipv6Addr := ((unspecifiedIPv6Address.set! 0 0xFF).set! 1 2).set! 15 1

def linkLocalAllRouters : Ipv6Addr := ((unspecifiedIPv6Address.set! 0 0xFF).set! 1 2).set! 15 2

def linkLocalPrefix : Ipv6Addr := (unspecifiedIPv6Address.set! 0 0xFE).set! 1 0x80

def addLinkLocalAddress (r : Router n) (k : Fin n) : Router n :=
  if (findAddress (r.memory k) fun entry => getIPv6AddressScope entry.ipv6 = .linklocal).isSome then r
  else r.makeIPv6AddressByPrefix k linkLocalPrefix 64 entryUndefined

def updateMulticastGroups (r : Router n) (multicast : Bool) (k : Fin n) (up : Bool) : Router n :=
  if !multicast then r
  else if up then (r.joinMulticastGroup k linkLocalAllRouters).joinMulticastGroup k linkLocalAllNodes
  else (r.leaveMulticastGroup k linkLocalAllRouters).leaveMulticastGroup k linkLocalAllNodes

/-- `setIPv6Up` with its advices in their order: multicast groups, link-local address, destination cache. -/
def setIPv6Up (multicast : Bool) (r : Router n) (k : Fin n) (up : Bool) : Router n :=
  let r := r.updateMulticastGroups multicast k up
  let r := if up then r.addLinkLocalAddress k else r
  let r := r.setupDestinationCacheEntryForInterface multicast k
  let r := if !up && (r.interfaces k).ipv6Up then r.freeAll k .address else r
  { r with interfaces := Function.update r.interfaces k { r.interfaces k with ipv6Up := up } }

/-! ### Neighbours -/

/-- The options of a message behind the members that are used. -/
structure NeighborAdvertisementMessage where
  flags : BitVec 8
  targetAddress : Ipv6Addr
  options : Bytes
deriving DecidableEq

namespace NeighborAdvertisementMessage

def isRouter (message : NeighborAdvertisementMessage) : Bool := 0x80 &&& message.flags != 0

def isResponse (message : NeighborAdvertisementMessage) : Bool := 0x40 &&& message.flags != 0

def isOverride (message : NeighborAdvertisementMessage) : Bool := 0x20 &&& message.flags != 0

end NeighborAdvertisementMessage

/-- The entry of the target after a neighbour advertisement. -/
def advertisedNeighbour (message : NeighborAdvertisementMessage) (foundDestMac : Bool) (entry : NDPCacheEntry) :
    NDPCacheEntry :=
  { entry with
    isRouter := message.isRouter
    -- `entryConfirmed`
    expireValue := entry.expireValue ||| if message.isRouter then NDPCacheEntry.importanceRouter
      else NDPCacheEntry.importanceSolicitationRenew
    state := if foundDestMac ∧ (message.isOverride ∨ entry.state ≠ .reachable) then .reachable else entry.state }

/-- `ndp_neighbor_advertisement_demux`, for messages that are accepted. -/
def neighborAdvertisement (r : Router n) (k : Fin n) (message : NeighborAdvertisementMessage) (payloadlen : BitVec 32) :
    Router n :=
  let r := if message.isResponse then r.isDuplicateAddress k message.targetAddress else r
  match (r.memory k).ndpcacheFind message.targetAddress with
  | none => r
  | some i =>
    let foundDestMac := NDPMessages.getOptionLinklayerAddress .targetLinkLayer message.options payloadlen
    r.setMemory k ((r.memory k).modifyNeighbour i (advertisedNeighbour message foundDestMac))

/-- `ndp_neighbor_solicitation_demux`, for messages that are accepted. -/
def neighborSolicitation (r : Router n) (k : Fin n) (src : Ipv6Addr) (options : Bytes) (payloadlen : BitVec 32) : Router n :=
  if src ≠ unspecifiedIPv6Address ∧ NDPMessages.getOptionLinklayerAddress .sourceLinkLayer options payloadlen then
    match (r.memory k).ndpcacheFind src with
    | some _ => r
    | none => (r.addNDPCacheEntry k src .stale).1
  else r

/-- A frame that is directed to this interface. -/
def cacheIncoming (r : Router n) (k : Fin n) (src : Ipv6Addr) : Router n :=
  match r.addNDPCacheEntry k src .reachable with
  | (r, none) => r
  | (r, some i) => r.setMemory k ((r.memory k).updateImportance i NDPCacheEntry.importanceGoodToKnow)

/-- The target becomes the next hop of all instances that send to the destination. -/
def redirect (r : Router n) (k : Fin n) (target destination : Ipv6Addr) (options : Bytes) (payloadlen : BitVec 32) :
    Router n :=
  let foundDestMac := NDPMessages.getOptionLinklayerAddress .targetLinkLayer options payloadlen
  match r.addNDPCacheEntry k target (if foundDestMac then .reachable else .incomplete) with
  | (r, none) => r
  | (r, some i) =>
    { r with ipv6 := r.ipv6.map fun ipv6 =>
        if ipv6.dstIpv6Addr = destination then { ipv6 with nexthopNDPCacheEntry := some ⟨k, i, target⟩ } else ipv6 }

def suspectUnreachable (r : Router n) (k : Fin n) (addr : Ipv6Addr) : Router n :=
  match (r.memory k).ndpcacheFind addr with
  | none => r
  | some i => r.setMemory k ((r.memory k).modifyNeighbour i fun entry => { entry with expireValue := 0, state := .stale })

/-- A lookup that blocks adds an incomplete entry, and keeps a pointer to it. -/
def beginLookup (r : Router n) (k : Fin n) (addr : Ipv6Addr) : Router n × Option Nat :=
  match (r.memory k).ndpcacheFind addr with
  | some _ => (r, none)
  | none => r.addNDPCacheEntry k addr .incomplete

/-- The byte of a slot where an entry of the neighbour cache has its state. -/
def readsReachable : Slot → Bool
  | .neighbour entry => entry.state = .reachable
  | .address entry => entry.prefixlen = 4
  | .multicast _ => false
  | .free => false

/-- The end of a lookup: an entry that is not reachable is freed, directly in the memory. -/
def endLookup (r : Router n) (k : Fin n) (i : Nat) : Router n :=
  if readsReachable ((r.memory k).getEntryAtPosition i) then r else r.setMemory k ((r.memory k).freeEntry i)

end Router

end IPStack
