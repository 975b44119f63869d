import IPStack.Lib.Bytes
import IPStack.Ipv6.NeighbourCache
import Mathlib.Tactic

/-! Router advertisements, and the addresses an interface makes from their prefixes. -/

namespace IPStack

open AddressMemory

/-! ### Options of neighbour discovery messages -/

namespace NDPMessages

def optionType (option : Bytes) : BitVec 8 := option.byte 0

/-- In bytes. -/
def optionLength (option : Bytes) : BitVec 32 := (option.byte 1).setWidth 32 * 8

/-- The loop over the options: the first one of the type, if no option before it has length 0
or is longer than the rest. -/
def findOption (type : BitVec 8) : Nat → Bytes → BitVec 32 → Option Bytes
  | 0, _, _ => none
  | rounds + 1, data, remainingOptionsLength =>
    if optionLength data = 0 ∨ remainingOptionsLength < optionLength data then none
    else if optionType data = type then some data
    else findOption type rounds (data.drop (optionLength data).toNat) (remainingOptionsLength - optionLength data)

/-- An option has at least eight bytes, so the loop has no more rounds than that. -/
def getOption (type : BitVec 8) (data : Bytes) (remainingOptionsLength : BitVec 32) : Option Bytes :=
  findOption type (remainingOptionsLength.toNat / 8 + 1) data remainingOptionsLength

inductive LinkLayerAddressType where
  | sourceLinkLayer
  | targetLinkLayer
deriving DecidableEq, Repr

def LinkLayerAddressType.code : LinkLayerAddressType → BitVec 8
  | .sourceLinkLayer => 1
  | .targetLinkLayer => 2

def getOptionLinklayerAddress (type : LinkLayerAddressType) (data : Bytes) (remainingOptionsLength : BitVec 32) : Bool :=
  (getOption type.code data remainingOptionsLength).isSome

end NDPMessages

structure RouterAdvertisementMessage where
  type : BitVec 8
  code : BitVec 8
  curHopLimit : BitVec 8
  routerLifetime : BitVec 16
  reachableTime : BitVec 32
  options : Bytes
deriving DecidableEq

def RouterAdvertisementMessage.size : BitVec 32 := 16

def RouterAdvertisementMessage.routerIsShutingDown (message : RouterAdvertisementMessage) : Bool :=
  message.routerLifetime == 0 && message.reachableTime == 0

namespace OptionPrefixInformation

def size : BitVec 32 := 32

def prefixLength (option : Bytes) : UInt8 := option.getD 2 0

def flags (option : Bytes) : BitVec 8 := option.byte 3

def getValidLifetime (option : Bytes) : BitVec 32 := option.long 4

def getPreferredLifetime (option : Bytes) : BitVec 32 := option.long 8

def ipv6Prefix (option : Bytes) : Ipv6Addr := .ofFn fun i => option.getD (16 + i.val) 0

def isOnLink (option : Bytes) : Bool := 0x80 &&& flags option != 0

def useForStatelessAddressConfiguration (option : Bytes) : Bool := 0x40 &&& flags option != 0

end OptionPrefixInformation

def getPrefixOption (data : Bytes) (remainingOptionsLength : BitVec 32) : Option Bytes :=
  NDPMessages.getOption 3 data remainingOptionsLength

/-! ### Addresses made from prefixes -/

namespace Ipv6Interface

/-- The identifier made of the ethernet address. -/
def addInterfaceIdentifierToIPv6Address (interface : Ipv6Interface) (address : Ipv6Addr) : Ipv6Addr :=
  let eth := interface.address
  ((((((((address.set 8 ((eth[0] &&& 0xFE) ||| 2)).set 9 eth[1]).set 10 eth[2]).set 11 0xFF).set 12 0xFE).set 13
    eth[3]).set 14 eth[4]).set 15 eth[5])

/-- The entry of a new address. The hop limit is not written here, it keeps what lies in the slot. -/
def newAddress (interface : Ipv6Interface) (ipv6Prefix : Ipv6Addr) (prefixlen : UInt8) (routerEntryPosition : Nat) :
    AddressEntry where
  ipv6 := interface.addInterfaceIdentifierToIPv6Address ipv6Prefix
  prefixlen := prefixlen
  state := .valid
  isOnLink := true
  toBeRemoved := false
  routerEntryPosition := routerEntryPosition
  hoplimit := 0
  validTimeMinutes := AddressEntry.noTimeExpire
  preferredTimeMinutes := AddressEntry.noTimeExpire

def makeIPv6AddressByPrefix (interface : Ipv6Interface) (m : AddressMemory) (ipv6Prefix : Ipv6Addr) (prefixlen : UInt8)
    (routerEntryPosition : Nat) : AddressMemory × Option Nat :=
  match m.findEntry .free 0 with
  | none => (m, none)
  | some i => (m.write i (.address (interface.newAddress ipv6Prefix prefixlen routerEntryPosition)), some i)

end Ipv6Interface

/-! ### The three passes over the addresses -/

namespace NDPRouterAdvertisement

/-- First: all addresses of the router are flagged. `nextEntry` is left behind the last address. -/
def flagAll (routerPosition : Nat) (m : AddressMemory) : AddressMemory × Nat :=
  visit id .address (fun m i => m.modifyAddress i fun entry =>
    if entry.routerEntryPosition = routerPosition then { entry with toBeRemoved := true } else entry) m

/-- Whether an address is the router's and made of the prefix. -/
def isMadeOf (routerPosition : Nat) (option : Bytes) (entry : AddressEntry) : Bool :=
  entry.routerEntryPosition = routerPosition &&
    compareIpv6Addr entry.ipv6 (OptionPrefixInformation.ipv6Prefix option) (OptionPrefixInformation.prefixLength option)

/-- The search for the address of a prefix. It goes on from `nextEntry`, and leaves it behind
the last address it looked at. -/
def findPrefix (routerPosition : Nat) (option : Bytes) (m : AddressMemory) : Nat → Nat → Option Nat × Nat
  | 0, nextEntry => (none, nextEntry)
  | rounds + 1, nextEntry =>
    match m.findEntry .address nextEntry with
    | none => (none, nextEntry)
    | some i =>
      if (m.addressAt i).any (isMadeOf routerPosition option) then (some i, i + 1)
      else findPrefix routerPosition option m rounds (i + 1)

def refreshPrefix (message : RouterAdvertisementMessage) (option : Bytes) (entry : AddressEntry) : AddressEntry :=
  { entry with
    toBeRemoved := false
    hoplimit := message.curHopLimit
    isOnLink := OptionPrefixInformation.isOnLink option
    validTimeMinutes := OptionPrefixInformation.getValidLifetime option
    preferredTimeMinutes := OptionPrefixInformation.getPreferredLifetime option }

def addPrefix (interface : Ipv6Interface) (message : RouterAdvertisementMessage) (routerPosition : Nat) (option : Bytes)
    (m : AddressMemory) (nextEntry : Nat) : AddressMemory × Nat :=
  if !OptionPrefixInformation.useForStatelessAddressConfiguration option then (m, nextEntry)
  else
    let (found, nextEntry) := findPrefix routerPosition option m m.size nextEntry
    let (m, addressentry) := match found with
      | some i => (m, some i)
      | none => interface.makeIPv6AddressByPrefix m (OptionPrefixInformation.ipv6Prefix option)
          (OptionPrefixInformation.prefixLength option) routerPosition
    match addressentry with
    | none => (m, nextEntry)
    | some i => (m.modifyAddress i (refreshPrefix message option), nextEntry)

/-- Second: the loop over the prefix options. The next one is looked for from the option just
handled on. There is no result while the loop has not ended. -/
def addPrefixes (interface : Ipv6Interface) (message : RouterAdvertisementMessage) (routerPosition : Nat) :
    Nat → AddressMemory → Nat → Option Bytes → BitVec 32 → Option AddressMemory
  | _, m, _, none, _ => some m
  | 0, _, _, some _, _ => none
  | fuel + 1, m, nextEntry, some option, payloadlen =>
    let (m, nextEntry) := addPrefix interface message routerPosition option m nextEntry
    let payloadlen := payloadlen - OptionPrefixInformation.size
    addPrefixes interface message routerPosition fuel m nextEntry (getPrefixOption option payloadlen) payloadlen

/-- Third: all flagged addresses of the router are removed. -/
def removeFlagged (routerPosition : Nat) (m : AddressMemory) : AddressMemory :=
  (visit id .address (fun m i =>
    if (m.addressAt i).any (fun entry => entry.routerEntryPosition = routerPosition && entry.toBeRemoved) then
      m.freeEntry i
    else m) m).1

def updatePrefixes (fuel : Nat) (interface : Ipv6Interface) (message : RouterAdvertisementMessage)
    (payloadlen : BitVec 32) (routerPosition : Nat) (m : AddressMemory) : Option AddressMemory :=
  let (m, nextEntry) := flagAll routerPosition m
  (if message.routerIsShutingDown then some m
    else addPrefixes interface message routerPosition fuel m nextEntry (getPrefixOption message.options payloadlen)
      payloadlen).map (removeFlagged routerPosition)

/-- The entry of the router is refreshed before its prefixes. -/
def refreshRouter (message : RouterAdvertisementMessage) (foundMac : Bool) (routerPosition : Nat) (m : AddressMemory) :
    AddressMemory :=
  let m := if foundMac then m.updateImportance routerPosition NDPCacheEntry.importanceRouter else m
  m.modifyNeighbour routerPosition fun entry => { entry with isRouting := message.routerLifetime ≠ 0 }

end NDPRouterAdvertisement

open NDPRouterAdvertisement in
/-- The advice of `icmpv6_demux`. -/
def Router.receiveRouterAdvertisement {n : Nat} (fuel : Nat) (r : Router n) (k : Fin n) (src : Ipv6Addr)
    (message : RouterAdvertisementMessage) (payloadlen : BitVec 32) : Option (Router n) :=
  if ¬(message.type = 134 ∧ message.code = 0) then some r
  else if payloadlen < RouterAdvertisementMessage.size then some r
  else
    let payloadlen := payloadlen - RouterAdvertisementMessage.size
    let foundMac := NDPMessages.getOptionLinklayerAddress .sourceLinkLayer message.options payloadlen
    let (r, entry) := match (r.memory k).ndpcacheFind src with
      | some i => (r, some i)
      | none => r.addNDPCacheEntry k src (if foundMac then .stale else .incomplete)
    match entry with
    | none => some r
    | some routerPosition =>
      (updatePrefixes fuel (r.interfaces k) message payloadlen routerPosition
        (refreshRouter message foundMac routerPosition (r.memory k))).map (r.setMemory k)

end IPStack
