import IPStack.Ipv6.AddressScope
import IPStack.Ipv6.Packet

/-! The destinations that an interface takes packets for. -/

namespace IPStack

open AddressMemory Ipv6Addr

/-- `ff02::1:ffXX:XXXX` with the last three bytes of an address. -/
def solicitedNodeMulticastAddr (src : Ipv6Addr) : Ipv6Addr :=
  ((((((unspecifiedIPv6Address.set! 0 0xFF).set! 1 2).set! 11 1).set! 12 0xFF).set! 13 src[13]!).set! 14 src[14]!).set! 15
    src[15]!

namespace AddressMemory

def isSolicitedNodeMulticastAddr (m : AddressMemory) (multicastAddr : Ipv6Addr) : Bool :=
  if multicastAddr[0]! = 0xFF ∧ multicastAddr[1]! = 2 then
    (Router.findAddress m fun entry => entry.ipv6[13]! = multicastAddr[13]! ∧ entry.ipv6[14]! = multicastAddr[14]! ∧
      entry.ipv6[15]! = multicastAddr[15]!).isSome
  else false

def multicastAddrJoined (m : AddressMemory) (multicastAddr : Ipv6Addr) : Bool :=
  (List.range m.size).any fun i => m.getEntryAtPosition i = .multicast ⟨multicastAddr⟩

/-- `multicast` tells whether the advice for multicast destinations is woven. -/
def hasIPv6Address (m : AddressMemory) (multicast : Bool) (addr : Ipv6Addr) : Bool :=
  if multicast && getIPv6AddressScope addr = .multicast then
    m.multicastAddrJoined addr || m.isSolicitedNodeMulticastAddr addr
  else (Router.findAddress m fun entry => compareIpv6Addr addr entry.ipv6 entry.prefixlen).isSome

end AddressMemory

namespace Ipv6Packet

def ipv6Version : BitVec 8 := 6

def getVersion (packet : Bytes) : BitVec 8 := packet.byte 0 >>> 4

def getDstIpaddr (packet : Bytes) : Ipv6Addr := .ofFn fun i => packet.getD (24 + i.val) 0

/-- `IPv6_Receive`: whether a packet of `len` bytes goes on to the other handlers. -/
def received (multicast : Bool) (interface : Ipv6Interface) (packet : Bytes) (len : Nat) : Bool :=
  if interface.ipv6Up = false then false
  else if validPacketLength packet len = 0 then false
  else if getVersion packet ≠ ipv6Version then false
  else interface.addressmemory.hasIPv6Address multicast (getDstIpaddr packet)

end Ipv6Packet

/-! ### What the filter is for -/

namespace AddressMemory

variable {m : AddressMemory} {addr : Ipv6Addr}

def Assigned (m : AddressMemory) (addr : Ipv6Addr) : Prop := ∃ i entry, m.addressAt i = some entry ∧ entry.ipv6 = addr

def Joined (m : AddressMemory) (group : Ipv6Addr) : Prop := ∃ i, m.getEntryAtPosition i = .multicast ⟨group⟩

/-- An assigned unicast address, a joined multicast group, or the solicited-node multicast
address of an assigned address. -/
def Destined (m : AddressMemory) (addr : Ipv6Addr) : Prop :=
  (¬SamePrefix 8 addr IPv6AddressScope.multicastPrefix ∧ m.Assigned addr) ∨
    (SamePrefix 8 addr IPv6AddressScope.multicastPrefix ∧ m.Joined addr) ∨
    ∃ other, m.Assigned other ∧ addr = solicitedNodeMulticastAddr other

/-- The last three bytes are equal. -/
def SameLowBytes (addr other : Ipv6Addr) : Prop :=
  addr.byte 13 = other.byte 13 ∧ addr.byte 14 = other.byte 14 ∧ addr.byte 15 = other.byte 15

/-- A group of `ff02::/16` with the low bytes of an assigned address is joined or has the prefix
of the solicited-node addresses. A unicast address that an entry matches up to its prefix length
is assigned. -/
def FilterExact (m : AddressMemory) (addr : Ipv6Addr) : Prop :=
  (SamePrefix 8 addr IPv6AddressScope.multicastPrefix →
    addr.byte 1 = 2 → (∃ other, m.Assigned other ∧ SameLowBytes other addr) →
      m.Joined addr ∨ SamePrefix 104 addr (solicitedNodeMulticastAddr unspecifiedIPv6Address)) ∧
  (¬SamePrefix 8 addr IPv6AddressScope.multicastPrefix →
    (∃ i entry, m.addressAt i = some entry ∧ compareIpv6Addr addr entry.ipv6 entry.prefixlen = true) → m.Assigned addr)

theorem findAddress_isSome {test : AddressEntry → Bool} :
    (Router.findAddress m test).isSome ↔ ∃ i entry, m.addressAt i = some entry ∧ test entry = true := by
  unfold Router.findAddress
  rw [List.find?_isSome]
  constructor
  · rintro ⟨i, -, any⟩
    obtain ⟨entry, here, meets⟩ := (Option.any_eq_true _ _).mp any
    exact ⟨i, entry, here, meets⟩
  · rintro ⟨i, entry, here, meets⟩
    have inside : i < m.size := by
      refine inside_of_id fun free => ?_
      rw [Slot.address?_eq_some.mp here] at free
      cases free
    exact ⟨i, List.mem_range.mpr inside, (Option.any_eq_true _ _).mpr ⟨entry, here, meets⟩⟩

theorem multicastAddrJoined_iff : m.multicastAddrJoined addr = true ↔ m.Joined addr := by
  unfold multicastAddrJoined Joined
  simp only [List.any_eq_true, List.mem_range, decide_eq_true_eq]
  constructor
  · rintro ⟨i, -, here⟩
    exact ⟨i, here⟩
  · rintro ⟨i, here⟩
    refine ⟨i, inside_of_id fun free => ?_, here⟩
    rw [here] at free
    cases free

theorem isSolicitedNodeMulticastAddr_iff : m.isSolicitedNodeMulticastAddr addr = true ↔
    addr.byte 0 = 0xFF ∧ addr.byte 1 = 2 ∧ ∃ other, m.Assigned other ∧ SameLowBytes other addr := by
  unfold isSolicitedNodeMulticastAddr
  simp only [getElem!_eq_byte]
  split_ifs with group
  · rw [findAddress_isSome]
    simp only [decide_eq_true_eq]
    constructor
    · rintro ⟨i, entry, here, same⟩
      exact ⟨group.1, group.2, entry.ipv6, ⟨i, entry, here, rfl⟩, same⟩
    · rintro ⟨-, -, -, ⟨i, entry, here, rfl⟩, same⟩
      exact ⟨i, entry, here, same⟩
  · exact iff_of_false (by simp) fun all => group ⟨all.1, all.2.1⟩

theorem byte_solicitedNodeMulticastAddr (src : Ipv6Addr) (block : Nat) : byte (solicitedNodeMulticastAddr src) block =
    if 15 = block then src.byte 15 else if 14 = block then src.byte 14 else if 13 = block then src.byte 13
    else if 12 = block then 0xFF else if 11 = block then 1 else if 1 = block then 2 else if 0 = block then 0xFF else 0 := by
  unfold solicitedNodeMulticastAddr unspecifiedIPv6Address
  simp only [getElem!_eq_byte, byte_set! (show 15 < 16 by decide), byte_set! (show 14 < 16 by decide),
    byte_set! (show 13 < 16 by decide), byte_set! (show 12 < 16 by decide), byte_set! (show 11 < 16 by decide),
    byte_set! (show 1 < 16 by decide), byte_set! (show 0 < 16 by decide), byte_replicate_zero]

/-- A solicited-node address is its prefix and the low bytes. -/
theorem eq_solicitedNodeMulticastAddr_iff {other : Ipv6Addr} : addr = solicitedNodeMulticastAddr other ↔
    SamePrefix 104 addr (solicitedNodeMulticastAddr unspecifiedIPv6Address) ∧ SameLowBytes other addr := by
  have prefixes {block : Nat} (inside : block < 13) : byte (solicitedNodeMulticastAddr unspecifiedIPv6Address) block =
      byte (solicitedNodeMulticastAddr other) block := by
    simp only [byte_solicitedNodeMulticastAddr, show ¬15 = block by omega, show ¬14 = block by omega,
      show ¬13 = block by omega, if_false]
  simp only [samePrefix_iff, sameTopBits]
  constructor
  · rintro rfl
    refine ⟨⟨fun block inside => (prefixes inside).symm, fun i none => absurd none (by omega)⟩, ?_⟩
    simp [SameLowBytes, byte_solicitedNodeMulticastAddr]
  · rintro ⟨⟨bytes, -⟩, low⟩
    refine ext_byte fun block inside => ?_
    rcases Nat.lt_or_ge block 13 with before | behind
    · exact (bytes block before).trans (prefixes before)
    · obtain rfl | rfl | rfl : block = 13 ∨ block = 14 ∨ block = 15 := by omega
      · exact low.1.symm.trans (byte_solicitedNodeMulticastAddr other 13).symm
      · exact low.2.1.symm.trans (byte_solicitedNodeMulticastAddr other 14).symm
      · exact low.2.2.symm.trans (byte_solicitedNodeMulticastAddr other 15).symm

theorem scope_multicast_iff : getIPv6AddressScope addr = .multicast ↔ SamePrefix 8 addr IPv6AddressScope.multicastPrefix := by
  rw [getIPv6AddressScope_eq, IPv6AddressScope.samePrefix_multicastPrefix]
  split_ifs with multicast <;> simp [multicast]

theorem solicitedNodeMulticastAddr_group (other : Ipv6Addr) :
    SamePrefix 8 (solicitedNodeMulticastAddr other) IPv6AddressScope.multicastPrefix ∧
      (solicitedNodeMulticastAddr other).byte 1 = 2 := by
  refine ⟨IPv6AddressScope.samePrefix_multicastPrefix.mpr ?_, byte_solicitedNodeMulticastAddr other 1⟩
  exact byte_solicitedNodeMulticastAddr other 0

section Multicast

variable (group : SamePrefix 8 addr IPv6AddressScope.multicastPrefix)

include group

theorem hasIPv6Address_multicast : m.hasIPv6Address true addr = true ↔
    m.Joined addr ∨ addr.byte 1 = 2 ∧ ∃ other, m.Assigned other ∧ SameLowBytes other addr := by
  have first : addr.byte 0 = 0xFF := IPv6AddressScope.samePrefix_multicastPrefix.mp group
  unfold hasIPv6Address
  rw [if_pos (by simpa using scope_multicast_iff.mpr group), Bool.or_eq_true, multicastAddrJoined_iff,
    isSolicitedNodeMulticastAddr_iff]
  simp only [first, true_and]

theorem destined_multicast : m.Destined addr ↔ m.Joined addr ∨ ∃ other, m.Assigned other ∧
    SamePrefix 104 addr (solicitedNodeMulticastAddr unspecifiedIPv6Address) ∧ SameLowBytes other addr := by
  unfold Destined
  simp only [group, not_true, false_and, false_or, true_and, eq_solicitedNodeMulticastAddr_iff]

end Multicast

section Unicast

variable (unicast : ¬SamePrefix 8 addr IPv6AddressScope.multicastPrefix)

include unicast

theorem hasIPv6Address_unicast : m.hasIPv6Address true addr = true ↔
    ∃ i entry, m.addressAt i = some entry ∧ compareIpv6Addr addr entry.ipv6 entry.prefixlen = true := by
  have scope : ¬getIPv6AddressScope addr = .multicast := fun scope => unicast (scope_multicast_iff.mp scope)
  unfold hasIPv6Address
  rw [if_neg (by simpa using scope), findAddress_isSome]

theorem destined_unicast : m.Destined addr ↔ m.Assigned addr := by
  unfold Destined
  constructor
  · rintro (⟨-, assigned⟩ | ⟨group, -⟩ | ⟨other, -, rfl⟩)
    · exact assigned
    · exact absurd group unicast
    · exact absurd (solicitedNodeMulticastAddr_group other).1 unicast
  · intro assigned
    exact .inl ⟨unicast, assigned⟩

end Unicast

/-- Every address that an entry matches up to its prefix length passes, and so does every group of
`ff02::/16` with the low bytes of an assigned address. -/
theorem hasIPv6Address_of_destined (destined : m.Destined addr) : m.hasIPv6Address true addr = true := by
  by_cases group : SamePrefix 8 addr IPv6AddressScope.multicastPrefix
  · rw [hasIPv6Address_multicast group]
    refine ((destined_multicast group).mp destined).imp_right ?_
    rintro ⟨other, assigned, prefixed, low⟩
    have same := eq_solicitedNodeMulticastAddr_iff.mpr ⟨prefixed, low⟩
    exact ⟨same ▸ (solicitedNodeMulticastAddr_group other).2, other, assigned, low⟩
  · rw [hasIPv6Address_unicast group]
    obtain ⟨i, entry, here, rfl⟩ := (destined_unicast group).mp destined
    exact ⟨i, entry, here, (compareIpv6Addr_equivalence _).refl _⟩

theorem destined_of_hasIPv6Address_iff :
    (m.hasIPv6Address true addr = true → m.Destined addr) ↔ m.FilterExact addr := by
  unfold FilterExact
  by_cases group : SamePrefix 8 addr IPv6AddressScope.multicastPrefix
  · rw [and_iff_left (absurd group), forall_prop_of_true group, hasIPv6Address_multicast group, destined_multicast group]
    constructor
    · intro only second low
      refine (only (.inr ⟨second, low⟩)).imp_right ?_
      rintro ⟨other, -, prefixed, -⟩
      exact prefixed
    · rintro exact (joined | ⟨second, other, assigned, low⟩)
      · exact .inl joined
      · exact (exact second ⟨other, assigned, low⟩).imp_right fun prefixed => ⟨other, assigned, prefixed, low⟩
  · rw [and_iff_right (fun same => absurd same group), forall_prop_of_true group, hasIPv6Address_unicast group,
      destined_unicast group]

end AddressMemory

/-- The packets that the other handlers get where the filter is exact. -/
theorem Ipv6Packet.received_iff {interface : Ipv6Interface} {packet : Bytes} {len : Nat}
    (exact : interface.addressmemory.FilterExact (getDstIpaddr packet)) :
    received true interface packet len = true ↔ interface.ipv6Up = true ∧ validPacketLength packet len ≠ 0 ∧
      getVersion packet = ipv6Version ∧ interface.addressmemory.Destined (getDstIpaddr packet) := by
  have filter : interface.addressmemory.hasIPv6Address true (getDstIpaddr packet) = true ↔
      interface.addressmemory.Destined (getDstIpaddr packet) :=
    ⟨AddressMemory.destined_of_hasIPv6Address_iff.mpr exact, AddressMemory.hasIPv6Address_of_destined⟩
  rw [← filter]
  unfold received
  split_ifs with down empty version
  · simp [down]
  · simp [empty]
  · simp [version]
  · simp only [Bool.not_eq_false] at down
    simp [down, empty, not_not.mp version]

end IPStack
