import IPStack.Arp.Packet
import IPStack.Ip.TransmitChecksums

/-! Routes of IPv4, and the headers that sockets write. -/

namespace IPStack

/-- An Ethernet interface in the list of the router. -/
structure Ipv4Interface extends Interface where
  hwAddr : HwAddr
  ipv4Subnetmask : BitVec 32
  mtu : BitVec 32

/-- The list of the interfaces, in its order. -/
structure Ipv4Router (n : Nat) where
  interfaces : Fin n → Ipv4Interface
  ipv4GatewayAddr : BitVec 32

variable {n : Nat}

/-- The test of `ipv4_find_route`: the address is another one of the same subnet. -/
def Ipv4Interface.isRoute (i : Ipv4Interface) (dst : BitVec 32) : Bool :=
  i.ipv4Up && (i.ipv4Addr &&& i.ipv4Subnetmask = dst &&& i.ipv4Subnetmask) && i.ipv4Addr ≠ dst

def Ipv4Router.ipv4FindRoute (r : Ipv4Router n) (dst : BitVec 32) : Option (Fin n) :=
  (List.finRange n).find? fun k => (r.interfaces k).isRoute dst

/-- The class `IPV4`, which sockets have as a member. -/
structure Ipv4OnSocket (n : Nat) where
  interface : Option (Fin n)
  usingGateway : Bool
  dstIpv4Addr : BitVec 32
  id : BitVec 16

namespace Ipv4OnSocket

/-- The constructor. It leaves `using_gateway` as the memory has it. -/
def new (usingGateway : Bool) : Ipv4OnSocket n := ⟨none, usingGateway, 0, 0⟩

def resolveRoute (s : Ipv4OnSocket n) (r : Ipv4Router n) : Ipv4OnSocket n :=
  match r.ipv4FindRoute s.dstIpv4Addr with
  | some k => { s with interface := some k, usingGateway := false }
  | none => { s with interface := r.ipv4FindRoute r.ipv4GatewayAddr, usingGateway := true }

def setDstAddr (s : Ipv4OnSocket n) (r : Ipv4Router n) (dst : BitVec 32) : Ipv4OnSocket n :=
  { s with dstIpv4Addr := dst }.resolveRoute r

def getSrcAddr (s : Ipv4OnSocket n) (r : Ipv4Router n) : BitVec 32 :=
  match s.interface with
  | some k => (r.interfaces k).ipv4Addr
  | none => 0

def getNexthopIpaddr (s : Ipv4OnSocket n) (r : Ipv4Router n) : BitVec 32 :=
  if s.usingGateway then r.ipv4GatewayAddr else s.dstIpv4Addr

/-- `setupHeader`, with the protocol that the aspect of the transport layer writes. The checksum is
0 until it is computed. -/
def setupHeader (s : Ipv4OnSocket n) (r : Ipv4Router n) (datasize : BitVec 16) (protocol : BitVec 8) : Bytes :=
  [0x45, 0] ++ networkBytes datasize ++ networkBytes s.id ++ [0, 0, 64, .ofBitVec protocol, 0, 0] ++
    machineBytes (s.getSrcAddr r) ++ machineBytes s.dstIpv4Addr

end Ipv4OnSocket

/-- A 16-bit member as the machine stores it. -/
def Bytes.setShort (p : Bytes) (i : Nat) (value : BitVec 16) : Bytes :=
  p.memcpy i [.ofBitVec (value.extractLsb' 0 8), .ofBitVec (value.extractLsb' 8 8)] 2

def Ipv4Packet.computeChecksum (packet : Bytes) : Bytes :=
  let packet := packet.setShort 10 0
  packet.setShort 10 (cksum packet (getIhl packet * 2))

/-- The Ethernet header of `Sendbuffer_IPv4_Ethernet` for a next hop: the address of the destination
if it does not have to be looked up. The last byte of an address is its highest on this machine. -/
def Ipv4Interface.groupAddress (nexthop : BitVec 32) : Option HwAddr :=
  let leftpart := nexthop.extractLsb' 24 8
  if nexthop = BitVec.allOnes 32 then some .broadcast
  else if 224 ≤ leftpart ∧ leftpart ≤ 239 then
    some #v[0x01, 0x00, 0x5e, .ofBitVec (leftpart &&& 0x7f), .ofBitVec (nexthop.extractLsb' 16 8),
      .ofBitVec (nexthop.extractLsb' 0 8)]
  else none

/-! ### The checksum of a header -/

namespace Bytes

variable {p : Bytes} {i j : Nat} {value : BitVec 16}

theorem length_setShort (fits : i + 2 ≤ p.length) : (p.setShort i value).length = p.length := length_memcpy fits

theorem getD_setShort (fits : i + 2 ≤ p.length) (other : j ≠ i ∧ j ≠ i + 1) : (p.setShort i value).getD j 0 = p.getD j 0 := by
  unfold setShort
  rw [getD_memcpy fits, if_neg (by omega)]

theorem short_setShort (fits : i + 2 ≤ p.length) : (p.setShort i value).short i = value := by
  have low : (p.setShort i value).byte i = value.extractLsb' 0 8 := by
    unfold setShort
    rw [byte_memcpy fits, if_pos (by omega), Nat.sub_self]
    rfl
  have high : (p.setShort i value).byte (i + 1) = value.extractLsb' 8 8 := by
    unfold setShort
    rw [byte_memcpy fits, if_pos (by omega), Nat.add_sub_cancel_left]
    rfl
  unfold short
  rw [low, high]
  exact BitVec.extractLsb'_append_extractLsb'_eq_extractLsb' (by rfl) |>.trans BitVec.extractLsb'_eq_self

theorem short_setShort_other (fits : i + 2 ≤ p.length) (before : j ≠ i) (beside : j + 1 ≠ i) (behind : j ≠ i + 1) :
    (p.setShort i value).short j = p.short j := by
  unfold short byte
  rw [getD_setShort fits ⟨before, behind⟩, getD_setShort fits ⟨beside, by omega⟩]

end Bytes

namespace Ipv4Packet

open Bytes

/-- The words that a header adds up, as the machine reads them. -/
def machineSum (p : Bytes) (nwords : Nat) : Nat := ∑ i ∈ Finset.range nwords, (p.short (2 * i)).toNat

theorem machineSum_le (p : Bytes) (nwords : Nat) : machineSum p nwords ≤ nwords * 65535 := by
  unfold machineSum
  induction nwords with
  | zero => exact Nat.zero_le _
  | succ nwords ih =>
    have word := (p.short (2 * nwords)).isLt
    rw [Finset.sum_range_succ]
    omega

theorem cksum_eq (p : Bytes) (nwords : Nat) :
    cksum p nwords = ~~~ InternetChecksum.accumulateCarryBits
      ((List.range nwords).foldl (fun sum i => sum + (p.short (2 * i)).setWidth 32) 0) := by
  unfold cksum InternetChecksum.accumulateCarryBits
  generalize (List.range nwords).foldl (fun sum i => sum + (p.short (2 * i)).setWidth 32) 0 = sum
  dsimp only
  have first : (sum >>> 16) + (sum &&& 0xFFFF#32) = InternetChecksum.accumulate sum := BitVec.add_comm _ _
  rw [first]
  generalize InternetChecksum.accumulate sum = sum
  congr 1
  apply BitVec.eq_of_toNat_eq
  rw [BitVec.toNat_setWidth, BitVec.toNat_setWidth, BitVec.toNat_add, InternetChecksum.toNat_accumulate,
    BitVec.toNat_ushiftRight, Nat.shiftRight_eq_div_pow]
  omega

theorem toNat_words (p : Bytes) {nwords : Nat} (few : nwords ≤ 65536) :
    ((List.range nwords).foldl (fun sum i => sum + (p.short (2 * i)).setWidth 32) (0 : BitVec 32)).toNat = machineSum p nwords := by
  induction nwords with
  | zero => rfl
  | succ nwords ih =>
    have before := machineSum_le p nwords
    have word := (p.short (2 * nwords)).isLt
    rw [List.range_succ, List.foldl_append, List.foldl_cons, List.foldl_nil, BitVec.toNat_add, ih (by omega),
      BitVec.toNat_setWidth, machineSum, machineSum, Finset.sum_range_succ]
    unfold machineSum at before
    omega

/-- The checksum is the complement of what the words add up to. -/
theorem toNat_cksum (p : Bytes) {nwords : Nat} (few : nwords ≤ 65536) :
    (cksum p nwords).toNat = 65535 - OnesComplement.fold 65535 (machineSum p nwords) := by
  rw [cksum_eq, BitVec.toNat_not, InternetChecksum.toNat_accumulateCarryBits, toNat_words p few]

variable {packet : Bytes}

theorem getD_computeChecksum (header : 12 ≤ packet.length) {j : Nat} (other : j ≠ 10 ∧ j ≠ 11) :
    (computeChecksum packet).getD j 0 = packet.getD j 0 := by
  unfold computeChecksum
  rw [getD_setShort (by rw [length_setShort (by omega)]; omega) other, getD_setShort (by omega) other]

theorem length_computeChecksum (header : 12 ≤ packet.length) : (computeChecksum packet).length = packet.length := by
  unfold computeChecksum
  rw [length_setShort (by rw [length_setShort (by omega)]; omega), length_setShort (by omega)]

theorem getIhl_computeChecksum (header : 12 ≤ packet.length) : getIhl (computeChecksum packet) = getIhl packet := by
  unfold getIhl byte
  rw [getD_computeChecksum header (by decide)]

/-- The receive path takes the header with the checksum that the transmit path computes. -/
theorem cksum_computeChecksum (header : 12 ≤ packet.length) (field : 6 ≤ getIhl packet * 2) :
    cksum (computeChecksum packet) (getIhl (computeChecksum packet) * 2) = 0 := by
  have same : getIhl (packet.setShort 10 0) = getIhl packet := by
    unfold getIhl byte
    rw [getD_setShort (by omega) (by decide)]
  have few := getIhl_lt packet
  rw [getIhl_computeChecksum header]
  unfold computeChecksum
  dsimp only
  rw [same]
  generalize zeroed_eq : packet.setShort 10 0 = zeroed
  have fits : 10 + 2 ≤ zeroed.length := by
    rw [← zeroed_eq, length_setShort (by omega)]
    omega
  have none : (zeroed.short 10).toNat = 0 := by
    rw [← zeroed_eq, short_setShort (by omega)]
    rfl
  generalize words : getIhl packet * 2 = nwords at field ⊢
  have member : 5 ∈ Finset.range nwords := Finset.mem_range.mpr (by omega)
  have sum : machineSum (zeroed.setShort 10 (cksum zeroed nwords)) nwords = machineSum zeroed nwords + (cksum zeroed nwords).toNat := by
    unfold machineSum
    rw [← Finset.add_sum_erase _ _ member, ← Finset.add_sum_erase _ (fun i => (zeroed.short (2 * i)).toNat) member,
      show 2 * 5 = 10 from rfl, short_setShort fits, none]
    have rest : ∀ i ∈ (Finset.range nwords).erase 5,
        ((zeroed.setShort 10 (cksum zeroed nwords)).short (2 * i)).toNat = (zeroed.short (2 * i)).toNat := by
      intro i other
      have away := Finset.ne_of_mem_erase other
      rw [short_setShort_other fits (by omega) (by omega) (by omega)]
    rw [Finset.sum_congr rfl rest, Nat.zero_add, Nat.add_comm]
  apply BitVec.eq_of_toNat_eq
  rw [toNat_cksum _ (by omega), sum, toNat_cksum _ (by omega), OnesComplement.fold_add_complement (by decide)]
  rfl

end Ipv4Packet

end IPStack
