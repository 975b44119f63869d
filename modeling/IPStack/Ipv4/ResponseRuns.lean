import IPStack.Ipv4.ResponsePackets
import IPStack.Lib.Network

/-! Hosts that answer each other: what they send on their own ends with it. -/

namespace IPStack

open Bytes

theorem PlacedMempool.le_of_alloc {l : MempoolLayout} {m : PlacedMempool l} {size : BitVec 32} {ptr : Nat}
    (allocated : (m.alloc size).1 = some ptr) : size ≤ l.sizeBig := by
  by_cases small : size ≤ l.sizeSmall
  · exact BitVec.le_trans small l.small_le_big
  · by_contra large
    simp only [alloc, if_neg small, if_neg large] at allocated
    cases allocated

theorem SharedMemory.le_of_createInstance {l : SharedMemoryLayout} {m : SharedMemory l} {size : BitVec 32}
    {hasBeenSent : Nat → Bool} {buffer : Nat} (created : (m.createInstance size hasBeenSent).1 = some buffer) :
    size + l.sizeofSendBuffer ≤ l.sizeBig := by
  cases allocated : ((m.freeAllUnused hasBeenSent).mempool.alloc (size + l.sizeofSendBuffer)).1 with
  | some ptr => exact PlacedMempool.le_of_alloc allocated
  | none =>
    simp only [createInstance, construct, allocated] at created
    cases created

namespace Ipv4Packet

variable {p : Bytes} {transport : Transport} {src dst : BitVec 32} {content : Bytes}

theorem Carries.getIhl (carries : Carries p transport src dst content) : getIhl p = 5 := by
  unfold Ipv4Packet.getIhl
  rw [carries.first]
  rfl

theorem Carries.not_isFragment (carries : Carries p transport src dst content) : ¬Reassembly.isFragment p := by
  unfold Reassembly.isFragment getFlags getFragmentOffset netShort
  rw [carries.whole.1, carries.whole.2]
  decide

/-- The packet passes all checks of an interface that is up. -/
theorem Carries.accepted (carries : Carries p transport src dst content) {interface : Interface} (up : interface.ipv4Up = true)
    {len : Nat} (whole : 20 + content.length ≤ len) : accepted p interface len := by
  refine ⟨up, ?_, ?_, ?_, ?_⟩
  · unfold validPacketLength minHeaderSize
    rw [carries.getIhl, carries.total]
    dsimp only
    split_ifs <;> omega
  · unfold getVersion
    rw [carries.first]
    rfl
  · rw [carries.ttl]
    decide
  · unfold validPacketChecksum
    rw [carries.getIhl, carries.header]
    exact Bool.or_true _

/-- A packet that is no fragment is dropped, forwarded or passed on as it is. -/
theorem Carries.ipv4Receive (carries : Carries p transport src dst content) (clock : Clock) (interface : Interface)
    (now : BitVec 64) (r : Reassembly) (len : Nat) :
    (r.ipv4Receive clock interface now p len).2 = .dropped ∨ (r.ipv4Receive clock interface now p len).2 = .forwarded ∨
      (r.ipv4Receive clock interface now p len).2 = .passed p (validPacketLength p len) := by
  have whole := carries.not_isFragment
  unfold Reassembly.ipv4Receive
  by_cases valid : Ipv4Packet.accepted p interface len
  · rw [if_neg (not_not_intro valid)]
    by_cases ours : Ipv4Packet.getDstIpaddr p = interface.ipv4Addr
    · rw [if_neg (not_not_intro ours), if_neg whole]
      exact .inr (.inr rfl)
    · rw [if_pos ours]
      dsimp only
      split_ifs
      · exact .inl rfl
      · exact .inr (.inl rfl)
  · rw [if_pos valid]
    exact .inl rfl

theorem Carries.byte_getData (carries : Carries p transport src dst content) {i : Nat} (inside : i < content.length)
    (other : i ≠ transport.checksumField ∧ i ≠ transport.checksumField + 1) : (getData p).byte i = content.byte i := by
  unfold getData
  rw [byte_drop, carries.getIhl]
  exact carries.payload i inside other.1 other.2

end Ipv4Packet

/-! ### What one host sends -/

/-- A frame of legal size with a packet of a management socket, whatever lies behind it in memory. -/
structure EthFrame.Sends (frame : Bytes) (transport : Transport) (src dst : BitVec 32) (content : Bytes) : Prop where
  legal : frame.length ≤ EthFrame.maxFrameSize
  length : frame.length = Ipv4Host.headersSize + content.length
  room : transport.headerSize .v4 ≤ content.length
  type : ∀ rest, EthFrame.getType (frame ++ rest) = Ipv4Packet.ethTypeIpv4
  packet : ∀ rest, Ipv4Packet.Carries (EthFrame.getData (frame ++ rest)) transport src dst content

open EthFrame

namespace Ipv4Host

variable {l : ManagementLayout} {n : Nat} {c : ResponseConfig} {h : Ipv4Host l n} {s : Ipv4OnSocket n} {k : Fin n} {size : Nat}
  {transport : Transport} {content : Bytes} {env : ResponseEnv} {m : Fin n × Bytes}

theorem length_frame (used : Fin n) (hw : HwAddr) (room : transport.headerSize .v4 ≤ content.length)
    (small : 20 + content.length < 2 ^ 16) (known : transport ≠ .udp) :
    (h.frame s used hw transport content).length = headersSize + content.length := by
  have packet := Ipv4Packet.length_send s h.router room small known
  unfold frame
  rw [List.length_append, Ipv4Packet.ofContent_eq s h.router room small known,
    Ipv4Packet.length_computeChecksum (by omega), packet, ← Nat.add_assoc]
  rfl

theorem respond_sends (fits : size < 2 ^ 16) (room : transport.headerSize .v4 ≤ content.length) (known : transport ≠ .udp)
    (member : m ∈ (h.respond s k size transport content env).2) :
    ∃ used hw, s.interface = some used ∧ m = (k, h.frame s used hw transport content) ∧
      Sends m.2 transport (s.getSrcAddr h.router) s.dstIpv4Addr content := by
  unfold respond at member
  split at member
  · cases member
  rename_i used interface
  dsimp only at member
  split at member
  · cases member
  rename_i buffer created
  split at member
  · cases member
  rename_i hw found
  split_ifs at member with short
  · cases member
  obtain rfl := List.mem_singleton.mp member
  have block : 34 + size ≤ l.sizeBig.toNat := by
    have le := BitVec.le_def.mp (SharedMemory.le_of_createInstance created)
    have overhead := l.sizeofSendBuffer_lt
    have large := l.sizeBig_le
    rw [BitVec.toNat_add, BitVec.toNat_ofNat] at le
    unfold maxFrameSize at large
    unfold headersSize ethHeaderSize Ipv4Packet.minHeaderSize at le
    omega
  have large : l.sizeBig.toNat ≤ 1518 := l.sizeBig_le
  have small : 20 + content.length < 2 ^ 16 := by omega
  have length := length_frame (h := h) (s := s) used hw room small known
  refine ⟨used, hw, interface, rfl, ?_, length, room, fun rest => netShort_networkBytes rfl rfl, fun rest => ?_⟩
  · rw [length]
    unfold headersSize ethHeaderSize Ipv4Packet.minHeaderSize maxFrameSize
    omega
  · exact Ipv4Packet.carries_ofContent s h.router room small known rest

theorem length_fill (type code : BitVec 8) (quench : BitVec 32) (data : Bytes) (size : Nat) :
    (IcmpPacket.fill type code quench data size).length = 8 + size := by
  unfold IcmpPacket.fill
  rw [List.length_append, length_slice]
  rfl

theorem length_prepareResponse (incoming : Bytes) (payloadLen : BitVec 32) :
    (TcpSegment.prepareResponse incoming payloadLen).length = 20 := by
  unfold TcpSegment.prepareResponse
  dsimp only
  split_ifs <;> rfl

end Ipv4Host

/-! ### Networks -/

variable {ι Λ : Type} [DecidableEq ι] {l : ι → ManagementLayout} {n : ι → Nat}

/-- What a host takes from one of its links. -/
def Ipv4Event.heard {l : ManagementLayout} {n : Nat} (link : Fin n → Λ) : Ipv4Event l n → Option (Λ × Bytes)
  | .arrive k frame _ _ _ => some (link k, frame)
  | _ => none

/-- Hosts with any features, each interface of which is on some link. -/
def ipv4Protocol (c : ι → ResponseConfig) (link : ∀ i, Fin (n i) → Λ) :
    Protocol ι (fun i => Ipv4Host (l i) (n i)) (fun i => Ipv4Event (l i) (n i)) (Λ × Bytes) where
  handle i h e := ((h.step (c i) e).1, (h.step (c i) e).2.map fun m => (link i m.1, m.2))
  hears i := Ipv4Event.heard (link i)

namespace Ipv4Network

variable {c : ι → ResponseConfig} {link : ∀ i, Fin (n i) → Λ}

/-- A frame that some host has been told to send. -/
def transmitted (link : ∀ i, Fin (n i) → Λ) (events : List (Σ i, Ipv4Event (l i) (n i))) (m : Λ × Bytes) : Prop :=
  ∃ i k, link i k = m.1 ∧ ⟨i, .transmit k m.2⟩ ∈ events

def sampleLayout : ManagementLayout where
  tBLOCKSIZE_1 := 128
  tCOUNT_1 := 1
  tBLOCKSIZE_2 := 80
  tCOUNT_2 := 1
  address := 4096
  fits := by decide
  sizeofSendBuffer := 20
  big_buf_cnt_assert := by decide
  small_buf_cnt_assert := by decide
  big_buf_size_assert := by decide
  small_buf_size_assert := by decide
  sizeBig_le := by decide
  sizeofSendBuffer_lt := by decide

/-- A host of the network 10.0.0.0/24 with one interface. -/
def sampleRouter (last : BitVec 8) : Ipv4Router 1 :=
  ⟨fun _ => ⟨⟨true, last ++ 0x00000A#24, false, false⟩, #v[2, 0, 0, 0, 0, .ofBitVec last], 0x00FFFFFF, 1500⟩, 0xFE00000A⟩

def sampleHost (last : BitVec 8) : Ipv4Host sampleLayout 1 := .start (sampleRouter last) false fun _ => 0

def sampleConfig : ResponseConfig := ⟨Sample.clock, true, true, true, true, true⟩

def sampleEnv : ResponseEnv := ⟨0, fun _ => false, some ((sampleRouter 1).interfaces (Fin.last 0)).hwAddr, false⟩

abbrev sampleProtocol : Protocol Bool (fun _ => Ipv4Host sampleLayout 1) (fun _ => Ipv4Event sampleLayout 1) (Unit × Bytes) :=
  ipv4Protocol (fun _ => sampleConfig) fun _ _ => ()

/-- An echo request from 10.0.0.1 to 10.0.0.2 with three bytes of data. -/
def sampleRequest : Bytes :=
  (sampleHost 1).frame ((sampleHost 1).icmp.setDstAddr (sampleRouter 1) 0x0200000A) (Fin.last 0) #v[2, 0, 0, 0, 0, 2] .icmp
    (IcmpPacket.fill IcmpPacket.typeEchoRequest 0 0x01000700 [1, 2, 3] 3)

def sampleExchange : List (Σ _ : Bool, Ipv4Event sampleLayout 1) := [⟨false, .transmit (Fin.last 0) sampleRequest⟩]

end Ipv4Network

end IPStack
