import IPStack.Ipv4.ResponseRuns

/-! What echo requests are answered with. -/

namespace IPStack

open Bytes EthFrame

namespace Ipv4Packet

variable {p : Bytes} {transport : Transport} {src dst : BitVec 32} {content : Bytes}

/-- At the interface that has its destination a packet is passed on in full. -/
theorem Carries.passed (carries : Carries p transport src dst content) (clock : Clock) {interface : Interface}
    (up : interface.ipv4Up = true) (ours : interface.ipv4Addr = dst) (now : BitVec 64) (r : Reassembly) {len : Nat}
    (whole : 20 + content.length ≤ len) : (r.ipv4Receive clock interface now p len).2 = .passed p (20 + content.length) := by
  have accepted := carries.accepted up whole
  have length : validPacketLength p len = 20 + content.length := (validPacketLength_spec accepted.2.1).1.trans carries.total
  have same : ¬getDstIpaddr p ≠ interface.ipv4Addr := not_not_intro (carries.dstIpaddr.trans ours.symm)
  unfold Reassembly.ipv4Receive
  rw [if_neg (not_not_intro accepted), if_neg same, if_neg carries.not_isFragment, length]

end Ipv4Packet

theorem Ipv4OnSocket.dstIpv4Addr_setDstAddr {n : Nat} {s : Ipv4OnSocket n} {r : Ipv4Router n} {dst : BitVec 32} :
    (s.setDstAddr r dst).dstIpv4Addr = dst := by
  unfold setDstAddr resolveRoute
  split
  · rfl
  · rfl

namespace Ipv4Host

variable {l : ManagementLayout} {n : Nat} {c : ResponseConfig} {h : Ipv4Host l n} {s : Ipv4OnSocket n} {k used : Fin n} {hw : HwAddr}
  {size : Nat} {transport : Transport} {content packet : Bytes} {env : ResponseEnv}

/-- What it takes to send `size` bytes from a management socket: a route, memory, and the hardware
address of the next hop. -/
structure CanSend (h : Ipv4Host l n) (s : Ipv4OnSocket n) (size : Nat) (env : ResponseEnv) (used : Fin n) (hw : HwAddr) : Prop where
  route : s.interface = some used
  memory : (h.memory.createInstance (.ofNat 32 (headersSize + size)) env.hasBeenSent).1.isSome
  address : (Ipv4Interface.groupAddress (s.getNexthopIpaddr h.router)).or env.lookup = some hw

/-- The socket that answers an ICMP message. -/
def answering (h : Ipv4Host l n) (packet : Bytes) : Ipv4OnSocket n :=
  h.icmp.setDstAddr h.router (Ipv4Packet.getSrcIpaddr packet)

/-- A granted message fits into a block, so it is no longer than a frame. -/
theorem CanSend.small (able : h.CanSend s size env used hw) (fits : size < 2 ^ 16) : headersSize + size ≤ maxFrameSize := by
  obtain ⟨buffer, created⟩ := Option.isSome_iff_exists.mp able.memory
  have le := BitVec.le_def.mp (SharedMemory.le_of_createInstance created)
  have overhead := l.sizeofSendBuffer_lt
  have large := l.sizeBig_le
  have header : headersSize = 34 := rfl
  rw [BitVec.toNat_add, BitVec.toNat_ofNat] at le
  omega

theorem step_eq {frame padding behind : Bytes} {len : Nat} (runs : h.crashed = false ∧ h.reassembly.crashed = false)
    (legal : ethHeaderSize ≤ frame.length + padding.length ∧ frame.length + padding.length ≤ maxFrameSize)
    (type : EthFrame.getType (frame ++ padding ++ behind) = Ipv4Packet.ethTypeIpv4)
    (passed : (h.reassembly.ipv4Receive c.clock (h.router.interfaces k).toInterface env.now
      (EthFrame.getData (frame ++ padding ++ behind)) (frame.length + padding.length - ethHeaderSize)).2 = .passed packet len) :
    ∃ reassembly, h.step c (.arrive k frame padding behind env) =
      { h with reassembly := reassembly }.ipv4Protocols c packet len k env := by
  have legal' : ¬(frame.length + padding.length < ethHeaderSize ∨ maxFrameSize < frame.length + padding.length) := by omega
  refine ⟨(h.reassembly.ipv4Receive c.clock (h.router.interfaces k).toInterface env.now
    (EthFrame.getData (frame ++ padding ++ behind)) (frame.length + padding.length - ethHeaderSize)).1, ?_⟩
  unfold step
  dsimp only
  rw [if_neg (by rw [runs.1, runs.2]; decide)]
  unfold demux
  rw [if_neg legal', if_neg (not_not_intro type)]
  unfold ipv4Demux
  dsimp only
  rw [passed]

end Ipv4Host

namespace Ipv4Network

variable {ι Λ : Type} [DecidableEq ι] {l : ι → ManagementLayout} {n : ι → Nat} {c : ι → ResponseConfig}
  {link : ∀ i, Fin (n i) → Λ}

end Ipv4Network

end IPStack
