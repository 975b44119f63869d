import IPStack.Ipv4.ResponseRuns
import IPStack.Socket.SharedMemoryRecovery

/-! Hosts that answer whatever arrives, and neither crash nor lose memory. -/

namespace IPStack

open EthFrame

/-- There is a route to every address, and an ICMP message without data fits into a frame of every interface. -/
structure Ipv4Router.Complete {n : Nat} (r : Ipv4Router n) : Prop where
  gateway : (r.ipv4FindRoute r.ipv4GatewayAddr).isSome
  mtu : ∀ k, 42 ≤ (r.interfaces k).mtu.toNat

theorem Ipv4Router.Complete.setDstAddr {n : Nat} {r : Ipv4Router n} (complete : r.Complete) (s : Ipv4OnSocket n) (dst : BitVec 32) :
    ((s.setDstAddr r dst).interface).isSome := by
  unfold Ipv4OnSocket.setDstAddr Ipv4OnSocket.resolveRoute
  split
  · rfl
  · exact complete.gateway

/-- The routes stay complete, and the other users of the memory only finish buffers. -/
def Ipv4Event.orderly {l : ManagementLayout} {n : Nat} : Ipv4Event l n → Prop
  | .arrive _ _ _ _ _ => True
  | .transmit _ _ => True
  | .setRouter router => router.Complete
  | .manage call => call.finishes

namespace Ipv4Host

variable {l : ManagementLayout} {n : Nat} {c : ResponseConfig} {h : Ipv4Host l n} {s : Ipv4OnSocket n} {k : Fin n}
  {size : Nat} {transport : Transport} {content packet : Bytes} {env : ResponseEnv}

/-- What happens to a host that answers. -/
structure Survives (h h' : Ipv4Host l n) : Prop where
  router : h'.router = h.router
  crashed : h'.crashed = h.crashed
  accounts : (∃ pools, h.memory.Accounts pools) → ∃ pools, h'.memory.Accounts pools
  settled : h.memory.Settled → h'.memory.Settled

theorem Survives.refl (h : Ipv4Host l n) : Survives h h := ⟨rfl, rfl, id, id⟩

theorem respond_survives (h : Ipv4Host l n) (k : Fin n) (transport : Transport) (env : ResponseEnv)
    (route : s.interface.isSome) (fits : content.length ≤ size) : Survives h (h.respond s k size transport content env).1.1 := by
  obtain ⟨used, route⟩ := Option.isSome_iff_exists.mp route
  unfold respond
  rw [route]
  dsimp only
  have accounts : (∃ pools, h.memory.Accounts pools) →
      ∃ pools, (h.memory.createInstance (.ofNat 32 (headersSize + size)) env.hasBeenSent).2.Accounts pools :=
    fun ⟨_, before⟩ => before.createInstance _ _
  split
  · rename_i refused
    exact ⟨rfl, rfl, accounts, fun settled => settled.createInstance_none refused⟩
  rename_i buffer created
  split
  · exact ⟨rfl, rfl, fun before => (accounts before).elim fun _ after => after.step (.setState buffer SendBuffer.invalidState),
      fun settled => settled.createInstance_some created (.inl rfl)⟩
  rename_i hw address
  rw [if_neg (Nat.not_lt.mpr fits)]
  exact ⟨rfl, rfl, fun before => (accounts before).elim fun _ after => after.step (.setState buffer SendBuffer.transmittedState),
    fun settled => settled.createInstance_some created (.inr rfl)⟩

theorem respondIcmp_survives (route : s.interface.isSome) (fits : content.length ≤ size) :
    Survives h (h.respondIcmp s k size content env).1 := by
  obtain ⟨router, crashed, accounts, settled⟩ := respond_survives h k .icmp env route fits
  exact ⟨router, crashed, accounts, settled⟩

variable (small : 42 ≤ l.sizeSmall.toNat) (complete : h.router.Complete)
include small complete

/-- There is room for the header of an ICMP message whenever there is memory at all. -/
theorem getMaxPayloadLength_ge (route : s.interface.isSome) : 8 ≤ ((h.getMaxPayloadLength s).setWidth 16).toNat := by
  obtain ⟨used, route⟩ := Option.isSome_iff_exists.mp route
  have mtu := complete.mtu used
  have ordered := BitVec.le_def.mp l.small_le_big
  have large : l.sizeBig.toNat ≤ 1518 := l.sizeBig_le
  have block : h.memory.mempool.getMaxFreeBlockSize.toNat = 0 ∨
      42 ≤ h.memory.mempool.getMaxFreeBlockSize.toNat ∧ h.memory.mempool.getMaxFreeBlockSize.toNat ≤ 1518 := by
    unfold PlacedMempool.getMaxFreeBlockSize
    split_ifs
    · omega
    · omega
    · exact .inl rfl
  unfold getMaxPayloadLength
  rw [route]
  dsimp only
  generalize h.memory.mempool.getMaxFreeBlockSize = memsize at block ⊢
  rw [BitVec.toNat_setWidth, BitVec.toNat_sub, show (BitVec.ofNat 32 headersSize).toNat = 34 from rfl]
  by_cases less : memsize < (h.router.interfaces used).mtu
  · rw [if_pos less]
    omega
  · rw [if_neg less]
    have more : (h.router.interfaces used).mtu.toNat ≤ memsize.toNat := BitVec.le_def.mp (BitVec.not_lt.mp less)
    omega

theorem echoReply_survives {payloadlen : Nat} (room : 8 ≤ payloadlen) : Survives h (h.echoReply packet payloadlen k env).1 := by
  have route := complete.setDstAddr h.icmp (Ipv4Packet.getSrcIpaddr packet)
  have least := getMaxPayloadLength_ge small complete route
  refine respondIcmp_survives route ?_
  rw [length_fill]
  unfold IcmpPacket.headerSize
  split_ifs <;> omega

omit small

theorem unreachable_survives (code : BitVec 8) : Survives h (h.unreachable code packet k env).1 := by
  refine respondIcmp_survives (complete.setDstAddr h.icmp _) ?_
  rw [length_fill]
  unfold IcmpPacket.headerSize
  omega

theorem errorNoProtocolHandler_survives : Survives h (h.errorNoProtocolHandler c packet k env).1 := by
  unfold errorNoProtocolHandler
  split_ifs
  · exact unreachable_survives complete _
  · exact .refl h

theorem tcpReset_survives : Survives h (h.tcpReset c packet k env).1 := by
  unfold tcpReset
  dsimp only
  split_ifs
  · exact errorNoProtocolHandler_survives complete
  · exact .refl h
  · obtain ⟨router, crashed, accounts, settled⟩ := respond_survives h k .tcp env
      (complete.setDstAddr h.reset (Ipv4Packet.getSrcIpaddr packet))
      (length_prepareResponse (Ipv4Packet.getData packet) _).le
    exact ⟨router, crashed, accounts, settled⟩

include small

theorem ipv4Protocols_survives (c : ResponseConfig) (packet : Bytes) (len : Nat) (k : Fin n) (env : ResponseEnv) : Survives h (h.ipv4Protocols c packet len k env).1 := by
  unfold ipv4Protocols
  split_ifs
  · unfold receiveTcp
    dsimp only
    split_ifs
    · exact .refl h
    · exact .refl h
    · exact .refl h
    · exact tcpReset_survives complete
  · unfold receiveUdp errorPortNotReachable
    dsimp only
    split_ifs
    · exact .refl h
    · exact .refl h
    · exact .refl h
    · exact unreachable_survives complete _
    · exact .refl h
  · unfold receiveIcmp
    dsimp only
    split_ifs with short
    · exact .refl h
    · exact .refl h
    · exact echoReply_survives small complete (Nat.not_lt.mp short)
    · exact .refl h
  · exact errorNoProtocolHandler_survives complete

theorem demux_survives (c : ResponseConfig) (k : Fin n) (env : ResponseEnv) (memory : Bytes) (framelen : Nat) :
    Survives h (h.demux c memory framelen k env).1 := by
  unfold demux ipv4Demux
  split_ifs
  · exact .refl h
  · exact .refl h
  · generalize h.reassembly.ipv4Receive c.clock _ env.now _ _ = received
    dsimp only
    split
    · obtain ⟨router, crashed, accounts, settled⟩ :=
        ipv4Protocols_survives (h := { h with reassembly := received.1 }) small complete c _ _ k env
      exact ⟨router, crashed, accounts, settled⟩
    · exact ⟨rfl, rfl, id, id⟩
    · exact ⟨rfl, rfl, id, id⟩

omit small complete

/-! ### Runs -/

/-- The invariant. -/
structure Sound (h : Ipv4Host l n) : Prop where
  complete : h.router.Complete
  crashed : h.crashed = false
  accounts : ∃ pools, h.memory.Accounts pools
  settled : h.memory.Settled

theorem Sound.step (small : 42 ≤ l.sizeSmall.toNat) (sound : h.Sound) {e : Ipv4Event l n} (orderly : e.orderly) :
    (h.step c e).1.Sound := by
  cases e with
  | arrive k frame padding behind env =>
    unfold Ipv4Host.step
    dsimp only
    split_ifs
    · exact sound
    · obtain ⟨router, crashed, accounts, settled⟩ :=
        demux_survives small sound.complete c k env (frame ++ padding ++ behind) (frame.length + padding.length)
      exact ⟨router ▸ sound.complete, crashed.trans sound.crashed, accounts sound.accounts, settled sound.settled⟩
  | transmit k frame => exact sound
  | setRouter router => exact ⟨orderly, sound.crashed, sound.accounts, sound.settled⟩
  | manage call =>
    exact ⟨sound.complete, sound.crashed, sound.accounts.elim fun _ before => before.step call, sound.settled.step orderly⟩

theorem Sound.run (small : 42 ≤ l.sizeSmall.toNat) (sound : h.Sound) {events : List (Ipv4Event l n)}
    (orderly : ∀ e ∈ events, e.orderly) : (events.foldl (fun h e => (h.step c e).1) h).Sound := by
  induction events generalizing h with
  | nil => exact sound
  | cons e rest ih =>
    obtain ⟨first, later⟩ := List.forall_mem_cons.mp orderly
    exact ih (sound.step small first) later

end Ipv4Host

end IPStack
