import IPStack.Socket.SendBuffers
import IPStack.Tcp.Calls

/-! Whether a segment of the maximum size fits the MTU and the blocks of the pool. -/

namespace IPStack

namespace TcpSocket

variable {c : Config} {s : TcpSocket}

theorem setMss_mss (maxSegmentSize : BitVec 32) : (s.setMss c maxSegmentSize).mss = maxSegmentSize := by
  unfold setMss initSlowStart
  split <;> rfl

/-- The smaller one of the own MSS and the announced one, which may be missing. -/
theorem adoptMss_mss {segment : TcpSegment} (woven : c.mssOption = true) (syn : segment.syn = true) :
    (s.adoptMss c segment).mss =
      if segment.optionMss ≠ 0 ∧ segment.optionMss.setWidth 32 < s.mss then segment.optionMss.setWidth 32 else s.mss := by
  unfold adoptMss
  simp only [woven, syn, true_and]
  split
  · exact setMss_mss _
  · rfl

end TcpSocket

namespace SendSocket

open Headers

variable {s : SendSocket} {i : SendInterface} {mss : BitVec 32}

/-- `estimateSendBufferMinSize` as `recalculate_mss` calls it. Without an interface the Ethernet
advice reads the type through the null pointer, with the result `nullEthernet`. -/
def estimated (s : SendSocket) (nullEthernet : Bool) : Nat :=
  s.headers.estimateSendBufferMinSize <|
    match s.interface with
    | none => nullEthernet
    | some i => i.ethernet

/-- What `recalculate_mss` gives to `setMSS`. -/
def recalculateMss (s : SendSocket) (nullEthernet : Bool) : BitVec 32 :=
  let headersize := BitVec.ofNat 32 (s.estimated nullEthernet)
  if s.mempool.sizeBig < s.getMtu then s.mempool.sizeBig - headersize else s.getMtu - headersize

/-- The same socket at a time when the pool has other free blocks. -/
def withFree (s : SendSocket) (freeBig freeSmall : Nat) : SendSocket :=
  { s with mempool := { s.mempool with freeBig := freeBig, freeSmall := freeSmall } }

/-- The subtraction of `recalculate_mss` does not wrap, the MSS is not zero, and a segment with that
many bytes fits the MTU and one big block, which `requestSendBufferTCP` gets if one is free. -/
structure FeasibleMss (s : SendSocket) (nullEthernet : Bool) (mss : BitVec 32) : Prop where
  noWrap : s.estimated nullEthernet ≤ min s.mempool.sizeBig.toNat s.getMtu.toNat
  nonzero : mss ≠ 0
  packet : s.headers.ipSize + tcpMinHeaderSize + mss.toNat ≤ s.getMtu.toNat
  block : s.sendBufferSize + s.estimated nullEthernet + tcpMinHeaderSize + mss.toNat ≤ s.mempool.sizeBig.toNat
  granted : ∀ i freeBig freeSmall, s.interface = some i → 0 < freeBig → s.resolved = true →
    ∃ b, ((s.withFree freeBig freeSmall).requestSendBuffer i (BitVec.ofNat 32 tcpMinHeaderSize + mss)).1 = some b

/-- The peer announced an MSS that fits the MTU and a big block. -/
def peerFits (s : SendSocket) (announced : BitVec 16) : Prop :=
  match s.interface with
  | none => False
  | some i => announced ≠ 0 ∧ s.headers.ipSize + tcpMinHeaderSize + announced.toNat ≤ i.mtu.toNat ∧
      s.sendBufferSize + s.headers.estimateSendBufferMinSize i.ethernet + tcpMinHeaderSize + announced.toNat ≤
        s.mempool.sizeBig.toNat

/-- The TCP header is not among the headers of the estimate. -/
theorem estimate_tcp (tcp : s.headers.kind = .tcp) (ethernet : Bool) :
    s.headers.ipSize ≤ s.headers.estimateSendBufferMinSize ethernet ∧
      s.headers.estimateSendBufferMinSize ethernet ≤ s.headers.ipSize + 14 := by
  unfold estimateSendBufferMinSize ethernetSize ethHeaderSize
  rw [tcp]
  dsimp only
  split <;> omega

theorem exists_requestSendBuffer {freeBig freeSmall : Nat} (fits : s.sendBufferSize +
      s.headers.estimateSendBufferMinSize i.ethernet + tcpMinHeaderSize + mss.toNat ≤ s.mempool.sizeBig.toNat)
    (left : 0 < freeBig) (resolved : s.resolved = true) :
    ∃ b, ((s.withFree freeBig freeSmall).requestSendBuffer i (BitVec.ofNat 32 tcpMinHeaderSize + mss)).1 = some b := by
  have bounded := s.mempool.sizeBig.isLt
  have total : (BitVec.ofNat 32 tcpMinHeaderSize + mss).toNat = tcpMinHeaderSize + mss.toNat := by
    unfold tcpMinHeaderSize at fits ⊢
    rw [BitVec.toNat_add, BitVec.toNat_ofNat]
    omega
  have largest : (s.withFree freeBig freeSmall).mempool.getMaxFreeBlockSize = s.mempool.sizeBig := if_pos left
  have request := requestSendBuffer_iff (s := s.withFree freeBig freeSmall) (i := i)
    (n := BitVec.ofNat 32 tcpMinHeaderSize + mss)
  rw [largest, total] at request
  have positive : 0 < BitVec.ofNat 32 tcpMinHeaderSize + mss := by
    rw [BitVec.lt_def, total]
    exact Nat.lt_add_right _ (by decide)
  have sum : s.headers.estimateSendBufferMinSize i.ethernet + (tcpMinHeaderSize + mss.toNat) < 2 ^ 32 := by omega
  have room : s.sendBufferSize + s.headers.estimateSendBufferMinSize i.ethernet + (tcpMinHeaderSize + mss.toNat) ≤
      s.mempool.sizeBig.toNat := by omega
  obtain ⟨b, found, -⟩ := (request positive sum).mpr ⟨resolved, room⟩
  exact ⟨b, found⟩

theorem toNat_recalculateMss {nullEthernet : Bool}
    (noWrap : s.estimated nullEthernet ≤ min s.mempool.sizeBig.toNat s.getMtu.toNat) :
    (s.recalculateMss nullEthernet).toNat = min s.mempool.sizeBig.toNat s.getMtu.toNat - s.estimated nullEthernet := by
  have bounded := s.mempool.sizeBig.isLt
  have header : (BitVec.ofNat 32 (s.estimated nullEthernet)).toNat = s.estimated nullEthernet := by
    rw [BitVec.toNat_ofNat]
    omega
  unfold recalculateMss
  dsimp only
  by_cases less : s.mempool.sizeBig < s.getMtu
  · have order : s.mempool.sizeBig.toNat < s.getMtu.toNat := less
    rw [if_pos less, BitVec.toNat_sub_of_le (show _ ≤ _ by rw [BitVec.le_def]; omega), header]
    omega
  · have order : ¬s.mempool.sizeBig.toNat < s.getMtu.toNat := less
    rw [if_neg less, BitVec.toNat_sub_of_le (show _ ≤ _ by rw [BitVec.le_def]; omega), header]
    omega

/-- The own value is never feasible: the limit, less than the headers without the one of TCP, is too
large for the MTU or, with the bookkeeping, for the block. -/
theorem not_feasibleMss_own (tcp : s.headers.kind = .tcp) {nullEthernet : Bool} :
    ¬s.FeasibleMss nullEthernet (s.recalculateMss nullEthernet) := by
  intro feasible
  have value := toNat_recalculateMss feasible.noWrap
  have packet := feasible.packet
  have block := feasible.block
  have own := s.sendBufferSize_pos
  have noWrap := feasible.noWrap
  unfold tcpMinHeaderSize at packet block
  have headers : s.estimated nullEthernet ≤ s.headers.ipSize + 14 := (estimate_tcp tcp _).2
  omega

/-- A peer's value that fits is smaller than the own one and replaces it. -/
theorem peerFits_lt (tcp : s.headers.kind = .tcp) (used : s.interface = some i) (nullEthernet : Bool) {announced : BitVec 16}
    (fits : s.peerFits announced) : s.estimated nullEthernet ≤ min s.mempool.sizeBig.toNat s.getMtu.toNat ∧
      announced.setWidth 32 < s.recalculateMss nullEthernet := by
  unfold peerFits at fits
  have mtu : s.getMtu = i.mtu := by rw [getMtu, used]
  have same : s.estimated nullEthernet = s.headers.estimateSendBufferMinSize i.ethernet := by rw [estimated, used]
  rw [used] at fits
  obtain ⟨-, packet, block⟩ := fits
  have headers := (estimate_tcp tcp i.ethernet).2
  unfold tcpMinHeaderSize at packet block
  have noWrap : s.estimated nullEthernet ≤ min s.mempool.sizeBig.toNat s.getMtu.toNat := by
    rw [same, mtu]
    omega
  refine ⟨noWrap, ?_⟩
  have width : (announced.setWidth 32).toNat = announced.toNat := by
    have := announced.isLt
    rw [BitVec.toNat_setWidth]
    omega
  rw [BitVec.lt_def, toNat_recalculateMss noWrap, width, same, mtu]
  omega

/-- After `recalculate_mss` and the handshake the MSS is feasible if and only if the peer's value is. -/
theorem feasibleMss_iff {c : Config} (woven : c.mssOption = true) (tcp : s.headers.kind = .tcp) (nullEthernet : Bool)
    (t : TcpSocket) {segment : TcpSegment} (syn : segment.syn = true) :
    s.FeasibleMss nullEthernet ((t.setMss c (s.recalculateMss nullEthernet)).adoptMss c segment).mss ↔
      s.peerFits segment.optionMss := by
  rw [TcpSocket.adoptMss_mss woven syn, TcpSocket.setMss_mss]
  have width : (segment.optionMss.setWidth 32).toNat = segment.optionMss.toNat := by
    have := segment.optionMss.isLt
    rw [BitVec.toNat_setWidth]
    omega
  cases used : s.interface with
  | none =>
    refine iff_of_false (fun feasible => ?_) (fun fits => by unfold peerFits at fits; rwa [used] at fits)
    have packet := feasible.packet
    rw [getMtu, used] at packet
    unfold tcpMinHeaderSize at packet
    exact absurd packet (show ¬_ ≤ 0 by omega)
  | some i =>
    have mtu : s.getMtu = i.mtu := by rw [getMtu, used]
    have same : s.estimated nullEthernet = s.headers.estimateSendBufferMinSize i.ethernet := by rw [estimated, used]
    constructor
    · intro feasible
      by_cases adopted : segment.optionMss ≠ 0 ∧ segment.optionMss.setWidth 32 < s.recalculateMss nullEthernet
      · rw [if_pos adopted] at feasible
        have packet := feasible.packet
        have block := feasible.block
        rw [width, mtu] at packet
        rw [width, same] at block
        unfold peerFits
        rw [used]
        exact ⟨adopted.1, packet, block⟩
      · rw [if_neg adopted] at feasible
        exact absurd feasible (not_feasibleMss_own tcp)
    · intro fits
      obtain ⟨noWrap, smaller⟩ := peerFits_lt tcp used nullEthernet fits
      unfold peerFits at fits
      rw [used] at fits
      obtain ⟨announced, packet, block⟩ := fits
      rw [if_pos ⟨announced, smaller⟩]
      refine ⟨noWrap, fun zero => announced ?_, by rwa [width, mtu], by rwa [width, same], ?_⟩
      · apply BitVec.eq_of_toNat_eq
        rw [← width, zero]
        rfl
      · rintro i' freeBig freeSmall used' left resolved
        obtain rfl := Option.some.inj (used.symm.trans used')
        exact exists_requestSendBuffer (by rwa [width]) left resolved

/-- A socket with big blocks of 1514 bytes. -/
def sample (interface : Option SendInterface) : SendSocket where
  headers := ⟨.tcp, .v4, 40, 0, by decide, by decide⟩
  interface := interface
  mempool := ⟨1514, 64, by decide, 1, 1⟩
  sendBufferSize := 20
  resolved := true
  sendBufferSize_pos := by decide
  sendBufferSize_lt := by decide

/-- An Ethernet, and a peer that announces the default MSS. -/
theorem feasibleMss_default :
    (sample (some ⟨true, 1500⟩)).FeasibleMss false
      ((Sample.memory.setMss { Sample.config with mssOption := true } ((sample (some ⟨true, 1500⟩)).recalculateMss false)).adoptMss
        { Sample.config with mssOption := true } { Sample.segment 0 0 0 [] with syn := true, optionMss := 536 }).mss :=
  (feasibleMss_iff rfl rfl false Sample.memory rfl).mpr ⟨by decide, by decide, by decide⟩

/-- The MSS that the constructor computes, before the socket has an interface, and a peer without the
option. -/
theorem noInterface_infeasible : ¬∀ (c : Config) (s : SendSocket) (nullEthernet : Bool) (t : TcpSocket) (segment : TcpSegment),
    c.mssOption = true → s.headers.kind = .tcp → segment.syn = true →
      s.FeasibleMss nullEthernet ((t.setMss c (s.recalculateMss nullEthernet)).adoptMss c segment).mss := by
  intro always
  have feasible := always { Sample.config with mssOption := true } (sample none) false Sample.memory
    { Sample.segment 0 0 0 [] with syn := true } rfl rfl rfl
  exact absurd feasible.noWrap (by decide)

end SendSocket

end IPStack
