import Mathlib.Algebra.Group.Int.Defs
import Mathlib.Algebra.Group.Nat.Defs
import Mathlib.Order.Lattice
import Mathlib.Order.Defs.LinearOrder
import Mathlib.Tactic.SplitIfs

/-! The sizes of send buffers: what a socket asks of its memory pool, and what it says a
packet may hold. Sizes are those of a 32-bit machine. -/

namespace IPStack

/-- `BasicMempool`: its two block sizes and how many blocks of each are free. -/
structure BasicMempool where
  sizeBig : BitVec 32
  sizeSmall : BitVec 32
  small_le_big : sizeSmall ≤ sizeBig
  freeBig : Nat
  freeSmall : Nat

namespace BasicMempool

def getMaxFreeBlockSize (m : BasicMempool) : BitVec 32 :=
  if 0 < m.freeBig then m.sizeBig else if 0 < m.freeSmall then m.sizeSmall else 0

/-- `alloc`, with the size of the block it returns. -/
def alloc (m : BasicMempool) (size : BitVec 32) : Option (BitVec 32) × BasicMempool :=
  if size ≤ m.sizeSmall ∧ 0 < m.freeSmall then (some m.sizeSmall, { m with freeSmall := m.freeSmall - 1 })
  else if size ≤ m.sizeBig ∧ 0 < m.freeBig then (some m.sizeBig, { m with freeBig := m.freeBig - 1 })
  else (none, m)

variable {m : BasicMempool} {size block : BitVec 32}

theorem alloc_le (allocated : (m.alloc size).1 = some block) : size ≤ block ∧ block ≤ m.getMaxFreeBlockSize := by
  unfold alloc at allocated
  unfold getMaxFreeBlockSize
  by_cases small : size ≤ m.sizeSmall ∧ 0 < m.freeSmall
  · rw [if_pos small] at allocated
    obtain rfl := Option.some.inj allocated
    refine ⟨small.1, ?_⟩
    split_ifs
    · exact m.small_le_big
    · exact BitVec.le_refl _
    · exact absurd small.2 (by assumption)
  · rw [if_neg small] at allocated
    by_cases big : size ≤ m.sizeBig ∧ 0 < m.freeBig
    · rw [if_pos big] at allocated
      obtain rfl := Option.some.inj allocated
      rw [if_pos big.2]
      exact ⟨big.1, BitVec.le_refl _⟩
    · rw [if_neg big] at allocated
      nomatch allocated

theorem exists_alloc (positive : 0 < size) (fits : size ≤ m.getMaxFreeBlockSize) :
    ∃ block, (m.alloc size).1 = some block ∧ size ≤ block := by
  unfold alloc
  unfold getMaxFreeBlockSize at fits
  by_cases small : size ≤ m.sizeSmall ∧ 0 < m.freeSmall
  · rw [if_pos small]
    exact ⟨m.sizeSmall, rfl, small.1⟩
  · rw [if_neg small]
    have big : size ≤ m.sizeBig ∧ 0 < m.freeBig := by
      split_ifs at fits with free rest
      · exact ⟨fits, free⟩
      · exact absurd ⟨fits, rest⟩ small
      · exact absurd (Nat.lt_of_lt_of_le positive fits) (Nat.lt_irrefl _)
    rw [if_pos big]
    exact ⟨m.sizeBig, rfl, big.1⟩

end BasicMempool

/-- A network interface as the send path reads it. -/
structure SendInterface where
  ethernet : Bool
  mtu : BitVec 32
deriving DecidableEq, Repr

inductive IpVersion
  | v4
  | v6
deriving DecidableEq, Repr

/-- The classes that match `%_Socket`. `managementUdp` stands for `Management_UDP_Socket`, whose
UDP header the caller writes. -/
inductive SocketKind
  | tcp
  | udp
  | managementUdp
  | icmp
deriving DecidableEq, Repr

/-- What the header aspects look at in a socket: its class, the IP version in use, and the sizes
of the IPv6 header and of the woven hop-by-hop options. -/
structure Headers where
  kind : SocketKind
  useIpVersion : IpVersion
  ipv6HeaderSize : Nat
  hopByHopMinSize : Nat
  ipv6HeaderSize_lt : ipv6HeaderSize < 2 ^ 8
  hopByHopMinSize_lt : hopByHopMinSize < 2 ^ 8
deriving DecidableEq, Repr

namespace Headers

def ethHeaderSize : Nat := 14

def udpHeaderSize : Nat := 8

/-- `TCP_MIN_HEADER_SIZE`, the result of `getSpecificTCPHeaderSize`. -/
def tcpMinHeaderSize : Nat := 20

/-- `IPv6HopByHop::getSize`: a multiple of eight. -/
def hopByHopSize (h : Headers) : Nat :=
  if h.hopByHopMinSize = 0 then 0
  else if h.hopByHopMinSize % 8 = 0 then h.hopByHopMinSize
  else h.hopByHopMinSize + (8 - h.hopByHopMinSize % 8)

/-- The IP header with its extension headers. -/
def ipSize (h : Headers) : Nat :=
  match h.useIpVersion with
  | .v4 => 20
  | .v6 => h.ipv6HeaderSize + h.hopByHopSize

def ethernetSize (ethernet : Bool) : Nat := if ethernet then ethHeaderSize else 0

/-- `estimateSendBufferMinSize` with the advice of all header aspects. -/
def estimateSendBufferMinSize (h : Headers) (ethernet : Bool) : Nat :=
  ethernetSize ethernet + h.ipSize +
    match h.kind with
    | .udp | .managementUdp => udpHeaderSize
    | .tcp | .icmp => 0

theorem estimate_lt (h : Headers) (ethernet : Bool) : h.estimateSendBufferMinSize ethernet < 2 ^ 16 := by
  have header := h.ipv6HeaderSize_lt
  have options := h.hopByHopMinSize_lt
  have extension : h.hopByHopSize ≤ h.hopByHopMinSize + 8 := by
    unfold hopByHopSize
    split_ifs <;> omega
  have ip : h.ipSize < 2 ^ 10 := by
    unfold ipSize
    split <;> omega
  have link : ethernetSize ethernet ≤ 14 := by
    unfold ethernetSize ethHeaderSize
    split <;> omega
  unfold estimateSendBufferMinSize udpHeaderSize
  split <;> omega

end Headers

/-- A socket as `Socket_Send_Slice` sees it. `sendBufferSize` is `sizeof(SendBuffer)` of the build,
and `resolved` tells whether the link layer address of the next hop can be filled in. -/
structure SendSocket where
  headers : Headers
  interface : Option SendInterface
  mempool : BasicMempool
  sendBufferSize : Nat
  resolved : Bool
  sendBufferSize_pos : 0 < sendBufferSize
  sendBufferSize_lt : sendBufferSize < 2 ^ 16

/-- A send buffer: the size of its block, `m_memsize`, the bytes written so far, and whether it is
in the writing state. -/
structure SendBufferMemory where
  block : BitVec 32
  memsize : BitVec 32
  written : Nat
  writing : Bool
deriving DecidableEq, Repr

namespace SendSocket

def getMtu (s : SendSocket) : BitVec 32 :=
  match s.interface with
  | none => 0
  | some i => i.mtu

/-- `headersize` of `getMaxPayloadLength`. -/
def headerSize (s : SendSocket) : Nat :=
  match s.interface with
  | none => 0
  | some i => s.headers.estimateSendBufferMinSize i.ethernet

/-- The smaller one of the largest free block and the MTU. -/
def limit (s : SendSocket) : BitVec 32 :=
  if s.mempool.getMaxFreeBlockSize < s.getMtu then s.mempool.getMaxFreeBlockSize else s.getMtu

def getMaxPayloadLength (s : SendSocket) : BitVec 32 := s.limit - BitVec.ofNat 32 s.headerSize

/-- `prepareSendBuffer` with the advice of all header aspects. -/
def prepareSendBuffer (s : SendSocket) (i : SendInterface) (b : SendBufferMemory) : SendBufferMemory :=
  { b with
    written := b.written + Headers.ethernetSize i.ethernet + s.headers.ipSize +
      (if s.headers.kind = .udp then Headers.udpHeaderSize else 0)
    writing := s.resolved }

/-- `requestSendBuffer(interface, requestSize)`. A buffer that is not in the writing state behind
`prepareSendBuffer` is not returned to the pool. -/
def requestSendBuffer (s : SendSocket) (i : SendInterface) (requestSize : BitVec 32) : Option SendBufferMemory × SendSocket :=
  let requestedSize := BitVec.ofNat 32 (s.headers.estimateSendBufferMinSize i.ethernet) + requestSize
  let allocated := s.mempool.alloc (requestedSize + BitVec.ofNat 32 s.sendBufferSize)
  match allocated.1 with
  | none => (none, { s with mempool := allocated.2 })
  | some block =>
    let b := s.prepareSendBuffer i ⟨block, requestedSize, 0, true⟩
    (if b.writing then some b else none, { s with mempool := allocated.2 })

/-- The buffer has room for the payload behind its bookkeeping and the headers, and the block for
all of it. -/
structure Holds (s : SendSocket) (i : SendInterface) (n : Nat) (b : SendBufferMemory) : Prop where
  block : s.sendBufferSize + s.headers.estimateSendBufferMinSize i.ethernet + n ≤ b.block.toNat
  memsize : b.written + n ≤ b.memsize.toNat

/-- `getMaxPayloadLength` does not wrap, and a payload of that length gets its buffer. -/
structure PayloadAllocatable (s : SendSocket) : Prop where
  noWrap : s.headerSize ≤ s.limit.toNat
  allocatable : 0 < s.getMaxPayloadLength → ∃ i b, s.interface = some i ∧
    (s.requestSendBuffer i s.getMaxPayloadLength).1 = some b ∧ s.Holds i s.getMaxPayloadLength.toNat b

variable {s : SendSocket} {i : SendInterface}

theorem toNat_limit : s.limit.toNat = min s.mempool.getMaxFreeBlockSize.toNat s.getMtu.toNat := by
  unfold limit
  by_cases less : s.mempool.getMaxFreeBlockSize < s.getMtu
  · rw [if_pos less]
    exact (Nat.min_eq_left (Nat.le_of_lt less)).symm
  · rw [if_neg less]
    exact (Nat.min_eq_right (Nat.le_of_not_lt less)).symm

theorem toNat_getMaxPayloadLength (small : s.headerSize < 2 ^ 16) (noWrap : s.headerSize ≤ s.limit.toNat) :
    s.getMaxPayloadLength.toNat = s.limit.toNat - s.headerSize := by
  have header : (BitVec.ofNat 32 s.headerSize).toNat = s.headerSize := by
    rw [BitVec.toNat_ofNat]
    omega
  rw [getMaxPayloadLength, BitVec.toNat_sub_of_le (by rw [BitVec.le_def]; omega), header]

/-- A request whose sum does not wrap gets a buffer if and only if a free block is large enough
and the headers can be written. -/
theorem requestSendBuffer_iff {n : BitVec 32} (positive : 0 < n)
    (total : s.headers.estimateSendBufferMinSize i.ethernet + n.toNat < 2 ^ 32) :
    (∃ b, (s.requestSendBuffer i n).1 = some b ∧ s.Holds i n.toNat b) ↔
      s.resolved = true ∧
        s.sendBufferSize + s.headers.estimateSendBufferMinSize i.ethernet + n.toNat ≤ s.mempool.getMaxFreeBlockSize.toNat := by
  have header := s.headers.estimate_lt i.ethernet
  have own := s.sendBufferSize_lt
  generalize estimated : s.headers.estimateSendBufferMinSize i.ethernet = size at total header
  have requested : (BitVec.ofNat 32 size + n).toNat = size + n.toNat := by
    rw [BitVec.toNat_add, BitVec.toNat_ofNat]
    omega
  have asked := BitVec.toNat_add (BitVec.ofNat 32 size + n) (BitVec.ofNat 32 s.sendBufferSize)
  rw [requested, BitVec.toNat_ofNat] at asked
  have some_pos : 0 < n.toNat := positive
  have largest := s.mempool.getMaxFreeBlockSize.isLt
  unfold requestSendBuffer
  rw [estimated]
  dsimp only
  generalize BitVec.ofNat 32 size + n + BitVec.ofNat 32 s.sendBufferSize = request at asked
  constructor
  · rintro ⟨b, found, holds⟩
    cases allocated : (s.mempool.alloc request).1 with
    | none =>
      rw [allocated] at found
      nomatch found
    | some block =>
      rw [allocated] at found
      obtain ⟨-, below⟩ := BasicMempool.alloc_le allocated
      rw [BitVec.le_def] at below
      dsimp only at found
      split at found
      · rename_i resolved
        obtain rfl := Option.some.inj found
        have room := holds.block
        rw [estimated] at room
        exact ⟨resolved, Nat.le_trans room below⟩
      · nomatch found
  · rintro ⟨resolved, room⟩
    have positive : 0 < request := show 0 < request.toNat by omega
    have fits : request ≤ s.mempool.getMaxFreeBlockSize := show request.toNat ≤ s.mempool.getMaxFreeBlockSize.toNat by omega
    obtain ⟨block, allocated, above⟩ := BasicMempool.exists_alloc positive fits
    rw [BitVec.le_def] at above
    rw [allocated]
    refine ⟨_, if_pos resolved, ?_, ?_⟩
    · rw [estimated]
      exact Nat.le_trans (by omega) above
    · have headers : Headers.ethernetSize i.ethernet + s.headers.ipSize +
          (if s.headers.kind = .udp then Headers.udpHeaderSize else 0) ≤ size := by
        rw [← estimated]
        unfold Headers.estimateSendBufferMinSize
        cases s.headers.kind with
        | tcp => exact Nat.le_refl _
        | udp => exact Nat.le_refl _
        | managementUdp => exact Nat.add_le_add_left (Nat.zero_le _) _
        | icmp => exact Nat.le_refl _
      dsimp only [prepareSendBuffer]
      omega

/-- The condition under which the answer of `getMaxPayloadLength` can be relied on. -/
def payloadFits (s : SendSocket) : Prop :=
  match s.interface with
  | none => True
  | some i =>
    let header := s.headers.estimateSendBufferMinSize i.ethernet
    header ≤ i.mtu.toNat ∧ header ≤ s.mempool.getMaxFreeBlockSize.toNat ∧
      (header < i.mtu.toNat ∧ header < s.mempool.getMaxFreeBlockSize.toNat →
        s.resolved = true ∧ i.mtu.toNat + s.sendBufferSize ≤ s.mempool.getMaxFreeBlockSize.toNat)

/-- With an interface, a payload that is left gets its buffer if and only if it is large enough. -/
theorem requestSendBuffer_getMaxPayloadLength (used : s.interface = some i) (noWrap : s.headerSize ≤ s.limit.toNat)
    (left : 0 < s.getMaxPayloadLength) :
    (∃ b, (s.requestSendBuffer i s.getMaxPayloadLength).1 = some b ∧ s.Holds i s.getMaxPayloadLength.toNat b) ↔
      s.resolved = true ∧ i.mtu.toNat + s.sendBufferSize ≤ s.mempool.getMaxFreeBlockSize.toNat := by
  have limit := s.toNat_limit
  rw [show s.getMtu = i.mtu by rw [getMtu, used]] at limit
  have header : s.headerSize = s.headers.estimateSendBufferMinSize i.ethernet := by rw [headerSize, used]
  have small := s.headers.estimate_lt i.ethernet
  have own := s.sendBufferSize_pos
  have bounded := s.limit.isLt
  have length := toNat_getMaxPayloadLength (by omega) noWrap
  have some_left : 0 < s.getMaxPayloadLength.toNat := left
  have request := requestSendBuffer_iff (s := s) (i := i) left (by omega)
  rw [request, length]
  exact and_congr_right fun _ => ⟨fun room => by omega, fun room => by omega⟩

theorem payloadFits_of_payloadAllocatable (ok : s.PayloadAllocatable) : s.payloadFits := by
  unfold payloadFits
  cases used : s.interface with
  | none => trivial
  | some i =>
    have limit := s.toNat_limit
    rw [show s.getMtu = i.mtu by rw [getMtu, used]] at limit
    have header : s.headerSize = s.headers.estimateSendBufferMinSize i.ethernet := by rw [headerSize, used]
    have noWrap := ok.noWrap
    have small := s.headers.estimate_lt i.ethernet
    have length := toNat_getMaxPayloadLength (by omega) noWrap
    dsimp only
    refine ⟨by omega, by omega, fun both => ?_⟩
    have left : 0 < s.getMaxPayloadLength := show 0 < s.getMaxPayloadLength.toNat by omega
    obtain ⟨i', b, used', found, holds⟩ := ok.allocatable left
    obtain rfl := Option.some.inj (used.symm.trans used')
    exact (requestSendBuffer_getMaxPayloadLength used noWrap left).mp ⟨b, found, holds⟩

theorem payloadAllocatable_of_payloadFits (fits : s.payloadFits) : s.PayloadAllocatable := by
  have limit := s.toNat_limit
  unfold payloadFits at fits
  cases used : s.interface with
  | none =>
    have header : s.headerSize = 0 := by rw [headerSize, used]
    have noWrap : s.headerSize ≤ s.limit.toNat := by omega
    have zero := toNat_getMaxPayloadLength (by omega) noWrap
    rw [show s.getMtu = 0 by rw [getMtu, used]] at limit
    refine ⟨noWrap, fun left => ?_⟩
    have some_left : 0 < s.getMaxPayloadLength.toNat := left
    have nothing : (0 : BitVec 32).toNat = 0 := rfl
    omega
  | some i =>
    rw [used] at fits
    dsimp only at fits
    rw [show s.getMtu = i.mtu by rw [getMtu, used]] at limit
    have header : s.headerSize = s.headers.estimateSendBufferMinSize i.ethernet := by rw [headerSize, used]
    have noWrap : s.headerSize ≤ s.limit.toNat := by omega
    have small := s.headers.estimate_lt i.ethernet
    have length := toNat_getMaxPayloadLength (by omega) noWrap
    refine ⟨noWrap, fun left => ?_⟩
    have some_left : 0 < s.getMaxPayloadLength.toNat := left
    obtain ⟨b, found, holds⟩ := (requestSendBuffer_getMaxPayloadLength used noWrap left).mpr (fits.2.2 (by omega))
    exact ⟨i, b, used, found, holds⟩

/-- The answer of `getMaxPayloadLength` can be relied on if and only if the condition holds. -/
theorem payloadAllocatable_iff : s.PayloadAllocatable ↔ s.payloadFits :=
  ⟨payloadFits_of_payloadAllocatable, payloadAllocatable_of_payloadFits⟩

/-- A pool whose big block is as large as the MTU. -/
theorem fullBlock_refused : ¬∀ s : SendSocket, s.PayloadAllocatable := by
  intro always
  have ok := always
    { headers := ⟨.udp, .v4, 40, 0, by decide, by decide⟩, interface := some ⟨true, 1500⟩
      mempool := ⟨1500, 64, by decide, 1, 1⟩, sendBufferSize := 20, resolved := true
      sendBufferSize_pos := by decide, sendBufferSize_lt := by decide }
  have fits := payloadFits_of_payloadAllocatable ok
  exact absurd (fits.2.2 ⟨by decide, by decide⟩).2 (by decide)

end SendSocket

end IPStack
