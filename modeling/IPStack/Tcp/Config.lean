import IPStack.Tcp.Segment

namespace IPStack

/-- The operating system's clock (`Clock::ms_to_ticks`, `Clock::ticks_to_ms`). A positive
time is a positive number of ticks, and the tick counter stays in the lower half of its
64-bit range. -/
structure Clock where
  msToTicks : BitVec 32 → BitVec 64
  ticksToMs : BitVec 64 → BitVec 32
  msToTicks_pos : ∀ ms, ms ≠ 0 → msToTicks ms ≠ 0
  msToTicks_lt : ∀ ms, (msToTicks ms).toNat < 2 ^ 63

/-- A clock with one tick a millisecond. -/
def Sample.clock : Clock where
  msToTicks ms := ms.setWidth 64
  ticksToMs ticks := ticks.setWidth 32
  msToTicks_pos ms positive := by bv_omega
  msToTicks_lt ms := by
    have := ms.isLt
    simp only [BitVec.toNat_setWidth]
    omega

/-- A build of the stack: the sizes from the configuration headers and the aspects that
are woven in. -/
structure Config where
  /-- `TCP_HISTORY_MAX_PACKETS`; 1 without the sliding-window history. -/
  historyMaxPackets : Nat
  /-- `TCP_RECEIVEBUFFER_MAX_PACKETS`. -/
  receivebufferMaxPackets : Nat
  /-- The size of the `Packetbuffer` ring, one slot of which stays unused. -/
  packetLimit : Nat
  /-- `TCP_MAX_RETRANSMISSIONS`. -/
  maxRetransmissions : BitVec 8
  /-- `COUNT_BIG` of the socket's pool, given to `setMaxReceiveWindow`. -/
  countBig : BitVec 32
  /-- What `recalculate_mss` computes from the pool's block size and the interface's MTU. -/
  recalculatedMss : BitVec 32
  clock : Clock
  slidingWindowReceive : Bool
  retransmissionCounter : Bool
  retransmissionTracker : Bool
  slowStart : Bool
  rttEstimation : Bool
  /-- `start_RTT_Estimation` runs before the `send` of `sendSegment`. The pointcut names
  `sendNextSegment`, which contains no such call. -/
  rttSampling : Bool
  exponentialBackoff : Bool
  mssOption : Bool
  historyMaxPackets_pos : 0 < historyMaxPackets
  historyMaxPackets_lt : historyMaxPackets < 2 ^ 14

/-- The outcome of one `requestSendBuffer`: a block, no free block, or a block whose
headers could not be prepared (the link layer address stayed unresolved). -/
inductive AllocResult
  | ok
  | noMemory
  | invalid
deriving DecidableEq, Repr

/-- What one step of the socket reads from its surroundings. -/
structure Env where
  /-- `Clock::now()`. -/
  now : BitVec 64
  /-- `getUsedInterface() != 0`. -/
  interface : Bool
  /-- `Interface::hasBeenSent` for the send buffer in a block. -/
  hasBeenSent : Nat → Bool
  /-- The answer to the n-th buffer request of the socket. -/
  alloc : Nat → AllocResult
  /-- The result of `block(timeout)`: true if the timeout was reached. -/
  timeoutReached : Bool
  /-- `hasValidSrcDestAddresses()`. -/
  validAddresses : Bool
  /-- The port `tcp_get_free_port` chooses. -/
  freePort : BitVec 16
  /-- The result of `Demux::bind` for a socket with a port of its own. -/
  bindResult : Bool
  now_lt : now.toNat < 2 ^ 63

end IPStack
