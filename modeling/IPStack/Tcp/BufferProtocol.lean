import IPStack.Tcp.KarnRuns
import IPStack.Tcp.Ownership

/-! The send buffers while a step runs: what the interface has been given and has not sent stays in
the history. -/

namespace IPStack

open Serial TcpSocket Transition

/-- A repeated SYN of the peer. -/
def Round.repeatsSyn (d : Round) : Prop :=
  ∃ r ∈ d.input, r.segment.rst = false ∧ r.segment.ack = false ∧ r.segment.syn = true

/-- The handshake ends with this segment, or our SYN and the peer's cross. -/
def Round.endsHandshake (d : Round) : Prop :=
  ∃ r ∈ d.input,
    d.start.state = .synsent ∧ r.segment.syn = true ∧ (r.segment.ack = true → r.segment.acknum = d.start.seqnumNext) ∨
      d.start.state = .synrcvd ∧ r.segment.rst = false ∧ r.segment.ack = true ∧ r.segment.acknum = d.start.seqnumNext

/-- The step frees every buffer of the history. -/
def Round.clears (d : Round) : Prop := d.aborts = true ∨ d.updates = true ∧ d.env.interface = false ∨ d.endsHandshake

instance (d : Round) : Decidable d.repeatsSyn := inferInstanceAs (Decidable (∃ r ∈ d.input, _))

instance (d : Round) : Decidable d.endsHandshake := inferInstanceAs (Decidable (∃ r ∈ d.input, _))

instance (d : Round) : Decidable d.clears := inferInstanceAs (Decidable (_ ∨ _))

/-- The step frees the buffer. A record without timeout is not meant: `updateHistory` asks whether it
has been sent. -/
def Round.frees (d : Round) (r : TcpRecord) : Prop :=
  d.clears ∨ d.updates = true ∧ r.timeout ≠ 0 ∧ seqLt r.segment.seqnum d.start.seqnumUnacked

instance (d : Round) (r : TcpRecord) : Decidable (d.frees r) := inferInstanceAs (Decidable (_ ∨ _))

variable {c : Config} {d : Round} {e : Env} {s s' : TcpSocket} {given held held' : List Nat}

/-! ### The blocks of the buffers -/

/-- The interface has the buffer: it was given to it before, or in this step together with its block. -/
def Round.Busy (d : Round) (given : List Nat) (s : TcpSocket) (block : Nat) : Prop :=
  d.env.hasBeenSent block = false ∧
    (block ∈ given ∨ d.arrival = none ∧ d.start.mempool.nextBlock ≤ block ∧ block < s.mempool.nextBlock)

/-- Every buffer that the interface has is in the history, or lost since its headers could not be
prepared. -/
structure Holding (d : Round) (given held lost : List Nat) (s : TcpSocket) : Prop where
  once : BlocksOnce (held ++ lost) s
  kept : ∀ block, d.Busy given s block → block ∈ s.history.map TcpRecord.block ∨ block ∈ lost

namespace Holding

variable {lost : List Nat}

/-- No block is taken from the pool. -/
theorem stay (holding : Holding d given held lost s) (once : BlocksOnce (held' ++ lost) s')
    (next : s'.mempool.nextBlock = s.mempool.nextBlock)
    (kept : ∀ block ∈ s.history.map TcpRecord.block, d.Busy given s block → block ∈ s'.history.map TcpRecord.block) :
    Holding d given held' lost s' where
  once := once
  kept block busy := by
    unfold Round.Busy at busy
    rw [next] at busy
    rcases holding.kept block busy with inHistory | inLost
    · exact .inl (kept block inHistory busy)
    · exact .inr inLost

theorem same (holding : Holding d given held lost s) (owned : s'.owned = s.owned)
    (pool : s'.mempool.freed = s.mempool.freed ∧ s'.mempool.nextBlock = s.mempool.nextBlock)
    (history : s'.history.map TcpRecord.block = s.history.map TcpRecord.block) : Holding d given held lost s' :=
  holding.stay (holding.once.same owned pool) pool.2 fun _ member _ => history ▸ member

/-- A new buffer goes to the history as it goes to the interface. -/
theorem sent (holding : Holding d given held lost s) {record : TcpRecord} (block : record.block = s.mempool.nextBlock)
    (frame : s'.packetbuffer = s.packetbuffer ∧ s'.receiveBuffer.list = s.receiveBuffer.list ∧ s'.history = record :: s.history)
    (pool : s'.mempool.freed = s.mempool.freed ∧ s'.mempool.nextBlock = s.mempool.nextBlock + 1) :
    Holding d given held lost s' where
  once := holding.once.sent block frame pool
  kept b busy := by
    rw [frame.2.2, List.map_cons, block]
    by_cases new : b = s.mempool.nextBlock
    · exact .inl (List.mem_cons.mpr (.inl new))
    · have before : d.Busy given s b := by
        refine ⟨busy.1, busy.2.imp_right fun fresh => ⟨fresh.1, fresh.2.1, ?_⟩⟩
        have below := fresh.2.2
        rw [pool.2] at below
        omega
      exact (holding.kept b before).imp_left (List.mem_cons_of_mem _)

theorem refused (holding : Holding d given held lost s) (refuses : ¬ s.canAllocate e) :
    ∃ lost, Holding d given held lost (s.requestSendBuffer e).2 := by
  unfold requestSendBuffer
  cases answer : e.alloc s.mempool.requests with
  | ok => exact absurd answer refuses
  | noMemory => exact ⟨lost, holding.same rfl ⟨rfl, rfl⟩ rfl⟩
  | invalid =>
    refine ⟨s.mempool.nextBlock :: lost, holding.once.allocate _ (fun block => ?_) ⟨rfl, rfl⟩, fun b busy => ?_⟩
    · simp only [List.count_append, List.count_cons, List.count_nil, owned]
      omega
    · by_cases new : b = s.mempool.nextBlock
      · exact .inr (List.mem_cons.mpr (.inl new))
      · have before : d.Busy given s b := by
          refine ⟨busy.1, busy.2.imp_right fun fresh => ⟨fresh.1, fresh.2.1, ?_⟩⟩
          have below : b < s.mempool.nextBlock + 1 := fresh.2.2
          omega
        exact (holding.kept b before).imp_right (List.mem_cons_of_mem _)

/-- An arriving segment takes a block, and no buffer is sent with it. -/
theorem queued (holding : Holding d given held lost s) {segment : TcpSegment} {size : BitVec 16}
    (arrives : d.arrival.isSome = true) : Holding d given held lost (s.addToReceiveQueue c e segment size) where
  once := holding.once.queued
  kept b busy := by
    have history : (s.addToReceiveQueue c e segment size).history = s.history := by
      unfold addToReceiveQueue
      split_ifs
      · rfl
      · dsimp only
        split <;> rfl
    rw [history]
    refine holding.kept b ⟨busy.1, busy.2.imp_right fun fresh => ?_⟩
    rw [fresh.1] at arrives
    cases arrives

/-- All buffers of the history are freed. -/
theorem cleared (holding : Holding d given held lost s) (once : BlocksOnce (held' ++ lost) s')
    (next : s'.mempool.nextBlock = s.mempool.nextBlock) (drained : ∀ r ∈ s.history, ¬d.Busy given s r.block) :
    Holding d given held' lost s' := by
  refine holding.stay once next fun block member busy => ?_
  obtain ⟨r, inHistory, rfl⟩ := List.mem_map.mp member
  exact absurd busy (drained r inHistory)

/-- `updateHistory` frees the buffers it releases. -/
theorem updated (holding : Holding d given held lost s) {doRetransmit : Bool} (updated : HistoryUpdated c e doRetransmit s s')
    (drained : ∀ r ∈ s.history, r.released e s.seqnumUnacked → ¬d.Busy given s r.block) : Holding d given held lost s' := by
  refine holding.stay (holding.once.update updated) (by rw [updated.freed]) fun block member busy => ?_
  obtain ⟨r, inHistory, rfl⟩ := List.mem_map.mp member
  rw [← kept_blocks updated]
  refine List.mem_map.mpr ⟨r, List.mem_filter.mpr ⟨inHistory, ?_⟩, rfl⟩
  simpa using fun released => drained r inHistory released busy

/-- No block of a buffer that the interface has is back in the pool. -/
theorem not_freed (holding : Holding d given held lost s) {block : Nat} (busy : d.Busy given s block) :
    block ∉ s.mempool.freed := by
  intro freed
  have once := holding.once block
  have returned := List.count_pos_iff.mpr freed
  rcases holding.kept block busy with inHistory | inLost
  · have owner := List.count_pos_iff.mpr inHistory
    simp only [owned, List.count_append] at once
    split_ifs at once <;> omega
  · have owner := List.count_pos_iff.mpr inLost
    simp only [List.count_append] at once
    split_ifs at once <;> omega

end Holding

/-! ### The records of the buffers -/

/-- The part of a socket that decides which buffers are freed. -/
structure BufferView where
  state : TcpState
  ackTriggered : Bool
  seqnumUnacked : SeqNum
  seqnumNext : SeqNum
  history : TcpHistory
  nextBlock : Nat
  refused : Nat

def TcpSocket.bufferView (s : TcpSocket) : BufferView where
  state := s.state
  ackTriggered := s.ackTriggered
  seqnumUnacked := s.seqnumUnacked
  seqnumNext := s.seqnumNext
  history := s.history
  nextBlock := s.mempool.nextBlock
  refused := s.trace.refused

def BufferView.isOpen (v : BufferView) : Prop := v.state = .established ∨ v.state = .closewait

/-- A record with an old block stands for a record the step found; one with a new block does not
count as acknowledged. -/
def Round.Stands (d : Round) (unacked : SeqNum) (r : TcpRecord) : Prop :=
  if r.block < d.start.mempool.nextBlock then unacked = d.start.seqnumUnacked ∧
    ∃ r₀ ∈ d.start.history, r₀.block = r.block ∧ r₀.segment = r.segment ∧ (r.timeout ≠ 0 → r₀.timeout ≠ 0)
  else (∃ n, d.env.alloc n = .ok) ∧ (r.timeout ≠ 0 → ¬seqLt r.segment.seqnum unacked)

/-- Records of the second history are records of the first, sent again or not. -/
def SameBuffers (h h' : TcpHistory) : Prop :=
  ∀ r ∈ h', ∃ r₀ ∈ h, r₀.block = r.block ∧ r₀.segment = r.segment ∧ (r.timeout ≠ 0 → r₀.timeout ≠ 0)

theorem SameBuffers.refl (h : TcpHistory) : SameBuffers h h := fun r member => ⟨r, member, rfl, rfl, id⟩

/-- What is kept while a step runs. -/
structure BufferView.Numbered (d : Round) (v : BufferView) : Prop where
  closed : v.state = .closed → v.history = [] ∧ v.ackTriggered = false
  listening : v.state = .listen → v.seqnumUnacked = v.seqnumNext
  opening : v.state = .synsent ∨ v.state = .synrcvd → gap v.seqnumUnacked v.seqnumNext = 1
  flight : v.isOpen → 2 * gap v.seqnumUnacked v.seqnumNext < 2 ^ 32
  grows : d.start.mempool.nextBlock ≤ v.nextBlock
  records : ∀ r ∈ v.history, d.Stands v.seqnumUnacked r
  refused : v.refused = d.start.trace.refused

/-- What a step must not find: a repeated SYN while the answer to the first one waits for its
acknowledgement; a buffer to free that the interface has not sent; a buffer without an interface;
half of all sequence numbers unacknowledged. -/
structure Round.Drained (d : Round) (given : List Nat) : Prop where
  quiet : d.start.state = .closed → d.start.ackTriggered = false
  answered : d.start.state = .synrcvd → d.repeatsSyn → d.start.history = []
  frees : ∀ r ∈ d.start.history, d.frees r → r.block ∈ given → d.env.hasBeenSent r.block = true
  granted : d.updates = true → d.env.interface = false → ∀ n, d.env.alloc n ≠ .ok
  flight : d.start.isOpen → 2 * (gap d.start.seqnumUnacked d.start.seqnumNext + d.start.sendWindow.toNat + 1) < 2 ^ 32

namespace BufferView.Numbered

variable {v v' : BufferView}

/-- No new record, in the same state. -/
theorem shrinks (numbered : v.Numbered d) {history : TcpHistory} (same : SameBuffers v.history history) {nextBlock : Nat}
    (grows : v.nextBlock ≤ nextBlock) : Numbered d { v with history := history, nextBlock := nextBlock } where
  closed now := by
    obtain ⟨empty, quiet⟩ := numbered.closed now
    refine ⟨List.eq_nil_iff_forall_not_mem.mpr fun r member => ?_, quiet⟩
    obtain ⟨r₀, old, -⟩ := same r member
    rw [empty] at old
    exact List.not_mem_nil old
  listening := numbered.listening
  opening := numbered.opening
  flight := numbered.flight
  grows := Nat.le_trans numbered.grows grows
  records r member := by
    obtain ⟨r₀, old, block, segment, timed⟩ := same r member
    have stands := numbered.records r₀ old
    unfold Round.Stands at stands ⊢
    rw [block] at stands
    split_ifs at stands ⊢
    · obtain ⟨unacked, r₁, first, block', segment', timed'⟩ := stands
      exact ⟨unacked, r₁, first, block', segment'.trans segment, timed' ∘ timed⟩
    · exact ⟨stands.1, fun waits => segment ▸ stands.2 (timed waits)⟩
  refused := numbered.refused

/-- The history is empty. -/
theorem emptied (numbered : v.Numbered d) (history : v'.history = []) (quiet : v'.state = .closed → v'.ackTriggered = false)
    (listening : v'.state = .listen → v'.seqnumUnacked = v'.seqnumNext)
    (opening : v'.state = .synsent ∨ v'.state = .synrcvd → gap v'.seqnumUnacked v'.seqnumNext = 1)
    (flight : v'.isOpen → 2 * gap v'.seqnumUnacked v'.seqnumNext < 2 ^ 32) (grows : v.nextBlock ≤ v'.nextBlock)
    (refused : v'.refused = v.refused) : v'.Numbered d where
  closed now := ⟨history, quiet now⟩
  listening := listening
  opening := opening
  flight := flight
  grows := Nat.le_trans numbered.grows grows
  records r member := by
    rw [history] at member
    cases member
  refused := refused.trans numbered.refused

/-- A new record in a new block. -/
theorem pushed (numbered : v.Numbered d) (state : TcpState) (next : SeqNum) {record : TcpRecord}
    (block : record.block = v.nextBlock) (granted : ∃ n, d.env.alloc n = .ok)
    (timed : record.timeout ≠ 0 → ¬seqLt record.segment.seqnum v.seqnumUnacked) (alive : state ≠ .closed)
    (listening : state = .listen → v.seqnumUnacked = next)
    (opening : state = .synsent ∨ state = .synrcvd → gap v.seqnumUnacked next = 1)
    (flight : ({ v with state := state } : BufferView).isOpen → 2 * gap v.seqnumUnacked next < 2 ^ 32) :
    Numbered d { v with
      state := state, seqnumNext := next, history := record :: v.history, nextBlock := v.nextBlock + 1 } where
  closed now := absurd now alive
  listening := listening
  opening := opening
  flight := flight
  grows := Nat.le_succ_of_le numbered.grows
  records r member := by
    rcases List.mem_cons.mp member with rfl | old
    · unfold Round.Stands
      rw [if_neg (Nat.not_lt.mpr (block ▸ numbered.grows))]
      exact ⟨granted, timed⟩
    · exact numbered.records r old
  refused := numbered.refused

/-- A state behind the handshake. -/
theorem moved (numbered : v.Numbered d) {state : TcpState}
    (late : state ≠ .closed ∧ state ≠ .listen ∧ state ≠ .synsent ∧ state ≠ .synrcvd)
    (opened : ({ v with state := state } : BufferView).isOpen → v.isOpen) : Numbered d { v with state := state } where
  closed now := absurd now late.1
  listening now := absurd now late.2.1
  opening now := by
    rcases now with now | now
    · exact absurd now late.2.2.1
    · exact absurd now late.2.2.2
  flight now := numbered.flight (opened now)
  grows := numbered.grows
  records := numbered.records
  refused := numbered.refused

end BufferView.Numbered

namespace TcpSocket

theorem updateRecords_sameBuffers (c : Config) (e : Env) (doRetransmit : Bool) (s : TcpSocket) (h : TcpHistory) :
    SameBuffers h (updateRecords c e doRetransmit s h).2 := by
  induction h generalizing s with
  | nil => exact .refl []
  | cons record rest ih =>
    have behind : ∀ s : TcpSocket, SameBuffers (record :: rest) (updateRecords c e doRetransmit s rest).2 := by
      intro s r member
      obtain ⟨r₀, old, same⟩ := ih s r member
      exact ⟨r₀, List.mem_cons_of_mem _ old, same⟩
    unfold updateRecords
    split_ifs with released again
    · exact behind _
    · intro r member
      rcases List.mem_cons.mp member with rfl | later
      · have timed := TcpRecord.timed_of_isTimedOut again.2
        have kept := (retransmit_spec c e s record).kept timed
        exact ⟨record, List.mem_cons_self .., kept.block.symm, kept.segment.symm, fun _ => timed⟩
      · exact behind _ r later
    · intro r member
      rcases List.mem_cons.mp member with rfl | later
      · exact ⟨r, List.mem_cons_self .., rfl, rfl, id⟩
      · exact behind _ r later

theorem updateHistoryBody_sameBuffers (c : Config) (e : Env) (s : TcpSocket) (doRetransmit : Bool) :
    SameBuffers s.history (s.updateHistoryBody c e doRetransmit).history := by
  unfold updateHistoryBody
  split_ifs with interface cleared
  · rw [(clearRetransmitting_retransmitted c s).frame]
    exact updateRecords_sameBuffers c e doRetransmit _ s.history
  · exact updateRecords_sameBuffers c e doRetransmit s s.history
  · exact fun r member => absurd member List.not_mem_nil

theorem setSyn_seqnum (c : Config) (s : TcpSocket) (segment : TcpSegment) : (s.setSyn c segment).seqnum = segment.seqnum := by
  unfold setSyn
  split_ifs <;> rfl

theorem sendSegmentIn_bufferView (c : Config) (e : Env) (s : TcpSocket) (block : Nat) (len : BitVec 32) :
    ∃ record : TcpRecord, record.block = block ∧ record.segment.seqnum = s.seqnumNext ∧
      (s.sendSegmentIn c e block len).bufferView =
        { s.bufferView with seqnumNext := s.seqnumNext + len, history := record :: s.history } := by
  unfold sendSegmentIn lowerSendWindow
  dsimp only
  split_ifs <;> exact ⟨_, rfl, rfl, rfl⟩

theorem genInitialSeqnum_bufferView (c : Config) (e : Env) (s : TcpSocket) : (s.genInitialSeqnum c e).bufferView =
    { s.bufferView with
      seqnumUnacked := (s.genInitialSeqnum c e).seqnumUnacked, seqnumNext := (s.genInitialSeqnum c e).seqnumNext } := by
  unfold genInitialSeqnum
  dsimp only
  split_ifs <;> rfl

theorem synAcked_blocks (c : Config) (e : Env) (s : TcpSocket) (segment : TcpSegment) :
    (s.synAcked c e segment).owned = s.clearHistory.owned ∧ (s.synAcked c e segment).mempool = s.clearHistory.mempool ∧
      (s.synAcked c e segment).history = s.clearHistory.history := by
  unfold synAcked
  dsimp only
  rw [handleAck_eq]
  exact ⟨rfl, rfl, rfl⟩

theorem synrcvdAck_blocks (c : Config) (e : Env) {s : TcpSocket} {segment : TcpSegment} (all : segment.acknum = s.seqnumNext) :
    (s.synrcvdAck c e segment).owned = s.clearHistory.owned ∧ (s.synrcvdAck c e segment).mempool = s.clearHistory.mempool ∧
      (s.synrcvdAck c e segment).history = s.clearHistory.history := by
  have next : (s.handleAck c e segment.acknum).seqnumNext = s.seqnumNext := by rw [handleAck_eq]
  unfold synrcvdAck
  dsimp only
  rw [if_pos (all.trans next.symm), handleAck_eq]
  exact ⟨rfl, rfl, rfl⟩

/-! ### How far data is sent ahead -/

/-- A segment takes no more sequence numbers than the window, or one. -/
theorem sendSegment_flight (alive : s.state ≠ .closed) {len : BitVec 32} (fits : s.Fits len) (opened : s.sendWindow ≠ 0)
    (small : gap s.seqnumUnacked s.seqnumNext + s.sendWindow.toNat < 2 ^ 32) (sent : (s.sendSegment c e len).1 = true) :
    (s.sendSegment c e len).2.seqnumUnacked = s.seqnumUnacked ∧
      gap s.seqnumUnacked (s.sendSegment c e len).2.seqnumNext + (s.sendSegment c e len).2.sendWindow.toNat =
        gap s.seqnumUnacked s.seqnumNext + s.sendWindow.toNat := by
  obtain ⟨segment, sending⟩ := sendSegment_sent alive sent
  obtain ⟨s₁, block, only, eq⟩ := sendSegment_in alive sent
  obtain ⟨record, -, -, view⟩ := sendSegmentIn_bufferView c e s₁ block len
  have unacked : (s₁.sendSegmentIn c e block len).seqnumUnacked = s₁.seqnumUnacked := congrArg BufferView.seqnumUnacked view
  have window := fits.window opened
  refine ⟨?_, ?_⟩
  · rw [eq, unacked, only]
  · have further := gap_add_right s.seqnumUnacked s.seqnumNext (n := len.toNat) (by omega)
    rw [BitVec.ofNat_toNat, BitVec.setWidth_eq] at further
    rw [sending.seqnumNext, sending.sendWindow, if_pos opened, further]
    bv_omega

theorem loopAttempts_flight (fuel : Nat) (alive : s.state ≠ .closed)
    (small : 2 * (gap s.seqnumUnacked s.seqnumNext + s.sendWindow.toNat) < 2 ^ 32) : ∀ a ∈ loopAttempts c e fuel s,
      a.before.seqnumUnacked = s.seqnumUnacked ∧ gap s.seqnumUnacked a.before.seqnumNext + a.len.toNat ≤
        gap s.seqnumUnacked s.seqnumNext + s.sendWindow.toNat := by
  induction fuel generalizing s with
  | zero => exact fun a member => absurd member List.not_mem_nil
  | succ fuel ih =>
    unfold loopAttempts
    split_ifs with more
    · have fits : s.Fits (min3 ((s.getSendWindow c).setWidth 32) s.applicationBuflen s.mss) :=
        Due.fits ⟨more.1, .inl ⟨rfl, more.2⟩⟩
      have opened : s.sendWindow ≠ 0 := by
        have below := getSendWindow_le c s
        have some := more.2
        bv_omega
      intro a member
      rcases List.mem_cons.mp member with rfl | later
      · exact ⟨rfl, Nat.add_le_add_left (fits.window opened) _⟩
      · split_ifs at later with sent
        · obtain ⟨unacked, room⟩ := sendSegment_flight alive fits opened (by omega) sent
          obtain ⟨segment, sending⟩ := sendSegment_sent alive sent
          have next := ih (by rwa [sending.state]) (by rw [unacked]; omega) a later
          rw [unacked] at next
          exact ⟨next.1, by omega⟩
        · cases later
    · exact fun a member => absurd member List.not_mem_nil

theorem sendAttempts_flight (alive : s.state ≠ .closed)
    (small : 2 * (gap s.seqnumUnacked s.seqnumNext + s.sendWindow.toNat + 1) < 2 ^ 32) : ∀ a ∈ s.sendAttempts c e,
      a.before.seqnumUnacked = s.seqnumUnacked ∧ 2 * (gap s.seqnumUnacked a.before.seqnumNext + a.len.toNat) < 2 ^ 32 := by
  unfold sendAttempts
  split_ifs
  · exact fun a member => absurd member List.not_mem_nil
  · intro a member
    obtain rfl := List.mem_singleton.mp member
    refine ⟨rfl, ?_⟩
    change 2 * (gap s.seqnumUnacked s.seqnumNext + 1) < 2 ^ 32
    omega
  · exact fun a member => absurd member List.not_mem_nil
  · intro a member
    obtain ⟨unacked, room⟩ := loopAttempts_flight (c := c) (e := e) _ alive (by omega) a member
    exact ⟨unacked, by omega⟩

/-- Between the beginning of a round and its data only acknowledgements are sent. -/
theorem sendingSocket_flight {s₁ : TcpSocket} (sending : s.sendingSocket c e = some s₁) :
    s.isOpen ∧ s₁.state = s.state ∧ s₁.seqnumUnacked = s.seqnumUnacked ∧ s₁.seqnumNext = s.seqnumNext ∧
      s₁.sendWindow = s.sendWindow := by
  have opened := (sendingSocket_waiting sending).1
  have alive : s.state ≠ .closed := by rcases opened with state | state <;> simp [state]
  unfold sendingSocket at sending
  dsimp only at sending
  refine ⟨opened, ?_⟩
  rcases updateHistory_cases c e true alive with updated | ⟨-, s₂, aborted⟩
  · have frame : (s.updateHistory c e true).state = s.state ∧ (s.updateHistory c e true).seqnumUnacked = s.seqnumUnacked ∧
        (s.updateHistory c e true).seqnumNext = s.seqnumNext ∧ (s.updateHistory c e true).sendWindow = s.sendWindow := by
      rw [updated]
      exact ⟨rfl, rfl, rfl, rfl⟩
    split_ifs at sending with calls state
    · obtain rfl := Option.some.inj sending
      unfold processAck
      split_ifs
      · have replied := sendAck_replied c e (s := s.updateHistory c e true) (by rwa [frame.1])
        unfold Replied at replied
        rw [replied]
        exact frame
      · exact frame
    · obtain rfl := Option.some.inj sending
      exact frame
  · rw [aborted] at sending
    simp [abort, resetSocketState] at sending

end TcpSocket

namespace BufferView.Numbered

variable {v v' : BufferView}

theorem not_seqLt {a b : SeqNum} (near : 2 * gap b a < 2 ^ 32) : ¬seqLt a b := by
  unfold seqLt
  rw [toInt_sub_neg]
  omega

theorem aborted (numbered : s.bufferView.Numbered d) : s.abort.bufferView.Numbered d :=
  numbered.emptied rfl (fun _ => rfl) (fun now => nomatch now) (fun now => nomatch now) (fun now => nomatch now)
    (Nat.le_refl _) rfl

theorem cleared (numbered : s.bufferView.Numbered d) : s.clearHistory.bufferView.Numbered d :=
  numbered.shrinks (List.forall_mem_nil _) (Nat.le_refl _)

theorem updatedBody (numbered : s.bufferView.Numbered d) {doRetransmit : Bool} (interface : d.env.interface = true)
    (alive : (s.updateHistoryBody c d.env doRetransmit).state = s.state) :
    (s.updateHistoryBody c d.env doRetransmit).bufferView.Numbered d := by
  have updated := updateHistoryBody_updated (c := c) interface s doRetransmit
  have view : (s.updateHistoryBody c d.env doRetransmit).bufferView =
      { s.bufferView with history := (s.updateHistoryBody c d.env doRetransmit).history } := by
    have pool : (s.updateHistoryBody c d.env doRetransmit).mempool.nextBlock = s.mempool.nextBlock := by rw [updated.freed]
    unfold bufferView
    rw [pool, alive]
    conv_lhs => rw [updated.frame]
  rw [view]
  exact numbered.shrinks (updateHistoryBody_sameBuffers c d.env s doRetransmit) (Nat.le_refl _)

theorem killed (numbered : s.bufferView.Numbered d) (interface : d.env.interface = true) :
    (s.updateHistoryBody c d.env true).abort.bufferView.Numbered d := by
  have updated := updateHistoryBody_updated (c := c) interface s true
  refine numbered.emptied rfl (fun _ => rfl) (fun now => nomatch now) (fun now => nomatch now) (fun now => nomatch now) ?_ ?_
  · change s.mempool.nextBlock ≤ (s.updateHistoryBody c d.env true).mempool.nextBlock
    rw [updated.freed]
  · change (s.updateHistoryBody c d.env true).trace.refused = s.trace.refused
    rw [updated.frame]

theorem requested (numbered : s.bufferView.Numbered d) (e : Env) : (s.requestSendBuffer e).2.bufferView.Numbered d := by
  unfold requestSendBuffer
  cases e.alloc s.mempool.requests with
  | noMemory => exact numbered
  | ok | invalid => exact numbered.shrinks (.refl _) (Nat.le_succ _)

/-- A new segment with application data. -/
theorem send (numbered : s.bufferView.Numbered d) (drained : d.Drained given) (opened : s.isOpen) {len : BitVec 32}
    (attempt : d.Sends c s len) (granted : s.canAllocate d.env) :
    (s.allocated.sendSegmentIn c d.env s.mempool.nextBlock len).bufferView.Numbered d := by
  obtain ⟨record, block, first, view⟩ := sendSegmentIn_bufferView c d.env s.allocated s.mempool.nextBlock len
  obtain ⟨a, ⟨-, s₁, sending, member⟩, rfl, -, only, -⟩ := attempt
  obtain ⟨started, state, unacked, next, window⟩ := sendingSocket_flight sending
  have alive : s₁.state ≠ .closed := by
    rw [state]
    rcases started with state | state <;> simp [state]
  have small := drained.flight started
  rw [← unacked, ← next, ← window] at small
  obtain ⟨unacked', room⟩ := sendAttempts_flight alive small a member
  rw [← unacked'] at room
  unfold HistoryOnly at only
  have room : 2 * (gap s.seqnumUnacked s.seqnumNext + a.len.toNat) < 2 ^ 32 := by rwa [only]
  have further := gap_add_right s.seqnumUnacked s.seqnumNext (n := a.len.toNat) (by omega)
  rw [BitVec.ofNat_toNat, BitVec.setWidth_eq] at further
  rw [view]
  refine numbered.pushed s.state _ block ⟨_, granted⟩ (fun _ => ?_) ?_ (fun now => ?_) (fun now => ?_) (fun _ => ?_)
  · rw [first]
    exact not_seqLt (show 2 * gap s.seqnumUnacked s.seqnumNext < 2 ^ 32 by omega)
  · rcases opened with state | state <;> simp [state]
  · rcases opened with state | state <;> simp [state] at now
  · rcases opened with state | state <;> simp [state] at now
  · change 2 * gap s.seqnumUnacked (s.seqnumNext + a.len) < 2 ^ 32
    omega

theorem synAcked (numbered : s.bufferView.Numbered d) {segment : TcpSegment}
    (acked : (s.handleAck c d.env segment.acknum).seqnumUnacked = s.seqnumNext) :
    (s.synAcked c d.env segment).bufferView.Numbered d := by
  have view : (s.synAcked c d.env segment).bufferView =
      { s.bufferView with state := .established, seqnumUnacked := s.seqnumNext, history := [] } := by
    rw [← acked]
    unfold TcpSocket.synAcked
    dsimp only
    rw [handleAck_eq]
    rfl
  rw [view]
  refine numbered.emptied rfl (fun now => nomatch now) (fun now => nomatch now) (fun now => ?_) (fun _ => ?_) (Nat.le_refl _) rfl
  · rcases now with now | now <;> cases now
  · change 2 * gap s.seqnumNext s.seqnumNext < 2 ^ 32
    rw [gap_self]
    decide

theorem synrcvdAck (numbered : s.bufferView.Numbered d) (state : s.state = .synrcvd) (segment : TcpSegment) :
    (s.synrcvdAck c d.env segment).bufferView.Numbered d := by
  rcases synrcvdAck_cases c d.env (numbered.opening (.inr state)) segment with same | ⟨all, acked⟩
  · rw [same]
    exact numbered
  · have view : (s.synrcvdAck c d.env segment).bufferView =
        { s.bufferView with state := .established, seqnumUnacked := s.seqnumNext, history := [] } := by
      have next : (s.handleAck c d.env segment.acknum).seqnumNext = s.seqnumNext := by rw [handleAck_eq]
      unfold TcpSocket.synrcvdAck
      dsimp only
      rw [if_pos (all.trans next.symm), ← acked]
      conv_lhs => rw [handleAck_eq]
      rfl
    rw [view]
    refine numbered.emptied rfl (fun now => nomatch now) (fun now => nomatch now) (fun now => ?_) (fun _ => ?_) (Nat.le_refl _) rfl
    · rcases now with now | now <;> cases now
    · change 2 * gap s.seqnumNext s.seqnumNext < 2 ^ 32
      rw [gap_self]
      decide

/-- The answer to a crossing SYN has the number of our SYN. -/
theorem simultaneous (numbered : s.bufferView.Numbered d) (state : s.state = .synsent) (segment : TcpSegment) :
    (s.synsentSimultaneous c d.env segment).bufferView.Numbered d := by
  have one := numbered.opening (.inl state)
  have crossed : (s.crossed segment).bufferView.Numbered d := numbered.cleared
  rcases synsentSimultaneous_cases c d.env s segment with ⟨granted, eq⟩ | ⟨-, eq⟩ <;> rw [eq]
  · have first : s.seqnumNext - 1 = s.seqnumUnacked := by
      rw [← add_gap s.seqnumUnacked s.seqnumNext, show gap s.seqnumUnacked s.seqnumNext = 1 from one]
      exact BitVec.add_sub_cancel _ _
    refine crossed.pushed .synrcvd _ rfl ⟨_, granted⟩ (fun _ => ?_) nofun nofun (fun _ => one) (fun now => ?_)
    · change ¬seqLt (setSyn c _ _).seqnum s.seqnumUnacked
      rw [setSyn_seqnum]
      change ¬seqLt (s.seqnumNext - 1) s.seqnumUnacked
      rw [first]
      exact not_seqLt (by rw [gap_self]; decide)
    · rcases now with now | now <;> cases now
  · exact crossed.requested d.env

theorem action (drained : d.Drained given) {x y : Bool × TcpSocket} (action : Action c d x y)
    (numbered : x.2.bufferView.Numbered d) : y.2.bufferView.Numbered d := by
  cases action with
  | abort reason => exact numbered.aborted
  | update runs interface alive => exact numbered.updatedBody interface alive
  | kill runs interface => exact numbered.killed interface
  | lose runs interface => exact numbered.cleared
  | refuse refused => exact numbered.requested d.env
  | @reply h s segment room granted bare alive =>
    have awake : s.state ≠ .closed := fun closed => by
      obtain ⟨start, triggered⟩ := alive closed
      exact Bool.false_ne_true ((drained.quiet start).symm.trans triggered)
    exact numbered.pushed s.state s.seqnumNext rfl ⟨_, granted⟩ (fun timed => absurd rfl timed) awake numbered.listening
      numbered.opening numbered.flight
  | send isOpen waiting sending left amount room granted attempt => exact numbered.send drained isOpen attempt granted
  | @sendSyn h s closed fresh window rto room granted =>
    have one : gap s.seqnumUnacked (s.seqnumNext + 1) = 1 := by
      rw [fresh]
      exact gap_add_ofNat s.seqnumUnacked (by decide)
    refine numbered.pushed .synsent _ rfl ⟨_, granted⟩ (fun _ => ?_) nofun nofun (fun _ => one) (fun now => ?_)
    · change ¬seqLt (setSyn c _ _).seqnum s.seqnumUnacked
      rw [setSyn_seqnum]
      change ¬seqLt s.seqnumNext s.seqnumUnacked
      rw [fresh]
      exact not_seqLt (by rw [gap_self]; decide)
    · rcases now with now | now <;> cases now
  | @answerSyn h s listening room granted =>
    have same : s.seqnumUnacked = s.seqnumNext := numbered.listening listening
    have one : gap s.seqnumUnacked (s.seqnumNext + 1) = 1 := by
      rw [← same]
      exact gap_add_ofNat s.seqnumUnacked (by decide)
    refine numbered.pushed .synrcvd _ rfl ⟨_, granted⟩ (fun _ => ?_) nofun nofun (fun _ => one) (fun now => ?_)
    · change ¬seqLt (setSyn c _ _).seqnum s.seqnumUnacked
      rw [setSyn_seqnum]
      change ¬seqLt s.seqnumNext s.seqnumUnacked
      rw [← same]
      exact not_seqLt (by rw [gap_self]; decide)
    · rcases now with now | now <;> cases now
  | @sendFin h s isOpen room granted =>
    have late := closeIn_late c d.env s.allocated s.mempool.nextBlock
    refine numbered.pushed _ _ rfl ⟨_, granted⟩ (fun _ => not_seqLt (numbered.flight isOpen)) ?_ (fun now => ?_) (fun now => ?_)
      (fun now => ?_)
    · rcases late with late | late <;> simp [late]
    · rcases late with late | late <;> simp [late] at now
    · rcases late with late | late <;> simp [late] at now
    · rcases late with late | late <;> simp [BufferView.isOpen, late] at now
  | @resend h s r state input repeated waiting =>
    have empty : s.history = [] := by
      rw [waiting.history]
      exact drained.answered (waiting.state.symm.trans state) ⟨r, input, repeated⟩
    have same : s.resendFirst = s := by
      unfold resendFirst
      rw [empty]
    dsimp only
    rw [same]
    exact numbered
  | @setMss h s mss state =>
    dsimp only
    rw [setMss_eq]
    exact numbered
  | @refuseSynAck h s r state input other =>
    rcases handleAck_opening (c := c) (e := d.env) (numbered.opening (.inl state)) r.segment.acknum with same | ⟨-, acked⟩
    · dsimp only
      rw [same]
      exact numbered
    · exact absurd acked other
  | synAck state input ack syn waiting acked => exact numbered.synAcked acked
  | simultaneous state input syn noAck waiting requests => exact numbered.simultaneous state _
  | synrcvdAck state input accepted waiting => exact numbered.synrcvdAck state _
  | @setAck h s trigger alive =>
    refine { numbered with closed := fun closed => ⟨(numbered.closed closed).1, ?_⟩ }
    exact Bool.eq_false_iff.mpr fun on => alive on closed
  | @fin h s r input state plain =>
    dsimp only
    rw [handleFin_eq]
    exact numbered
  | @insert s r b input state plain payload inserted =>
    refine { numbered with closed := fun closed => ?_ }
    rcases state with state | state | state <;> exact absurd (state.symm.trans closed) nofun
  | @window h s r input isOpen plain same =>
    dsimp only
    unfold updateSendWindow
    split_ifs <;> exact numbered
  | peerClosed state complete => exact numbered.moved ⟨nofun, nofun, nofun, nofun⟩ fun _ => .inl state
  | bothClosed | lastClosed | finAcked | closingAcked =>
    exact numbered.moved ⟨nofun, nofun, nofun, nofun⟩ fun now => by rcases now with now | now <;> cases now
  | @arrive h s segment size start arrival =>
    dsimp only
    unfold addToReceiveQueue
    split_ifs
    · exact numbered
    · dsimp only
      split
      · exact numbered.shrinks (.refl _) (Nat.le_succ _)
      · exact numbered
  | @listen h s closed =>
    obtain ⟨empty, quiet⟩ := numbered.closed closed
    obtain ⟨fresh, -, -⟩ := genInitialSeqnum_fresh c d.env s
    have frame := genInitialSeqnum_bufferView c d.env s
    dsimp only
    unfold listenBase
    rw [if_pos closed]
    refine numbered.emptied ((congrArg BufferView.history frame).trans empty) nofun (fun _ => fresh.symm) (fun now => ?_)
      (fun now => ?_) (congrArg BufferView.nextBlock frame).ge rfl
    · rcases now with now | now <;> cases now
    · rcases now with now | now <;> cases now
  | @initConnect h s closed =>
    obtain ⟨empty, quiet⟩ := numbered.closed closed
    have frame := genInitialSeqnum_bufferView c d.env s
    have still : (s.genInitialSeqnum c d.env).state = .closed := (congrArg BufferView.state frame).trans closed
    have refused : (s.genInitialSeqnum c d.env).trace.refused = s.trace.refused := congrArg BufferView.refused frame
    refine numbered.emptied ((congrArg BufferView.history frame).trans empty)
      (fun _ => (congrArg BufferView.ackTriggered frame).trans quiet) (fun now => absurd (still.symm.trans now) nofun)
      (fun now => ?_) (fun now => ?_) (congrArg BufferView.nextBlock frame).ge refused
    · rcases now with now | now <;> exact absurd (still.symm.trans now) nofun
    · rcases now with now | now <;> exact absurd (still.symm.trans now) nofun
  | @readRest h s state receiving =>
    dsimp only
    unfold closewaitReceive
    dsimp only
    split_ifs <;> exact numbered
  | _ => exact numbered

end BufferView.Numbered

/-! ### What a step frees -/

namespace Round.Drained

variable {lost : List Nat}

/-- A buffer the step has found in the history is drained where all of them are. -/
theorem old {r : TcpRecord} (drained : d.Drained given) (clears : d.clears) (stands : d.Stands s.seqnumUnacked r)
    (before : r.block < d.start.mempool.nextBlock) : ¬d.Busy given s r.block := by
  rintro ⟨unsent, has⟩
  unfold Round.Stands at stands
  rw [if_pos before] at stands
  obtain ⟨-, r₀, old, same, -⟩ := stands
  rcases has with has | ⟨-, fresh, -⟩
  · rw [← same] at has unsent
    exact Bool.false_ne_true (unsent.symm.trans (drained.frees r₀ old (.inl clears) has))
  · omega

/-- No buffer is new. -/
theorem unfilled (drained : d.Drained given) (clears : d.clears) (numbered : s.bufferView.Numbered d)
    (holding : Holding d given held lost s) (none : s.mempool.nextBlock = d.start.mempool.nextBlock) :
    ∀ r ∈ s.history, ¬d.Busy given s r.block := by
  intro r member
  refine drained.old clears (numbered.records r member) ?_
  have owner : 0 < s.owned.count r.block := by
    refine List.count_pos_iff.mpr (List.mem_append_right _ (List.mem_append_right _ ?_))
    exact List.mem_map.mpr ⟨r, member, rfl⟩
  have once := holding.once r.block
  rw [none] at once
  split_ifs at once <;> omega

/-- Without an interface no buffer is granted. -/
theorem unconnected (drained : d.Drained given) (runs : d.updates = true) (interface : d.env.interface = false)
    (numbered : s.bufferView.Numbered d) : ∀ r ∈ s.history, ¬d.Busy given s r.block := by
  intro r member
  have stands := numbered.records r member
  by_cases before : r.block < d.start.mempool.nextBlock
  · exact drained.old (.inr (.inl ⟨runs, interface⟩)) stands before
  · unfold Round.Stands at stands
    rw [if_neg before] at stands
    obtain ⟨⟨n, granted⟩, -⟩ := stands
    exact absurd granted (drained.granted runs interface n)

/-- What `updateHistory` releases has been sent. -/
theorem released (drained : d.Drained given) (runs : d.updates = true) (numbered : s.bufferView.Numbered d) :
    ∀ r ∈ s.history, r.released d.env s.seqnumUnacked → ¬d.Busy given s r.block := by
  rintro r member (⟨timed, acked⟩ | ⟨-, sent⟩) ⟨unsent, has⟩
  · have stands : d.Stands s.seqnumUnacked r := numbered.records r member
    unfold Round.Stands at stands
    split_ifs at stands with before
    · obtain ⟨unacked, r₀, old, block, segment, waits⟩ := stands
      rcases has with has | ⟨-, fresh, -⟩
      · rw [← block] at has unsent
        rw [unacked, ← segment] at acked
        exact Bool.false_ne_true (unsent.symm.trans (drained.frees r₀ old (.inr ⟨runs, waits timed, acked⟩) has))
      · omega
    · exact stands.2 timed acked
  · exact Bool.false_ne_true (unsent.symm.trans sent)

end Round.Drained

namespace Holding

variable {lost : List Nat}

theorem aborted (holding : Holding d given held lost s) (drained : d.Drained given) (numbered : s.bufferView.Numbered d)
    (reason : s.state = .closed ∨ d.aborts ∧ d.start.Unfilled s) : Holding d given held lost s.abort := by
  refine holding.cleared holding.once.abort rfl ?_
  rcases reason with closed | ⟨aborts, same⟩
  · have empty : s.history = [] := (numbered.closed closed).1
    rw [empty]
    exact List.forall_mem_nil _
  · exact drained.unfilled (.inl aborts) numbered holding same.nextBlock

theorem killed (holding : Holding d given held lost s) (drained : d.Drained given) (numbered : s.bufferView.Numbered d)
    (interface : d.env.interface = true) (aborts : d.aborts) (same : d.start.Unfilled s) :
    Holding d given held lost (s.updateHistoryBody c d.env true).abort := by
  have updated := updateHistoryBody_updated (c := c) interface s true
  refine holding.cleared (holding.once.update updated).abort ?_ (drained.unfilled (.inl aborts) numbered holding same.nextBlock)
  change (s.updateHistoryBody c d.env true).mempool.nextBlock = s.mempool.nextBlock
  rw [updated.freed]

/-- The handshake ends, and our SYN is no longer needed. -/
theorem ended (holding : Holding d given held lost s) (drained : d.Drained given) (numbered : s.bufferView.Numbered d)
    (ends : d.endsHandshake) (waiting : d.start.Waiting s) : Holding d given held lost s.clearHistory :=
  holding.cleared holding.once.clearHistory rfl (drained.unfilled (.inr (.inr ends)) numbered holding waiting.nextBlock)

theorem read (holding : Holding d given held lost s) (len : BitVec 32) : Holding d given held lost (s.copyToApplication c len) :=
  holding.stay (holding.once.copied len) rfl fun _ member _ => member

theorem acked (holding : Holding d given held lost s) (acknum : SeqNum) : Holding d given held lost (s.handleAck c e acknum) := by
  rw [handleAck_eq]
  exact holding.same rfl ⟨rfl, rfl⟩ rfl

theorem synAcked {h : Bool} {r : ReceiveBuffer} (holding : Holding d given (d.held h) lost s) (drained : d.Drained given)
    (numbered : s.bufferView.Numbered d) (state : s.state = .synsent) (input : d.input = some r) (syn : r.segment.syn = true)
    (waiting : d.start.Waiting s) (acked : (s.handleAck c d.env r.segment.acknum).seqnumUnacked = s.seqnumNext) :
    Holding d given (d.held h) lost (s.synAcked c d.env r.segment) := by
  have one : gap s.seqnumUnacked s.seqnumNext = 1 := numbered.opening (.inl state)
  have all : r.segment.acknum = s.seqnumNext := by
    rcases handleAck_opening (c := c) (e := d.env) one r.segment.acknum with same | ⟨all, -⟩
    · rw [same] at acked
      rw [acked, gap_self] at one
      cases one
    · exact all
  have ends : d.endsHandshake := ⟨r, input, .inl ⟨waiting.state.symm.trans state, syn, fun _ => all.trans waiting.seqnumNext⟩⟩
  obtain ⟨owned, pool, history⟩ := synAcked_blocks c d.env s r.segment
  exact (holding.ended drained numbered ends waiting).same owned ⟨by rw [pool], by rw [pool]⟩ (by rw [history])

theorem synrcvdAck {h : Bool} {r : ReceiveBuffer} (holding : Holding d given (d.held h) lost s) (drained : d.Drained given)
    (numbered : s.bufferView.Numbered d) (state : s.state = .synrcvd) (input : d.input = some r)
    (accepted : r.segment.rst = false ∧ r.segment.ack = true) (waiting : d.start.Waiting s) :
    Holding d given (d.held h) lost (s.synrcvdAck c d.env r.segment) := by
  rcases synrcvdAck_cases c d.env (numbered.opening (.inr state)) r.segment with same | ⟨all, -⟩
  · rw [same]
    exact holding
  · have ends : d.endsHandshake :=
      ⟨r, input, .inr ⟨waiting.state.symm.trans state, accepted.1, accepted.2, all.trans waiting.seqnumNext⟩⟩
    obtain ⟨owned, pool, history⟩ := synrcvdAck_blocks c d.env all
    exact (holding.ended drained numbered ends waiting).same owned ⟨by rw [pool], by rw [pool]⟩ (by rw [history])

theorem action (drained : d.Drained given) {x y : Bool × TcpSocket} (action : Action c d x y)
    (numbered : x.2.bufferView.Numbered d) (holding : Holding d given (d.held x.1) lost x.2) :
    ∃ lost', Holding d given (d.held y.1) lost' y.2 := by
  cases action with
  | refuse refused => exact holding.refused refused
  | @simultaneous h s r state input syn noAck waiting requests =>
    have ends : d.endsHandshake := ⟨r, input, .inl ⟨waiting.state.symm.trans state, syn,
      fun ack => absurd (noAck.symm.trans ack) Bool.false_ne_true⟩⟩
    have crossed : Holding d given (d.held h) lost (s.crossed r.segment) :=
      (holding.ended drained numbered ends waiting).same rfl ⟨rfl, rfl⟩ rfl
    rcases synsentSimultaneous_cases c d.env s r.segment with ⟨-, eq⟩ | ⟨refused, eq⟩ <;> dsimp only <;> rw [eq]
    · exact ⟨lost, crossed.sent rfl ⟨rfl, rfl, rfl⟩ ⟨rfl, rfl⟩⟩
    · exact crossed.refused refused
  | @synAck h s r state input ack syn waiting acked => exact ⟨lost, holding.synAcked drained numbered state input syn waiting acked⟩
  | @synrcvdAck h s r state input accepted waiting =>
    exact ⟨lost, holding.synrcvdAck drained numbered state input accepted waiting⟩
  | dequeue input queued =>
    rw [held_of_input input]
    exact ⟨lost, holding.stay (holding.once.dequeued queued) rfl fun _ member _ => member⟩
  | @free s r input =>
    rw [held_of_input input] at holding
    exact ⟨lost, holding.stay holding.once.freed rfl fun _ member _ => member⟩
  | abort reason => exact ⟨lost, holding.aborted drained numbered reason⟩
  | @update h s doRetransmit runs interface alive =>
    exact ⟨lost, holding.updated (updateHistoryBody_updated interface s doRetransmit) (drained.released runs numbered)⟩
  | kill runs interface aborts same => exact ⟨lost, holding.killed drained numbered interface aborts same⟩
  | lose runs interface =>
    exact ⟨lost, holding.cleared holding.once.clearHistory rfl (drained.unconnected runs interface numbered)⟩
  | @send h s len isOpen waiting sending left amount room granted =>
    obtain ⟨record, block, history, packets, buffer, pool⟩ := sendSegmentIn_sent c d.env s.allocated s.mempool.nextBlock len
    exact ⟨lost, holding.sent block ⟨packets, by rw [buffer]; rfl, history⟩ ⟨by rw [pool]; rfl, by rw [pool]; rfl⟩⟩
  | reply | sendSyn | answerSyn | sendFin => exact ⟨lost, holding.sent rfl ⟨rfl, rfl, rfl⟩ ⟨rfl, rfl⟩⟩
  | @resend h s state =>
    obtain ⟨owned, pool, -, -⟩ := resendFirst_owned s
    exact ⟨lost, holding.same owned ⟨by rw [pool], by rw [pool]⟩ (resendFirst_blocks s)⟩
  | setMss state =>
    dsimp only
    rw [setMss_eq]
    exact ⟨lost, holding.same rfl ⟨rfl, rfl⟩ rfl⟩
  | refuseSynAck state input other => exact ⟨lost, holding.acked _⟩
  | @fin h s r input state plain =>
    dsimp only
    rw [handleFin_eq]
    exact ⟨lost, holding.same rfl ⟨rfl, rfl⟩ rfl⟩
  | insert input state plain payload inserted =>
    rw [held_of_input input] at holding
    exact ⟨lost, holding.stay (holding.once.inserted inserted) rfl fun _ member _ => member⟩
  | window input isOpen plain same =>
    dsimp only
    unfold updateSendWindow
    split_ifs
    · exact ⟨lost, holding.same rfl ⟨rfl, rfl⟩ rfl⟩
    · exact ⟨lost, holding⟩
  | arrive start arrival => exact ⟨lost, holding.queued (by rw [arrival]; rfl)⟩
  | @listen h s closed =>
    obtain ⟨owned, pool, -⟩ := listenBase_owned c d.env closed
    refine ⟨lost, holding.same owned ⟨by rw [pool], by rw [pool]⟩ ?_⟩
    dsimp only
    unfold listenBase
    rw [if_pos closed]
    exact congrArg (fun v : BufferView => v.history.map TcpRecord.block) (genInitialSeqnum_bufferView c d.env s)
  | @initConnect h s closed =>
    obtain ⟨owned, pool, -⟩ := genInitialSeqnum_owned c d.env s
    refine ⟨lost, holding.same owned ⟨by dsimp only; rw [pool], by dsimp only; rw [pool]⟩ ?_⟩
    exact congrArg (fun v : BufferView => v.history.map TcpRecord.block) (genInitialSeqnum_bufferView c d.env s)
  | read state receiving held fits => exact ⟨lost, (holding.read _).same rfl ⟨rfl, rfl⟩ rfl⟩
  | @readRest h s state receiving =>
    dsimp only
    unfold closewaitReceive
    dsimp only
    split_ifs
    · have shorter : Holding d given (d.held h) lost { s with applicationBuflen := s.receiveBuffer.getRecvBytes c } :=
        holding.same rfl ⟨rfl, rfl⟩ rfl
      exact ⟨lost, (shorter.read _).same rfl ⟨rfl, rfl⟩ rfl⟩
    · exact ⟨lost, (holding.read _).same rfl ⟨rfl, rfl⟩ rfl⟩
  | _ => exact ⟨lost, holding.same rfl ⟨rfl, rfl⟩ rfl⟩

end Holding

end IPStack
