import IPStack.Tcp.AckNumbers
import IPStack.Tcp.KarnSampling

/-! Karn's algorithm over whole runs: every measured round trip is the one of a segment that was
transmitted once. -/

namespace IPStack

open Serial TcpSocket Transition

/-- What a round trip depends on: a new data segment, a retransmission, an accepted
acknowledgement. -/
inductive RttEvent
  | sent (record : TcpRecord) (now : BitVec 64)
  | again (record : TcpRecord)
  | ack (acknum : SeqNum)

namespace RttEvent

/-- The send buffer of the segment. -/
def block : RttEvent → Option Nat
  | sent record _ => some record.block
  | again record => some record.block
  | ack _ => none

/-- The acknowledgement covers everything before `stop`. -/
def acks (stop : SeqNum) : RttEvent → Prop
  | ack acknum => seqLeq stop acknum
  | _ => False

instance (stop : SeqNum) : (event : RttEvent) → Decidable (event.acks stop)
  | ack acknum => inferInstanceAs (Decidable (seqLeq stop acknum))
  | sent _ _ => inferInstanceAs (Decidable False)
  | again _ => inferInstanceAs (Decidable False)

/-- Newest first: the segment is transmitted once, and since then no acknowledgement covers it. -/
structure SentOnce (log : List RttEvent) (record : TcpRecord) : Prop where
  once : (log.map block).count (some record.block) = 1
  unacked : ∀ event ∈ log.takeWhile (·.block ≠ some record.block), ¬event.acks record.stop

instance (log : List RttEvent) (record : TcpRecord) : Decidable (SentOnce log record) :=
  decidable_of_iff (_ ∧ _) ⟨fun both => ⟨both.1, both.2⟩, fun sent => ⟨sent.once, sent.unacked⟩⟩

variable {log l : List RttEvent} {record : TcpRecord}

/-- A new send buffer. -/
theorem SentOnce.first (fresh : ∀ event ∈ log, event.block ≠ some record.block) (now : BitVec 64) :
    SentOnce (sent record now :: log) record where
  once := by
    have never : some record.block ∉ log.map block := by
      rintro member
      obtain ⟨event, old, same⟩ := List.mem_map.mp member
      exact fresh event old same
    rw [List.map_cons, block, List.count_cons_self, List.count_eq_zero.mpr never]
  unacked := by
    rw [List.takeWhile_cons_of_neg (by simp [block])]
    exact List.forall_mem_nil _

theorem SentOnce.append (once : SentOnce log record)
    (other : ∀ event ∈ l, event.block ≠ some record.block ∧ ¬event.acks record.stop) : SentOnce (l ++ log) record := by
  induction l with
  | nil => exact once
  | cons event rest ih =>
    obtain ⟨count, unacked⟩ := ih fun event member => other event (List.mem_cons_of_mem _ member)
    obtain ⟨block, quiet⟩ := other event (List.mem_cons_self ..)
    constructor
    · rw [List.cons_append, List.map_cons, List.count_cons_of_ne block]
      exact count
    · rw [List.cons_append, List.takeWhile_cons_of_pos (by simpa using block)]
      intro event' member
      rcases List.mem_cons.mp member with rfl | later
      · exact quiet
      · exact unacked event' later

/-- Segments in ascending blocks behind those of the log. -/
theorem SentOnce.sends {records : List TcpRecord} (ascending : records.Pairwise (·.block < ·.block))
    (fresh : ∀ event ∈ log, event.block ≠ some record.block) (member : record ∈ records) (now : BitVec 64) :
    SentOnce ((records.map (sent · now)).reverse ++ log) record := by
  obtain ⟨before, behind, rfl⟩ := List.append_of_mem member
  obtain ⟨-, later, between⟩ := List.pairwise_append.mp ascending
  have above : ∀ r ∈ behind, record.block < r.block := (List.pairwise_cons.mp later).1
  have below : ∀ r ∈ before, r.block < record.block := fun r old => between r old record (List.mem_cons_self ..)
  have first : SentOnce (sent record now :: ((before.map (sent · now)).reverse ++ log)) record := by
    refine .first (fun event old => ?_) now
    rcases List.mem_append.mp old with sent | old
    · obtain ⟨r, earlier, rfl⟩ := List.mem_map.mp (List.mem_reverse.mp sent)
      exact fun same => Nat.ne_of_lt (below r earlier) (Option.some.inj same)
    · exact fresh event old
  have all := first.append (l := (behind.map (sent · now)).reverse) fun event new => by
    obtain ⟨r, later, rfl⟩ := List.mem_map.mp (List.mem_reverse.mp new)
    exact ⟨fun same => Nat.ne_of_gt (above r later) (Option.some.inj same), id⟩
  rwa [List.map_append, List.map_cons, List.reverse_append, List.reverse_cons, List.append_assoc, List.append_assoc]

end RttEvent

namespace TcpSocket

variable {c : Config} {e : Env} {s s' : TcpSocket}

/-! ### The blocks of new segments -/

theorem requestSendBuffer_block (e : Env) (s : TcpSocket) : s.mempool.nextBlock ≤ (s.requestSendBuffer e).2.mempool.nextBlock ∧
    ∀ b, (s.requestSendBuffer e).1 = some b → b = s.mempool.nextBlock ∧ b < (s.requestSendBuffer e).2.mempool.nextBlock := by
  unfold requestSendBuffer
  cases e.alloc s.mempool.requests with
  | ok =>
    refine ⟨Nat.le_succ _, fun b granted => ?_⟩
    rw [← Option.some.inj granted]
    exact ⟨rfl, Nat.lt_succ_self _⟩
  | noMemory => exact ⟨Nat.le_refl _, nofun⟩
  | invalid => exact ⟨Nat.le_succ _, nofun⟩

theorem requestSendBufferTcp_block (c : Config) (e : Env) (s : TcpSocket) :
    s.mempool.nextBlock ≤ (s.requestSendBufferTcp c e).2.mempool.nextBlock ∧
      ∀ b, (s.requestSendBufferTcp c e).1 = some b →
        s.mempool.nextBlock ≤ b ∧ b < (s.requestSendBufferTcp c e).2.mempool.nextBlock := by
  have cleaned := updateHistory_nextBlock c e s false
  obtain ⟨grows, block⟩ := requestSendBuffer_block e (s.updateHistory c e false)
  obtain ⟨grows', block'⟩ := requestSendBuffer_block e s
  unfold requestSendBufferTcp
  dsimp only
  split_ifs
  · exact ⟨Nat.le_of_eq cleaned.symm, nofun⟩
  · rw [cleaned] at grows block
    exact ⟨grows, fun b granted => ⟨Nat.le_of_eq (block b granted).1.symm, (block b granted).2⟩⟩
  · exact ⟨grows', fun b granted => ⟨Nat.le_of_eq (block' b granted).1.symm, (block' b granted).2⟩⟩

theorem sendSegmentIn_head (c : Config) (e : Env) (s : TcpSocket) (block : Nat) (len : BitVec 32) :
    (s.sendSegmentIn c e block len).mempool.nextBlock = s.mempool.nextBlock ∧
      ∃ r rest, (s.sendSegmentIn c e block len).history = r :: rest ∧ r.block = block := by
  obtain ⟨record, same, -, -, -, -, view⟩ := TimingView.Timed.sendSegmentIn_timing c e s block len
  have history : (s.sendSegmentIn c e block len).history = _ := congrArg TimingView.history view
  exact ⟨congrArg TimingView.nextBlock view, record, s.history, history, same⟩

/-- One call of `sendSegment`. -/
theorem sendSegment_blocks (c : Config) (e : Env) (s : TcpSocket) (len : BitVec 32) :
    s.mempool.nextBlock ≤ (s.sendSegment c e len).2.mempool.nextBlock ∧
      ∀ r, (⟨e, s, len⟩ : SendAttempt).record c = some r →
        s.mempool.nextBlock ≤ r.block ∧ r.block < (s.sendSegment c e len).2.mempool.nextBlock := by
  obtain ⟨grows, block⟩ := requestSendBufferTcp_block c e s
  unfold SendAttempt.record SendAttempt.sends SendAttempt.after sendSegment
  dsimp only
  generalize s.requestSendBufferTcp c e = result at grows block ⊢
  obtain ⟨granted, s₁⟩ := result
  cases granted with
  | none => exact ⟨grows, fun r absent => nomatch absent⟩
  | some b =>
    obtain ⟨next, record, rest, history, same⟩ := sendSegmentIn_head c e s₁ b len
    dsimp only
    rw [next, history]
    refine ⟨grows, fun r first => ?_⟩
    obtain rfl : record = r := Option.some.inj first
    exact same ▸ block b rfl

/-- The segments of one `processSendData` are sent in new blocks, one behind the other. -/
theorem Sends.blocks {l : List SendAttempt} (sends : Sends c e s l s') : s.mempool.nextBlock ≤ s'.mempool.nextBlock ∧
    (∀ r ∈ l.filterMap (SendAttempt.record c), s.mempool.nextBlock ≤ r.block ∧ r.block < s'.mempool.nextBlock) ∧
      (l.filterMap (SendAttempt.record c)).Pairwise (·.block < ·.block) := by
  induction sends with
  | done => exact ⟨Nat.le_refl _, List.forall_mem_nil _, .nil⟩
  | @refused s len due refused =>
    have nothing : (⟨e, s, len⟩ : SendAttempt).record c = none := if_neg (by
      change ¬(s.sendSegment c e len).1 = true
      rw [refused]
      exact Bool.false_ne_true)
    rw [List.filterMap_cons_none nothing]
    exact ⟨(sendSegment_blocks c e s len).1, List.forall_mem_nil _, .nil⟩
  | @sent s s' len l due sent rest ih =>
    obtain ⟨grows, block⟩ := sendSegment_blocks c e s len
    obtain ⟨later, blocks, ascending⟩ := ih
    cases record : (⟨e, s, len⟩ : SendAttempt).record c with
    | none =>
      rw [List.filterMap_cons_none record]
      exact ⟨Nat.le_trans grows later, fun r member => ⟨Nat.le_trans grows (blocks r member).1, (blocks r member).2⟩, ascending⟩
    | some r =>
      obtain ⟨least, below⟩ := block r record
      rw [List.filterMap_cons_some record]
      refine ⟨Nat.le_trans grows later, fun r' member => ?_, .cons (fun r' member => ?_) ascending⟩
      · rcases List.mem_cons.mp member with rfl | member
        · exact ⟨least, Nat.lt_of_lt_of_le below later⟩
        · exact ⟨Nat.le_trans grows (blocks r' member).1, (blocks r' member).2⟩
      · exact Nat.lt_of_lt_of_le below (blocks r' member).1

theorem sendAckNum_nextBlock (c : Config) (e : Env) (s : TcpSocket) (ackNum : SeqNum) :
    s.mempool.nextBlock ≤ (s.sendAckNum c e ackNum).2.mempool.nextBlock := by
  have grows := (requestSendBufferTcp_block c e s).1
  unfold sendAckNum
  generalize s.requestSendBufferTcp c e = result at grows ⊢
  obtain ⟨granted, s₁⟩ := result
  cases granted <;> exact grows

theorem sendingSocket_nextBlock {s₁ : TcpSocket} (sending : s.sendingSocket c e = some s₁) :
    s.mempool.nextBlock ≤ s₁.mempool.nextBlock := by
  have updated := updateHistory_nextBlock c e s true
  have acked : s.mempool.nextBlock ≤ ((s.updateHistory c e true).processAck c e).mempool.nextBlock := by
    unfold processAck
    split_ifs
    · exact updated ▸ sendAckNum_nextBlock c e { s.updateHistory c e true with ackTriggered := false } _
    · exact Nat.le_of_eq updated.symm
  unfold sendingSocket at sending
  dsimp only at sending
  split_ifs at sending
  · exact Option.some.inj sending ▸ acked
  · exact Option.some.inj sending ▸ Nat.le_of_eq updated.symm

/-! ### What is sent again -/

theorem resentRecords_mem (c : Config) (e : Env) (s : TcpSocket) (h : TcpHistory) : ∀ r ∈ s.resentRecords c e h, r ∈ h := by
  induction h generalizing s with
  | nil => exact fun r member => absurd member List.not_mem_nil
  | cons record rest ih =>
    intro r member
    unfold resentRecords at member
    split_ifs at member
    · exact List.mem_cons_of_mem _ (ih _ r member)
    · rcases List.mem_append.mp member with first | later
      · exact List.mem_singleton.mp first ▸ List.mem_cons_self ..
      · exact List.mem_cons_of_mem _ (ih _ r later)
    · rcases List.mem_append.mp member with none | later
      · cases none
      · exact List.mem_cons_of_mem _ (ih _ r later)
    · exact List.mem_cons_of_mem _ (ih _ r member)

theorem resent_mem {r : TcpRecord} (member : r ∈ s.resent c e) : e.interface = true ∧ r ∈ s.history := by
  unfold resent at member
  split_ifs at member with interface
  · exact ⟨interface, resentRecords_mem c e s s.history r member⟩
  · exact nomatch member

theorem resentFor_mem {segment : TcpSegment} {r : TcpRecord} (member : r ∈ s.resentFor segment) :
    s.state = .synrcvd ∧ r ∈ s.history := by
  unfold resentFor firstUnsent at member
  split_ifs at member with repeated
  · refine ⟨repeated.1, ?_⟩
    split at member
    · exact nomatch member
    · rename_i history
      rw [history]
      split_ifs at member
      · exact List.mem_singleton.mp member ▸ List.mem_cons_self ..
      · exact nomatch member
  · exact nomatch member

/-- The handlers that pass the number of the segment to `handleACK`. -/
def takesAck (s : TcpSocket) (segment : TcpSegment) : Prop :=
  s.acceptsAck segment ∨ s.state = .synsent ∧ segment.ack = true ∧ segment.syn = true ∨
    s.state = .synrcvd ∧ segment.rst = false ∧ segment.ack = true

instance (s : TcpSocket) (segment : TcpSegment) : Decidable (s.takesAck segment) := inferInstanceAs (Decidable (_ ∨ _))

end TcpSocket

namespace TimingView

variable {c : Config} {d : Round} {e : Env} {s : TcpSocket}

/-! ### Rounds -/

theorem Ready.acked (ready : s.timingView.Ready) (segment : TcpSegment) : (s.ackedBy c e segment).timingView.Ready := by
  unfold TcpSocket.ackedBy
  split_ifs
  · have view : (s.handleAck c e segment.acknum).timingView =
        { s.timingView with rtt := (s.handleAck c e segment.acknum).rtt } := by
      conv_lhs => rw [handleAck_eq]
      rfl
    rw [view]
    refine ⟨ready.buffer, ready.held, fun early => ?_⟩
    have rests : s.rtt.rrtActive = false := ready.opening early
    exact (congrArg RttEstimation.rrtActive (handleAck_rests c e segment.acknum rests)).trans rests
  · exact ready

theorem Ready.begun (ready : d.start.timingView.Ready) : (d.begun c).timingView.Timed c d := by
  refine ready.timed ?_ (.refl _)
  unfold Round.begun
  split_ifs
  · exact .updated c d.env d.start true
  · exact ⟨id, Nat.le_refl _, .refl _, .refl _, fun early _ => early, fun _ => id⟩

end TimingView

namespace Machine

variable {c : Config} {e : Env} {m : Machine} {event : Event}

theorem start_ready (c : Config) (e : Env) (event : Event) (ready : m.sock.timingView.Ready) :
    (m.round c e event).start.timingView.Ready := by
  rcases round_start c e m event with start | ⟨r, rest, dport, -, -, start⟩
  · exact start.symm ▸ ready
  · rw [start]
    exact TimingView.Ready.acked (s := taking m.sock rest dport) ready r.segment

theorem start_same (c : Config) (e : Env) (m : Machine) (event : Event) :
    (m.round c e event).start.state = m.sock.state ∧ (m.round c e event).start.history = m.sock.history ∧
      (m.round c e event).start.mempool.nextBlock = m.sock.mempool.nextBlock := by
  rcases round_start c e m event with start | ⟨r, rest, dport, -, -, start⟩
  · rw [start]
    exact ⟨rfl, rfl, rfl⟩
  · rw [start, ackedBy_eq]
    exact ⟨rfl, rfl, rfl⟩

theorem step_timed (woven : c.rttEstimation = true) (ready : m.sock.timingView.Ready) (a : Env × Event) :
    (m.step c a).sock.timingView.Timed c (m.round c a.1 a.2) := by
  obtain ⟨e, event⟩ := a
  refine step_keeps_begun (P := fun x => x.2.timingView.Timed c (m.round c e event)) (fun _ => (start_ready c e event ready).begun)
    ?_ (fun x y action => TimingView.Timed.action woven action)
  intro r rest dport tick queued input quiet start
  have begun : (m.round c e event).begun c = (m.round c e event).start := by
    unfold Round.begun
    rw [quiet]
    rfl
  have timed := (start_ready c e event ready).begun (c := c)
  rwa [begun] at timed

/-- The number that a step passes to `handleACK`, where it acknowledges something new. -/
def acceptedAck (m : Machine) (a : Env × Event) : Option SeqNum :=
  match a.2, m.inputOf a.1 with
  | .tick, some (s, some r) => if s.takesAck r.segment ∧ s.ackAdvances r.segment.acknum then some r.segment.acknum else none
  | _, _ => none

/-- The time that a step passes to `update_SRTT`. -/
def sampledBy (c : Config) (m : Machine) (a : Env × Event) : Option (BitVec 32) :=
  if c.rttEstimation then (m.acceptedAck a).bind (m.sock.rtt.measured c · a.1.now) else none

theorem sampledBy_some {a : Env × Event} {msec : BitVec 32} (sampled : m.sampledBy c a = some msec) :
    ∃ acknum, m.acceptedAck a = some acknum ∧ m.sock.rtt.measured c acknum a.1.now = some msec := by
  unfold sampledBy at sampled
  split_ifs at sampled
  exact Option.bind_eq_some_iff.mp sampled

/-- A closed socket takes no acknowledgement. -/
theorem acceptedAck_alive {a : Env × Event} {acknum : SeqNum} (accepted : m.acceptedAck a = some acknum) :
    m.sock.state ≠ .closed := by
  obtain ⟨e, event⟩ := a
  unfold acceptedAck at accepted
  cases event with
  | tick =>
    cases calls : m.inputOf e with
    | none => simp [calls] at accepted
    | some input =>
      obtain ⟨s, segment⟩ := input
      cases segment with
      | none => simp [calls] at accepted
      | some r =>
        obtain ⟨rest, dport, queued, rfl⟩ := inputOf_some calls
        rw [calls] at accepted
        dsimp only at accepted
        split_ifs at accepted with taken
        have state : (taking m.sock rest dport).state = m.sock.state := rfl
        rw [← state]
        rcases taken.1 with ⟨opened | state | state | state, -⟩ | ⟨state, -⟩ | ⟨state, -⟩
        · rcases opened with state | state <;> simp [state]
        all_goals simp [state]
  | _ => exact nomatch accepted

/-- The records of the data segments that a step sends. -/
def sentRecords (c : Config) (m : Machine) (a : Env × Event) : List TcpRecord :=
  (a.2.sendAttempts c a.1 m).filterMap (SendAttempt.record c)

/-- Where its actions start, a round has taken its sample. -/
theorem start_rtt (woven : c.rttEstimation = true) (ready : m.sock.timingView.Ready) (a : Env × Event) :
    (m.round c a.1 a.2).start.rtt = (m.sampledBy c a).elim m.sock.rtt m.sock.rtt.sample := by
  obtain ⟨e, event⟩ := a
  unfold sampledBy
  rw [if_pos woven]
  dsimp only
  cases event with
  | tick =>
    unfold acceptedAck
    cases calls : m.inputOf e with
    | none =>
      have start : (m.round c e .tick).start = m.sock := by simp only [Machine.round, calls]
      rw [start]
      rfl
    | some input =>
      obtain ⟨s, segment⟩ := input
      cases segment with
      | none =>
        obtain rfl := inputOf_none calls
        rw [(round_idles (c := c) calls).start]
        rfl
      | some r =>
        obtain ⟨rest, dport, queued, rfl⟩ := inputOf_some calls
        have start : (m.round c e .tick).start = (taking m.sock rest dport).ackedBy c e r.segment := by
          simp only [Machine.round, calls]
        have early : ¬(taking m.sock rest dport).acceptsAck r.segment → (taking m.sock rest dport).takesAck r.segment →
            m.sock.rtt.rrtActive = false := by
          intro other takes
          rcases takes with accepts | ⟨state, -⟩ | ⟨state, -⟩
          · exact absurd accepts other
          · exact ready.opening (.inr (.inl state))
          · exact ready.opening (.inr (.inr state))
        rw [start]
        dsimp only
        unfold ackedBy
        by_cases accepts : (taking m.sock rest dport).acceptsAck r.segment
        · rw [if_pos accepts, handleAck_rtt]
          by_cases advances : (taking m.sock rest dport).ackAdvances r.segment.acknum
          · rw [if_pos ⟨advances, woven⟩, if_pos ⟨.inl accepts, advances⟩]
            exact m.sock.rtt.update_measured c r.segment.acknum e.now
          · rw [if_neg fun both => advances both.1, if_neg fun both => advances both.2]
            rfl
        · rw [if_neg accepts]
          split_ifs with taken
          · have rests := early accepts taken.1
            have nothing : m.sock.rtt.measured c r.segment.acknum e.now = none :=
              if_neg fun both => Bool.false_ne_true (rests.symm.trans both.1)
            rw [Option.bind_some, nothing]
            rfl
          · rfl
  | _ => rfl

theorem sentRecords_blocks (c : Config) (m : Machine) (a : Env × Event) :
    (∀ r ∈ m.sentRecords c a, m.sock.mempool.nextBlock ≤ r.block ∧ r.block < (m.step c a).sock.mempool.nextBlock) ∧
      (m.sentRecords c a).Pairwise (·.block < ·.block) := by
  obtain ⟨e, event⟩ := a
  unfold sentRecords
  rcases sendAttempts_cases c e m event with none | ⟨rfl, calls, s₁, sending, all⟩
  · dsimp only
    rw [none]
    exact ⟨List.forall_mem_nil _, .nil⟩
  · obtain ⟨opened, receiving, waiting⟩ := sendingSocket_waiting sending
    rcases input_idle_write c e ⟨opened, waiting, receiving⟩ with ⟨s₂, sending', -, -, -, result⟩ | ⟨silent, -⟩
    · obtain rfl : s₁ = s₂ := Option.some.inj (sending.symm.trans sending')
      have next : (m.step c (e, .tick)).sock.mempool.nextBlock = (s₁.processSendData c e).mempool.nextBlock := by
        unfold Machine.step Machine.tick
        rw [calls]
        dsimp only
        rw [result]
        unfold finishSending
        split_ifs <;> rfl
      obtain ⟨-, blocks, ascending⟩ := (processSendData_sends c e s₁).blocks
      have grows := sendingSocket_nextBlock sending
      dsimp only
      rw [all, next]
      exact ⟨fun r member => ⟨Nat.le_trans grows (blocks r member).1, (blocks r member).2⟩, ascending⟩
    · exact nomatch silent.symm.trans sending

/-- What a step sends again answers a repeated SYN, or has timed out in the history. -/
theorem resentBy_cases {a : Env × Event} {r : TcpRecord} (member : r ∈ m.resentBy c a) :
    (∃ r', (m.round c a.1 a.2).input = some r' ∧ r ∈ m.sock.resentFor r'.segment) ∨
      r ∈ m.sock.resent c a.1 ∧ (m.round c a.1 a.2).again = true ∧ (m.round c a.1 a.2).start = m.sock := by
  obtain ⟨e, event⟩ := a
  unfold resentBy at member
  dsimp only at member ⊢
  cases event with
  | tick =>
    cases calls : m.inputOf e with
    | none =>
      rw [calls] at member
      dsimp only at member
      split_ifs at member with call
      · refine .inr ⟨member, ?_⟩
        simp only [Machine.round, calls, call, decide_true, and_self]
      · cases member
    | some input =>
      obtain ⟨s, segment⟩ := input
      rw [calls] at member
      cases segment with
      | none =>
        obtain rfl := inputOf_none calls
        dsimp only at member
        unfold resentIdle at member
        split_ifs at member with quiet
        · cases member
        · have idles := round_idles (c := c) calls
          exact .inr ⟨member, by simp_all [Machine.round], idles.start⟩
      | some r' =>
        obtain ⟨rest, dport, queued, rfl⟩ := inputOf_some calls
        refine .inl ⟨r', ?_, member⟩
        simp only [Machine.round, calls]
  | _ => cases member

/-- What a step sends again stands in the history. -/
theorem resentBy_mem {a : Env × Event} {r : TcpRecord} (member : r ∈ m.resentBy c a) : r ∈ m.sock.history ∧
    (m.sock.state = .synrcvd ∨ a.1.interface = true ∧ (m.round c a.1 a.2).again = true ∧ (m.round c a.1 a.2).start = m.sock) := by
  rcases resentBy_cases member with ⟨r', -, repeated⟩ | ⟨again, round⟩
  · obtain ⟨state, held⟩ := resentFor_mem repeated
    exact ⟨held, .inl state⟩
  · obtain ⟨interface, held⟩ := resent_mem again
    exact ⟨held, .inr ⟨interface, round⟩⟩

end Machine

/-- A machine with the events of its round trips, newest first. -/
structure RttRun where
  machine : Machine
  log : List RttEvent

namespace RttRun

variable {c : Config} {o : RttRun} {a : Env × Event}

/-- The events of a step, newest first. -/
def events (c : Config) (m : Machine) (a : Env × Event) : List RttEvent :=
  ((m.sentRecords c a).map (.sent · a.1.now)).reverse ++ (((m.resentBy c a).map .again).reverse ++
    ((m.acceptedAck a).map .ack).toList)

def step (c : Config) (o : RttRun) (a : Env × Event) : RttRun := ⟨o.machine.step c a, events c o.machine a ++ o.log⟩

def construct (c : Config) (memory : TcpSocket) : RttRun := ⟨Machine.construct c memory, []⟩

end RttRun

/-- The acknowledgement ends a round trip of `msec` milliseconds that began with this event. -/
def RttEvent.Begins (c : Config) (log : List RttEvent) (acknum : SeqNum) (now : BitVec 64) (msec : BitVec 32) : RttEvent → Prop
  | sent record time => SentOnce log record ∧ seqLeq record.stop acknum ∧ msec = c.clock.ticksToMs (now - time) &&& 0x7FFFFFFF
  | _ => False

instance (c : Config) (log : List RttEvent) (acknum : SeqNum) (now : BitVec 64) (msec : BitVec 32) :
    (event : RttEvent) → Decidable (event.Begins c log acknum now msec)
  | .sent record _ => inferInstanceAs (Decidable (RttEvent.SentOnce log record ∧ _ ∧ _))
  | .again _ => inferInstanceAs (Decidable False)
  | .ack _ => inferInstanceAs (Decidable False)

namespace RttRun

variable {c : Config} {o : RttRun} {a : Env × Event}

/-- The estimate changes with a sample only, and a sample is the time from the transmission of a
segment that was transmitted once to the first accepted acknowledgement of it. -/
structure KarnSample (c : Config) (o : RttRun) (a : Env × Event) : Prop where
  estimates : ((o.machine.sampledBy c a).elim o.machine.sock.rtt o.machine.sock.rtt.sample).Estimates
    (o.machine.step c a).sock.rtt
  sampled : ∀ msec, o.machine.sampledBy c a = some msec → ∃ acknum, o.machine.acceptedAck a = some acknum ∧
    ∃ event ∈ o.log, event.Begins c o.log acknum a.1.now msec

/-- A round trip of the connection is measured. -/
def measuring (o : RttRun) : Prop := o.machine.sock.state ≠ .closed ∧ o.machine.sock.rtt.rrtActive = true

instance (o : RttRun) : Decidable o.measuring := inferInstanceAs (Decidable (_ ∧ _))

/-- While a round trip is measured, no acknowledgement ends exactly behind its segment, and that
segment is sent again only together with the first unacknowledged one. -/
def Karn (c : Config) (o : RttRun) (a : Env × Event) : Prop :=
  o.measuring → o.machine.acceptedAck a ≠ some o.machine.sock.rtt.rttSeqnum ∧
    (¬o.machine.sock.recovers c a.1 → ∀ record ∈ o.machine.resentBy c a, record.stop ≠ o.machine.sock.rtt.rttSeqnum)

instance (c : Config) (o : RttRun) (a : Env × Event) : Decidable (o.Karn c a) := inferInstanceAs (Decidable (_ → _ ∧ (_ → _)))

/-- The round trip that is measured is the one of a segment that was transmitted once and that no
acknowledgement covers yet. -/
structure Inv (o : RttRun) : Prop where
  ready : o.machine.sock.timingView.Ready
  fresh : ∀ event ∈ o.log, ∀ b, event.block = some b → b < o.machine.sock.mempool.nextBlock
  measures : o.measuring → ∃ record, .sent record o.machine.sock.rtt.rrtTime ∈ o.log ∧
    RttEvent.SentOnce o.log record ∧ record.stop = o.machine.sock.rtt.rttSeqnum ∧
      ∀ r ∈ o.machine.sock.history, r.block = record.block → r.segment = record.segment

theorem seqLt_of_seqLeq {a b : SeqNum} (below : seqLeq a b) (other : b ≠ a) : seqLt a b := by
  have apart : (a - b).toInt ≠ 0 := by
    intro zero
    have same : a - b = 0 := BitVec.eq_of_toInt_eq zero
    exact other (sub_eq_zero.mp same).symm
  unfold seqLeq at below
  unfold seqLt
  omega

theorem mem_events {event : RttEvent} (member : event ∈ events c o.machine a) :
    (∃ r ∈ o.machine.sentRecords c a, event = .sent r a.1.now) ∨ (∃ r ∈ o.machine.resentBy c a, event = .again r) ∨
      ∃ n, o.machine.acceptedAck a = some n ∧ event = .ack n := by
  unfold events at member
  simp only [List.mem_append, List.mem_reverse, List.mem_map, Option.mem_toList, Option.map_eq_some_iff] at member
  obtain ⟨r, new, rfl⟩ | ⟨r, old, rfl⟩ | ⟨n, accepted, rfl⟩ := member
  · exact .inl ⟨r, new, rfl⟩
  · exact .inr (.inl ⟨r, old, rfl⟩)
  · exact .inr (.inr ⟨n, accepted, rfl⟩)

theorem Inv.step_fresh (inv : o.Inv) (woven : c.rttEstimation = true) :
    ∀ event ∈ (o.step c a).log, ∀ b, event.block = some b → b < (o.step c a).machine.sock.mempool.nextBlock := by
  have grows : o.machine.sock.mempool.nextBlock ≤ (o.machine.step c a).sock.mempool.nextBlock := by
    have timed := Machine.step_timed woven inv.ready a
    exact (Machine.start_same c a.1 o.machine a.2).2.2 ▸ timed.grows
  intro event member b block
  rcases List.mem_append.mp member with new | old
  · rcases mem_events new with ⟨r, sent, rfl⟩ | ⟨r, again, rfl⟩ | ⟨n, -, rfl⟩
    · obtain rfl := Option.some.inj block
      exact ((Machine.sentRecords_blocks c o.machine a).1 r sent).2
    · obtain rfl := Option.some.inj block
      exact Nat.lt_of_lt_of_le (inv.ready.held r (Machine.resentBy_mem again).1) grows
    · exact nomatch block
  · exact Nat.lt_of_lt_of_le (inv.fresh event old b block) grows

/-- A measurement that goes on through a step goes on from the one before it. -/
theorem Inv.continued (inv : o.Inv) (woven : c.rttEstimation = true) (karn : o.Karn c a) {rtt : RttEstimation}
    (continues : ((o.machine.round c a.1 a.2).begun c).rtt.Continues rtt) (active : rtt.rrtActive = true)
    (alive : o.machine.sock.state ≠ .closed) :
    o.machine.sock.rtt.Continues rtt ∧ ∀ record : TcpRecord, record.stop = o.machine.sock.rtt.rttSeqnum →
      (∀ r ∈ o.machine.sock.history, r.block = record.block → r.segment = record.segment) →
      record.block < o.machine.sock.mempool.nextBlock →
      ∀ event ∈ events c o.machine a, event.block ≠ some record.block ∧ ¬event.acks record.stop := by
  have begun : (o.machine.round c a.1 a.2).start.rtt.Continues ((o.machine.round c a.1 a.2).begun c).rtt := by
    unfold Round.begun
    split_ifs
    · exact updateHistory_continues c _ _ true
    · exact .refl _
  have start := Machine.start_rtt woven inv.ready a
  have unsampled : o.machine.sampledBy c a = none := by
    cases sampled : o.machine.sampledBy c a with
    | none => rfl
    | some msec =>
      rw [sampled] at start
      have before := begun.active (continues.active active)
      rw [start] at before
      exact nomatch before
  rw [unsampled] at start
  have measuring : o.machine.sock.rtt.Continues rtt := by
    have all := begun.trans continues
    rw [start] at all
    exact all
  obtain ⟨other, resends⟩ := karn ⟨alive, measuring.active active⟩
  refine ⟨measuring, fun record stop segment below event new => ?_⟩
  rcases mem_events new with ⟨r, sent, rfl⟩ | ⟨r, again, rfl⟩ | ⟨n, accepted, rfl⟩
  · have fresh := ((Machine.sentRecords_blocks c o.machine a).1 r sent).1
    exact ⟨fun same => Nat.not_le_of_lt below (Option.some.inj same ▸ fresh), id⟩
  · obtain ⟨held, state⟩ := Machine.resentBy_mem again
    refine ⟨fun same => ?_, id⟩
    have same : r.stop = o.machine.sock.rtt.rttSeqnum := by
      rw [← stop, TcpRecord.stop, TcpRecord.stop, segment r held (Option.some.inj same)]
    refine resends (fun recovers => ?_) r again same
    rcases state with state | ⟨interface, updates, sock⟩
    · exact Bool.false_ne_true ((inv.ready.opening (.inr (.inr state))).symm.trans (measuring.active active))
    · have ended := updateHistory_recovers woven interface recovers
      have still := continues.active active
      unfold Round.begun at still
      rw [if_pos updates, sock, Machine.round_env, ended] at still
      exact nomatch still
  · refine ⟨nofun, fun covers => ?_⟩
    have behind : n ≠ o.machine.sock.rtt.rttSeqnum := fun exact' => other (exact' ▸ accepted)
    have less := seqLt_of_seqLeq covers (stop ▸ behind)
    rw [stop] at less
    have sampled : o.machine.sock.rtt.measured c n a.1.now = some _ := if_pos ⟨measuring.active active, less⟩
    unfold Machine.sampledBy at unsampled
    rw [if_pos woven, accepted, Option.bind_some, sampled] at unsampled
    exact nomatch unsampled

/-- A measurement that begins in a step. -/
theorem Inv.begins (inv : o.Inv) {v : TimingView} (begins : (o.machine.round c a.1 a.2).Begins c v) :
    ∃ record, .sent record v.rtt.rrtTime ∈ (o.step c a).log ∧ RttEvent.SentOnce (o.step c a).log record ∧
      record.stop = v.rtt.rttSeqnum ∧ ∀ r ∈ v.history, r.block = record.block → r.segment = record.segment := by
  obtain ⟨attempt, record, attempts, sent, stop, time, fresh, below, only⟩ := begins
  rw [(Machine.start_same c a.1 o.machine a.2).2.2] at fresh
  rw [Machine.round_env] at time
  have member : record ∈ o.machine.sentRecords c a := List.mem_filterMap.mpr ⟨attempt, Machine.round_attempts.mp attempts, sent⟩
  have old : ∀ event ∈ ((o.machine.resentBy c a).map .again).reverse ++ ((o.machine.acceptedAck a).map .ack).toList ++ o.log,
      event.block ≠ some record.block := by
    intro event old same
    simp only [List.mem_append, List.mem_reverse, List.mem_map, Option.mem_toList, Option.map_eq_some_iff] at old
    rcases old with (⟨r, again, rfl⟩ | ⟨n, -, rfl⟩) | old
    · have held := inv.ready.held r (Machine.resentBy_mem again).1
      exact Nat.not_le_of_lt held (Option.some.inj same ▸ fresh)
    · exact nomatch same
    · exact Nat.not_le_of_lt (inv.fresh event old _ same) fresh
  have once := RttEvent.SentOnce.sends (Machine.sentRecords_blocks c o.machine a).2 old member a.1.now
  have log : (o.step c a).log = ((o.machine.sentRecords c a).map (RttEvent.sent · a.1.now)).reverse ++
      (((o.machine.resentBy c a).map .again).reverse ++ ((o.machine.acceptedAck a).map .ack).toList ++ o.log) := by
    unfold step events
    simp only [List.append_assoc]
  rw [log]
  refine ⟨record, List.mem_append_left _ (List.mem_reverse.mpr (List.mem_map.mpr ⟨record, member, ?_⟩)), once, stop.symm, only⟩
  rw [time]

theorem Inv.step (inv : o.Inv) (woven : c.rttEstimation = true) (karn : o.Karn c a) : (o.step c a).Inv := by
  have timed := Machine.step_timed woven inv.ready a
  refine ⟨timed.toReady, inv.step_fresh woven, fun ⟨alive, active⟩ => ?_⟩
  rcases timed.measures active with continues | begins
  · have start := Machine.start_same c a.1 o.machine a.2
    have was : o.machine.sock.state ≠ .closed := fun closed => alive (timed.closed (start.1.trans closed) active)
    obtain ⟨measuring, others⟩ := inv.continued woven karn continues active was
    obtain ⟨record, sent, once, stop, segment⟩ := inv.measures ⟨was, measuring.active active⟩
    have below := inv.fresh _ sent record.block rfl
    refine ⟨record, ?_, once.append (others record stop segment below), stop.trans measuring.seqnum.symm, fun r held same => ?_⟩
    · exact List.mem_append_right _ (measuring.time ▸ sent)
    · obtain ⟨r₀, old, block, same'⟩ := timed.kept r held (by rwa [start.2.2, same])
      exact same' ▸ segment r₀ (start.2.1 ▸ old) (block.trans same)
  · exact inv.begins begins

theorem Inv.karnSample (inv : o.Inv) (woven : c.rttEstimation = true) : o.KarnSample c a where
  estimates := by
    rw [← Machine.start_rtt woven inv.ready a]
    exact (Machine.step_timed woven inv.ready a).estimates
  sampled msec sampled := by
    obtain ⟨acknum, accepted, measured⟩ := Machine.sampledBy_some sampled
    obtain ⟨active, less, eq⟩ := RttEstimation.measured_some measured
    obtain ⟨record, sent, once, stop, -⟩ := inv.measures ⟨Machine.acceptedAck_alive accepted, active⟩
    refine ⟨acknum, accepted, _, sent, once, ?_, eq⟩
    rw [stop]
    exact Int.le_of_lt less

theorem construct_inv (c : Config) (memory : TcpSocket) : (construct c memory).Inv := by
  have closed : (construct c memory).machine.sock.state = .closed := by
    change (memory.construct c).state = .closed
    rw [construct_eq]
  refine ⟨⟨?_, ?_, fun early => ?_⟩, (fun _ member => nomatch member), fun ⟨alive, _⟩ => absurd closed alive⟩
  · change (memory.construct c).applicationBuflen.toNat ≤ (memory.construct c).applicationBuf.length
    rw [construct_eq]
    exact Nat.zero_le _
  · change ∀ r ∈ (memory.construct c).history, r.block < (memory.construct c).mempool.nextBlock
    rw [construct_eq]
    exact List.forall_mem_nil _
  · change (construct c memory).machine.sock.timingView.opening at early
    unfold TimingView.opening timingView at early
    dsimp only at early
    rw [closed] at early
    simp at early

/-- While every step leaves the measured segment to Karn's algorithm, all samples are right. -/
theorem karnSample_run (woven : c.rttEstimation = true) (memory : TcpSocket) {inputs : List (Env × Event)}
    (follows : Follows (step c) (Karn c) (construct c memory) inputs) :
    Follows (step c) (KarnSample c) (construct c memory) inputs := by
  have kept : ∀ (o : RttRun) (a : Env × Event), o.Inv → o.Karn c a → o.KarnSample c a ∧ (o.step c a).Inv :=
    fun _ _ inv karn => ⟨inv.karnSample woven, inv.step woven karn⟩
  exact (follows.forall_prefix_and kept (construct_inv c memory)).1

/-- A build with the RTT estimation, the tracker of retransmissions and the MSS option. -/
def rttConfig : Config :=
  { Sample.config with rttEstimation := true, rttSampling := true, retransmissionTracker := true, mssOption := true }

/-- Two bytes in a segment each, which are acknowledged together 300 ticks later. -/
def acknowledgedTogether : List (Env × Event) :=
  (Sample.env, .connect) :: Sample.receives { Sample.segment 1000 1 1000 [] with syn := true, optionMss := 1 } ++
    [(Sample.env, .tick), (Sample.env, .write [1, 2] (by decide)), (Sample.env, .tick),
      (Sample.envAt 300 (by decide), .arrive (Sample.segment 1001 3 1000 []) 20), (Sample.envAt 300 (by decide), .tick)]

theorem karnSample_run_together :
    Follows (step rttConfig) (KarnSample rttConfig) (construct rttConfig Sample.memory) acknowledgedTogether :=
  karnSample_run rfl Sample.memory (by decide +kernel)

/-- The first segment is acknowledged at once, the second one is sent later and acknowledged. -/
def acknowledgedExactly : List (Env × Event) :=
  Sample.opening ++ [(Sample.env, .write [1, 2] (by decide)), (Sample.env, .tick)] ++
    Sample.receives (Sample.segment 1001 3 1000 []) ++ [(Sample.env, .tick), (Sample.env, .tick)] ++
    [(Sample.envAt 300 (by decide), .write [3] (by decide)), (Sample.envAt 300 (by decide), .tick),
      (Sample.envAt 500 (by decide), .arrive (Sample.segment 1001 4 1000 []) 20)]

/-- The acknowledgement that ends exactly behind the measured segment takes no sample, and the next
one takes the time since that segment. -/
theorem acknowledgedExactly_samples : ¬∀ (c : Config) (memory : TcpSocket) (inputs : List (Env × Event)),
    c.rttEstimation = true → c.rttSampling = true → c.retransmissionTracker = true →
      Follows (step c) (KarnSample c) (construct c memory) inputs := by
  intro always
  have run := always rttConfig Sample.memory (acknowledgedExactly ++ [(Sample.envAt 500 (by decide), .tick)]) rfl rfl rfl
  obtain ⟨acknum, accepted, measured⟩ := run.last.sampled 500 (by decide +kernel)
  have number : (acknowledgedExactly.foldl (step rttConfig) (construct rttConfig Sample.memory)).machine.acceptedAck
      (Sample.envAt 500 (by decide), .tick) = some 4 := by decide +kernel
  obtain rfl : 4 = acknum := Option.some.inj (number.symm.trans accepted)
  revert measured
  decide +kernel

end RttRun

end IPStack
