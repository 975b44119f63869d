import IPStack.Tcp.CongestionRuns
import IPStack.Tcp.Connections
import IPStack.Tcp.RoundTripTime

/-! The round trips that are measured over whole runs: which segment, from when, and up to which
acknowledgement. -/

namespace IPStack

open Serial TcpSocket Transition

/-- The sequence number behind the segment. -/
def TcpRecord.stop (r : TcpRecord) : SeqNum := r.segment.seqnum + BitVec.ofNat 32 r.segment.seqLen

namespace RttEstimation

/-- The smoothed round trip is the same, or the one a connection begins with. -/
def Estimates (t t' : RttEstimation) : Prop := t'.srtt = t.srtt ∧ t'.rttVar = t.rttVar ∨ t'.srtt = 0 ∧ t'.rttVar = 3000

theorem Estimates.refl (t : RttEstimation) : Estimates t t := .inl ⟨rfl, rfl⟩

theorem Estimates.trans {t t' t'' : RttEstimation} (first : Estimates t t') (second : Estimates t' t'') : Estimates t t'' := by
  rcases second with ⟨srtt, rttVar⟩ | begun
  · unfold Estimates
    rw [srtt, rttVar]
    exact first
  · exact .inr begun

/-- The same round trip is measured, or none. -/
structure Continues (t t' : RttEstimation) : Prop where
  seqnum : t'.rttSeqnum = t.rttSeqnum
  time : t'.rrtTime = t.rrtTime
  active : t'.rrtActive = true → t.rrtActive = true
  estimates : Estimates t t'

theorem Continues.refl (t : RttEstimation) : Continues t t := ⟨rfl, rfl, id, .refl t⟩

theorem Continues.trans {t t' t'' : RttEstimation} (first : Continues t t') (second : Continues t' t'') : Continues t t'' :=
  ⟨second.seqnum.trans first.seqnum, second.time.trans first.time, first.active ∘ second.active,
    first.estimates.trans second.estimates⟩

theorem abort_continues (c : Config) (t : RttEstimation) : Continues t (t.abort c) := by
  unfold abort backoff
  split_ifs <;> exact ⟨rfl, rfl, nofun, .inl ⟨rfl, rfl⟩⟩

theorem start_cases (t : RttEstimation) (seqnum : SeqNum) (now : BitVec 64) :
    t.start seqnum now = t ∨ (t.start seqnum now).rttSeqnum = seqnum ∧ (t.start seqnum now).rrtTime = now := by
  unfold start
  split_ifs
  · exact .inl rfl
  · exact .inr ⟨rfl, rfl⟩

theorem start_estimates (t : RttEstimation) (seqnum : SeqNum) (now : BitVec 64) : t.Estimates (t.start seqnum now) := by
  unfold start
  split_ifs
  · exact .refl t
  · exact .inl ⟨rfl, rfl⟩

/-- The time that an acknowledgement passes to `update_SRTT`. -/
def measured (c : Config) (t : RttEstimation) (acknum : SeqNum) (now : BitVec 64) : Option (BitVec 32) :=
  if t.rrtActive ∧ seqLt t.rttSeqnum acknum then some (c.clock.ticksToMs (now - t.rrtTime) &&& 0x7FFFFFFF) else none

theorem update_measured (c : Config) (t : RttEstimation) (acknum : SeqNum) (now : BitVec 64) :
    t.update c acknum now = (t.measured c acknum now).elim t t.sample := by
  rw [update_eq_sample, measured]
  split_ifs <;> rfl

theorem measured_some {c : Config} {t : RttEstimation} {acknum : SeqNum} {now : BitVec 64} {msec : BitVec 32}
    (sampled : t.measured c acknum now = some msec) : t.rrtActive = true ∧ seqLt t.rttSeqnum acknum ∧
      msec = c.clock.ticksToMs (now - t.rrtTime) &&& 0x7FFFFFFF := by
  unfold measured at sampled
  split_ifs at sampled with both
  exact ⟨both.1, both.2, (Option.some.inj sampled).symm⟩

end RttEstimation

namespace TcpSocket

variable {c : Config} {e : Env} {s s' : TcpSocket}

/-! ### Acknowledgements -/

theorem handleAck_rtt (c : Config) (e : Env) (s : TcpSocket) (acknum : SeqNum) :
    (s.handleAck c e acknum).rtt = if s.ackAdvances acknum ∧ c.rttEstimation then s.rtt.update c acknum e.now else s.rtt := by
  by_cases advances : s.ackAdvances acknum
  · rw [handleAck, if_neg advances.1, if_neg advances.2]
    unfold setSeqnumUnacked
    simp only [advances, true_and]
    split_ifs <;> rfl
  · rw [handleAck_of_not_advances advances, if_neg fun both => advances both.1]

/-- While nothing is measured, an acknowledgement gives no sample. -/
theorem handleAck_rests (c : Config) (e : Env) (acknum : SeqNum) (rests : s.rtt.rrtActive = false) :
    (s.handleAck c e acknum).rtt = s.rtt := by
  rw [handleAck_rtt]
  split_ifs
  · rw [RttEstimation.update_eq_sample]
    exact if_neg fun sampled => Bool.false_ne_true (rests.symm.trans sampled.1)
  · rfl

/-! ### Retransmissions -/

theorem setRetransmitting_rtt (c : Config) (s : TcpSocket) :
    (s.setRetransmitting c).rtt = if c.rttEstimation then s.rtt.abort c else s.rtt := by
  unfold setRetransmitting
  dsimp only
  split_ifs <;> rfl

theorem retransmitSlowStart_rtt (c : Config) (e : Env) (s : TcpSocket) (record : TcpRecord) :
    (s.retransmitSlowStart c e record).1.rtt = s.rtt := by
  unfold retransmitSlowStart retransmitCounted retransmitBuffer send
  split_ifs <;> rfl

/-- The measurement is given up with the first unacknowledged segment. -/
theorem retransmit_rtt (c : Config) (e : Env) (s : TcpSocket) (record : TcpRecord) :
    (s.retransmit c e record).1.rtt =
      if (c.retransmissionTracker ∧ record.segment.seqnum = s.seqnumUnacked) ∧ c.rttEstimation then s.rtt.abort c else s.rtt := by
  unfold retransmit
  dsimp only
  rw [retransmitSlowStart_rtt]
  by_cases first : c.retransmissionTracker ∧ record.segment.seqnum = s.seqnumUnacked
  · rw [if_pos first, setRetransmitting_rtt]
    simp only [first, and_self, true_and]
  · rw [if_neg first, if_neg fun both => first both.1]

theorem updateHistory_rtt_body (c : Config) (e : Env) (s : TcpSocket) (doRetransmit : Bool) :
    (s.updateHistory c e doRetransmit).rtt = (s.updateHistoryBody c e doRetransmit).rtt := by
  unfold updateHistory
  dsimp only
  split_ifs <;> rfl

theorem updateHistory_continues (c : Config) (e : Env) (s : TcpSocket) (doRetransmit : Bool) :
    s.rtt.Continues (s.updateHistory c e doRetransmit).rtt := by
  rw [updateHistory_rtt_body]
  have keeps : ∀ (s' : TcpSocket) record, s.rtt.Continues s'.rtt → s.rtt.Continues (s'.retransmit c e record).1.rtt := by
    intro s' record continues
    rw [retransmit_rtt]
    split_ifs
    · exact continues.trans (RttEstimation.abort_continues c s'.rtt)
    · exact continues
  unfold updateHistoryBody
  split_ifs
  · have cleared : (s.clearRetransmitting c).rtt = s.rtt := by
      unfold clearRetransmitting
      split_ifs <;> rfl
    exact updateRecords_keeps (P := fun s' => s.rtt.Continues s'.rtt) (fun _ _ => id) keeps _ _ (cleared ▸ .refl _)
  · exact updateRecords_keeps (P := fun s' => s.rtt.Continues s'.rtt) (fun _ _ => id) keeps s _ (.refl _)
  · exact .refl _

/-- The retransmission of the first unacknowledged segment ends the measurement. -/
theorem updateHistory_recovers (woven : c.rttEstimation = true) (interface : e.interface = true) (recovers : s.recovers c e) :
    (s.updateHistory c e true).rtt.rrtActive = false := by
  obtain ⟨tracks, r, member, first⟩ := recovers
  have nonempty : s.history ≠ [] := by
    intro empty
    simp [expiredRecords, empty] at member
  rw [updateHistory_rtt_body]
  unfold updateHistoryBody
  simp only [interface, if_true, nonempty, and_false, if_false]
  refine updateRecords_recovers (P := fun s' => s'.rtt.rrtActive = false) (fun _ _ => id) (fun s' record rests => ?_)
    (fun s' record atUnacked => ?_) s s.history (.inr ⟨r, member, first⟩)
  · rw [retransmit_rtt]
    split_ifs
    · rfl
    · exact rests
  · rw [retransmit_rtt, if_pos ⟨⟨tracks, atUnacked⟩, woven⟩]
    rfl

/-- Records of the second history stand for segments of the first. -/
def OldRecords (h h' : TcpHistory) : Prop := ∀ r ∈ h', ∃ r₀ ∈ h, r₀.block = r.block ∧ r₀.segment = r.segment

theorem OldRecords.refl (h : TcpHistory) : OldRecords h h := fun r member => ⟨r, member, rfl, rfl⟩

theorem OldRecords.nil (h : TcpHistory) : OldRecords h [] := nofun

theorem OldRecords.trans {h h' h'' : TcpHistory} (first : OldRecords h h') (second : OldRecords h' h'') : OldRecords h h'' := by
  intro r member
  obtain ⟨r₁, old, block, segment⟩ := second r member
  obtain ⟨r₀, older, block', segment'⟩ := first r₁ old
  exact ⟨r₀, older, block'.trans block, segment'.trans segment⟩

theorem updateHistoryBody_oldRecords (c : Config) (e : Env) (s : TcpSocket) (doRetransmit : Bool) :
    OldRecords s.history (s.updateHistoryBody c e doRetransmit).history := by
  cases interface : e.interface with
  | false => simp [updateHistoryBody, interface, clearHistory, OldRecords]
  | true =>
    intro r member
    have kept := (updateHistoryBody_updated (c := c) interface s doRetransmit).kept
    obtain ⟨r₀, old, same⟩ := forall₂_exists_left kept member
    exact ⟨r₀, List.mem_of_mem_filter old, same.block.symm, same.segment.symm⟩

end TcpSocket

/-- The record of the segment that a call of `sendSegment` has sent. -/
def SendAttempt.record (c : Config) (a : SendAttempt) : Option TcpRecord :=
  if a.sends c then (a.after c).history.head? else none

/-- The part of a socket that the measurement of round trips is about. -/
structure TimingView where
  state : TcpState
  history : TcpHistory
  nextBlock : Nat
  applicationBuf : List UInt8
  applicationBuflen : BitVec 32
  rtt : RttEstimation

def TcpSocket.timingView (s : TcpSocket) : TimingView where
  state := s.state
  history := s.history
  nextBlock := s.mempool.nextBlock
  applicationBuf := s.applicationBuf
  applicationBuflen := s.applicationBuflen
  rtt := s.rtt

/-- In the handshake no round trip is measured. -/
def TimingView.opening (v : TimingView) : Prop := v.state = .listen ∨ v.state = .synsent ∨ v.state = .synrcvd

/-- The measurement has begun in this round, with the record of a segment it has sent. -/
def Round.Begins (c : Config) (d : Round) (v : TimingView) : Prop :=
  ∃ a record, d.Attempts c a ∧ a.record c = some record ∧ v.rtt.rttSeqnum = record.stop ∧ v.rtt.rrtTime = d.env.now ∧
    d.start.mempool.nextBlock ≤ record.block ∧ record.block < v.nextBlock ∧
    ∀ r ∈ v.history, r.block = record.block → r.segment = record.segment

/-- What holds between the rounds. -/
structure TimingView.Ready (v : TimingView) : Prop where
  buffer : v.applicationBuflen.toNat ≤ v.applicationBuf.length
  held : ∀ r ∈ v.history, r.block < v.nextBlock
  opening : v.opening → v.rtt.rrtActive = false

/-- Nothing new is sent or measured. -/
structure TimingView.Shrinks (v v' : TimingView) : Prop where
  buffer : v.applicationBuflen.toNat ≤ v.applicationBuf.length → v'.applicationBuflen.toNat ≤ v'.applicationBuf.length
  grows : v.nextBlock ≤ v'.nextBlock
  records : OldRecords v.history v'.history
  continues : v.rtt.Continues v'.rtt
  opening : v'.opening → v'.rtt.rrtActive = true → v.opening
  closed : v'.rtt.rrtActive = true → v.state = .closed → v'.state = .closed

/-- What is kept while a round runs. A measurement goes on from the beginning of the round, or
begins in it; what a closed socket holds is no measurement. -/
structure TimingView.Timed (c : Config) (d : Round) (v : TimingView) : Prop extends v.Ready where
  grows : d.start.mempool.nextBlock ≤ v.nextBlock
  kept : ∀ r ∈ v.history, r.block < d.start.mempool.nextBlock →
    ∃ r₀ ∈ d.start.history, r₀.block = r.block ∧ r₀.segment = r.segment
  estimates : d.start.rtt.Estimates v.rtt
  closed : d.start.state = .closed → v.rtt.rrtActive = true → v.state = .closed
  measures : v.rtt.rrtActive = true → (d.begun c).rtt.Continues v.rtt ∨ d.Begins c v

namespace TimingView

variable {c : Config} {d : Round} {e : Env} {s : TcpSocket} {v v' : TimingView}

namespace Shrinks

theorem cleared (v : TimingView) (state : TcpState) {buf : List UInt8} {len : BitVec 32}
    (buffer : v.applicationBuflen.toNat ≤ v.applicationBuf.length → len.toNat ≤ buf.length)
    (late : ({ v with state := state } : TimingView).opening → v.opening) (closed : v.state = .closed → state = .closed) :
    Shrinks v { v with state := state, history := [], applicationBuf := buf, applicationBuflen := len } :=
  ⟨buffer, Nat.le_refl _, .nil _, .refl _, fun early _ => late early, fun _ => closed⟩

/-- Only the application's data changes. -/
theorem buffered (v : TimingView) (buf : List UInt8) (len : BitVec 32)
    (buffer : v.applicationBuflen.toNat ≤ v.applicationBuf.length → len.toNat ≤ buf.length) :
    Shrinks v { v with applicationBuf := buf, applicationBuflen := len } :=
  ⟨buffer, Nat.le_refl _, .refl _, .refl _, fun early _ => early, fun _ => id⟩

/-- `abort`. -/
theorem aborted (s : TcpSocket) : Shrinks s.timingView s.abort.timingView :=
  cleared _ .closed (fun _ => Nat.zero_le _) (fun early => absurd early (by simp [TimingView.opening])) fun _ => rfl

theorem requested (e : Env) (s : TcpSocket) : Shrinks s.timingView (s.requestSendBuffer e).2.timingView := by
  have only := requestSendBuffer_historyOnly e s
  have same : (s.requestSendBuffer e).2.history = s.history ∧ s.mempool.nextBlock ≤ (s.requestSendBuffer e).2.mempool.nextBlock := by
    unfold requestSendBuffer
    cases e.alloc s.mempool.requests <;> exact ⟨rfl, by simp⟩
  unfold HistoryOnly at only
  have view : (s.requestSendBuffer e).2.timingView = { s.timingView with
      nextBlock := (s.requestSendBuffer e).2.mempool.nextBlock } := by
    rw [timingView, same.1, only]
    rfl
  rw [view]
  exact ⟨id, same.2, .refl _, .refl _, fun early _ => early, fun _ => id⟩

theorem updatedBody (interface : e.interface = true) (s : TcpSocket) (doRetransmit : Bool) {state : TcpState}
    (late : ({ s.timingView with state := state } : TimingView).opening → s.timingView.opening)
    (closed : s.state = .closed → state = .closed) :
    Shrinks s.timingView { (s.updateHistoryBody c e doRetransmit).timingView with state := state } := by
  have updated := updateHistoryBody_updated (c := c) interface s doRetransmit
  have frame : (s.updateHistoryBody c e doRetransmit).applicationBuf = s.applicationBuf ∧
      (s.updateHistoryBody c e doRetransmit).applicationBuflen = s.applicationBuflen := by
    rw [updated.frame]
    exact ⟨rfl, rfl⟩
  refine ⟨fun buffer => ?_, ?_, updateHistoryBody_oldRecords c e s doRetransmit, ?_, fun early _ => late early,
    fun _ => closed⟩
  · change (s.updateHistoryBody c e doRetransmit).applicationBuflen.toNat ≤
      (s.updateHistoryBody c e doRetransmit).applicationBuf.length
    rw [frame.1, frame.2]
    exact buffer
  · change s.mempool.nextBlock ≤ (s.updateHistoryBody c e doRetransmit).mempool.nextBlock
    rw [updated.freed]
  · have continues := updateHistory_continues c e s doRetransmit
    rwa [updateHistory_rtt_body] at continues

theorem trans {v'' : TimingView} (first : Shrinks v v') (second : Shrinks v' v'') : Shrinks v v'' where
  buffer := second.buffer ∘ first.buffer
  grows := Nat.le_trans first.grows second.grows
  records := first.records.trans second.records
  continues := first.continues.trans second.continues
  opening early active := first.opening (second.opening early active) (second.continues.active active)
  closed active := second.closed active ∘ first.closed (second.continues.active active)

/-- `updateHistory`, which kills the connection or leaves its state alone. -/
theorem updated (c : Config) (e : Env) (s : TcpSocket) (doRetransmit : Bool) :
    Shrinks s.timingView (s.updateHistory c e doRetransmit).timingView := by
  rw [updateHistory_eq]
  cases interface : e.interface with
  | false =>
    have body : s.updateHistoryBody c e doRetransmit = s.clearHistory := by simp [updateHistoryBody, interface]
    rw [body]
    split_ifs
    · exact (cleared _ s.state id id id).trans (aborted s.clearHistory)
    · exact cleared _ s.state id id id
  | true =>
    have late : (s.updateHistoryBody c e doRetransmit).timingView.opening → s.timingView.opening := by
      rcases (updateHistoryBody_updated (c := c) interface s doRetransmit).state with same | ⟨closed, -⟩
      · unfold TimingView.opening timingView
        dsimp only
        rw [same]
        exact id
      · exact fun early => absurd early (by simp [TimingView.opening, timingView, closed])
    have closed : s.state = .closed → (s.updateHistoryBody c e doRetransmit).state = .closed := by
      rcases (updateHistoryBody_updated (c := c) interface s doRetransmit).state with same | ⟨closed, -⟩
      · exact same.trans
      · exact fun _ => closed
    have body : Shrinks s.timingView (s.updateHistoryBody c e doRetransmit).timingView :=
      updatedBody interface s doRetransmit late closed
    split_ifs
    · exact body.trans (aborted _)
    · exact body

/-- A new initial sequence number ends the measurement. -/
theorem numbered (woven : c.rttEstimation = true) (e : Env) (s : TcpSocket) (state : TcpState) :
    Shrinks s.timingView { (s.genInitialSeqnum c e).timingView with state := state } := by
  have view : (s.genInitialSeqnum c e).timingView = { s.timingView with rtt := s.rtt.rttInit } := by
    unfold genInitialSeqnum
    rw [if_pos woven]
    rfl
  rw [view]
  exact ⟨id, Nat.le_refl _, .refl _, ⟨rfl, rfl, nofun, .inr ⟨rfl, rfl⟩⟩, (fun _ active => nomatch active), fun active => nomatch active⟩

theorem resent (s : TcpSocket) : Shrinks s.timingView s.resendFirst.timingView := by
  unfold resendFirst
  split
  · exact ⟨id, Nat.le_refl _, .refl _, .refl _, fun early _ => early, fun _ => id⟩
  · rename_i record rest history
    unfold TcpSocket.send
    have old : ∀ b : SendBuffer, b.block = record.block → b.segment = record.segment →
        OldRecords s.history ({ record with sendbuffer := b } :: rest) := by
      intro b block segment r member
      rw [history]
      rcases List.mem_cons.mp member with rfl | later
      · exact ⟨record, List.mem_cons_self .., block.symm, segment.symm⟩
      · exact ⟨r, List.mem_cons_of_mem _ later, rfl, rfl⟩
    split <;> exact ⟨id, Nat.le_refl _, old _ rfl rfl, .refl _, fun early _ => early, fun _ => id⟩

theorem queued (c : Config) (e : Env) (s : TcpSocket) (segment : TcpSegment) (size : BitVec 16) :
    Shrinks s.timingView (s.addToReceiveQueue c e segment size).timingView := by
  unfold addToReceiveQueue
  split_ifs
  · exact ⟨id, Nat.le_refl _, .refl _, .refl _, fun early _ => early, fun _ => id⟩
  · dsimp only
    split <;> exact ⟨id, by simp [timingView], .refl _, .refl _, fun early _ => early, fun _ => id⟩

end Shrinks

theorem Ready.shrinks (ready : v.Ready) (shrinks : v.Shrinks v') : v'.Ready where
  buffer := shrinks.buffer ready.buffer
  held r member := by
    obtain ⟨r₀, old, block, -⟩ := shrinks.records r member
    exact block ▸ Nat.lt_of_lt_of_le (ready.held r₀ old) shrinks.grows
  opening early := by
    cases active : v'.rtt.rrtActive with
    | false => rfl
    | true => exact absurd (shrinks.continues.active active) (by simp [ready.opening (shrinks.opening early active)])

/-- The beginning of a round. -/
theorem Ready.timed (ready : d.start.timingView.Ready) (shrinks : d.start.timingView.Shrinks v)
    (begun : (d.begun c).rtt.Continues v.rtt) : v.Timed c d where
  toReady := ready.shrinks shrinks
  grows := shrinks.grows
  kept r member _ := shrinks.records r member
  estimates := shrinks.continues.estimates
  closed start active := shrinks.closed active start
  measures _ := .inl begun

namespace Timed

theorem shrinks (timed : v.Timed c d) (shrinks : v.Shrinks v') : v'.Timed c d where
  toReady := timed.toReady.shrinks shrinks
  grows := Nat.le_trans timed.grows shrinks.grows
  kept r member before := by
    obtain ⟨r₀, old, block, segment⟩ := shrinks.records r member
    obtain ⟨r₁, first, block', segment'⟩ := timed.kept r₀ old (block ▸ before)
    exact ⟨r₁, first, block'.trans block, segment'.trans segment⟩
  estimates := timed.estimates.trans shrinks.continues.estimates
  closed start active := shrinks.closed active (timed.closed start (shrinks.continues.active active))
  measures active := by
    rcases timed.measures (shrinks.continues.active active) with before | ⟨a, record, attempts, sent, stop, time, fresh, below, only⟩
    · exact .inl (before.trans shrinks.continues)
    · refine .inr ⟨a, record, attempts, sent, shrinks.continues.seqnum.trans stop, shrinks.continues.time.trans time, fresh,
        Nat.lt_of_lt_of_le below shrinks.grows, fun r member same => ?_⟩
      obtain ⟨r₀, old, block, segment⟩ := shrinks.records r member
      exact segment ▸ only r₀ old (block.trans same)

/-- A change of the state behind the handshake. -/
theorem moved (timed : v.Timed c d) {state : TcpState} (late : ¬({ v with state := state } : TimingView).opening)
    (closed : v.state = .closed → d.start.state ≠ .closed) : Timed c d { v with state := state } where
  buffer := timed.buffer
  grows := timed.grows
  held := timed.held
  kept := timed.kept
  opening early := absurd early late
  estimates := timed.estimates
  closed start active := absurd start (closed (timed.closed start active))
  measures := timed.measures

/-- A new record in a new block. -/
theorem pushed (timed : v.Timed c d) {record : TcpRecord} (block : record.block = v.nextBlock) {state : TcpState}
    (opening : ({ v with state := state } : TimingView).opening → v.rtt.rrtActive = false)
    (closed : v.rtt.rrtActive = true → v.state = .closed → state = .closed) :
    Timed c d { v with state := state, history := record :: v.history, nextBlock := v.nextBlock + 1 } where
  buffer := timed.buffer
  grows := Nat.le_succ_of_le timed.grows
  held := by
    intro r member
    rcases List.mem_cons.mp member with rfl | old
    · exact block ▸ Nat.lt_succ_self _
    · exact Nat.lt_succ_of_lt (timed.held r old)
  kept := by
    intro r member before
    rcases List.mem_cons.mp member with rfl | old
    · exact absurd timed.grows (Nat.not_le_of_lt (block ▸ before))
    · exact timed.kept r old before
  opening := opening
  estimates := timed.estimates
  closed start active := closed active (timed.closed start active)
  measures active := by
    rcases timed.measures active with before | ⟨a, first, attempts, sent, stop, time, fresh, below, only⟩
    · exact .inl before
    · refine .inr ⟨a, first, attempts, sent, stop, time, fresh, Nat.lt_succ_of_lt below, fun r member same => ?_⟩
      rcases List.mem_cons.mp member with rfl | old
      · exact absurd below (by rw [← same, block]; exact Nat.lt_irrefl _)
      · exact only r old same

/-- The data is consumed, and a measurement may begin. -/
theorem begins (timed : v.Timed c d) (late : ¬v.opening) (alive : d.start.state ≠ .closed) {buf : List UInt8} {len : BitVec 32} {rtt : RttEstimation}
    (buffer : len.toNat ≤ buf.length) (estimates : v.rtt.Estimates rtt)
    (begins : rtt = v.rtt ∨ d.Begins c { v with rtt := rtt }) :
    Timed c d { v with applicationBuf := buf, applicationBuflen := len, rtt := rtt } where
  buffer := buffer
  grows := timed.grows
  held := timed.held
  kept := timed.kept
  opening early := absurd early late
  estimates := timed.estimates.trans estimates
  closed start := absurd start alive
  measures active := by
    rcases begins with rfl | begins
    · exact timed.measures active
    · exact .inr begins

theorem sendSegmentIn_timing (c : Config) (e : Env) (s : TcpSocket) (block : Nat) (len : BitVec 32) :
    ∃ record : TcpRecord, record.block = block ∧ record.segment.seqnum = s.seqnumNext ∧
      record.segment.data = s.applicationBuf.take len.toNat ∧ record.segment.syn = false ∧ record.segment.fin = false ∧
      (s.sendSegmentIn c e block len).timingView = { s.timingView with
        history := record :: s.history
        applicationBuf := s.applicationBuf.drop len.toNat
        applicationBuflen := s.applicationBuflen - len
        rtt := if c.rttEstimation ∧ c.rttSampling then s.rtt.start (s.seqnumNext + len) e.now else s.rtt } := by
  obtain ⟨segment, first, data, syn, fin, view⟩ := sendSegmentIn_view c e s block len
  refine ⟨sentRecord c e block segment (s.getRto c), rfl, first, data, syn, fin, ?_⟩
  have history : (s.sendSegmentIn c e block len).history = _ := congrArg SendView.history view
  unfold timingView
  rw [history]
  unfold sendSegmentIn lowerSendWindow
  dsimp only
  split_ifs <;> rfl

/-- A new segment with application data. -/
theorem send (timed : s.timingView.Timed c d) (opened : s.isOpen) {a : SendAttempt} (attempts : d.Attempts c a)
    (sent : a.sends c = true) (after : a.after c = s.allocated.sendSegmentIn c d.env s.mempool.nextBlock a.len)
    (left : a.len ≤ s.applicationBuflen) :
    (s.allocated.sendSegmentIn c d.env s.mempool.nextBlock a.len).timingView.Timed c d := by
  obtain ⟨record, block, first, data, syn, fin, view⟩ :=
    sendSegmentIn_timing c d.env s.allocated s.mempool.nextBlock a.len
  have buffer : s.applicationBuflen.toNat ≤ s.applicationBuf.length := timed.buffer
  have late : ¬s.timingView.opening := by
    rcases opened with state | state <;> simp [TimingView.opening, timingView, state]
  have recorded : a.record c = some record := by
    unfold SendAttempt.record
    have history : (s.allocated.sendSegmentIn c d.env s.mempool.nextBlock a.len).history = _ := congrArg TimingView.history view
    rw [if_pos sent, after, history]
    rfl
  have stop : record.stop = s.seqnumNext + a.len := by
    have length : record.segment.seqLen = a.len.toNat := by
      have taken : (s.applicationBuf.take a.len.toNat).length = a.len.toNat := by
        rw [List.length_take]
        exact Nat.min_eq_left (Nat.le_trans left buffer)
      change record.segment.data = s.applicationBuf.take a.len.toNat at data
      simp only [TcpSegment.seqLen, data, syn, fin, taken, Bool.toNat_false, Nat.add_zero]
    unfold TcpRecord.stop
    rw [first, length, BitVec.ofNat_toNat, BitVec.setWidth_eq]
    rfl
  have alive : d.start.state ≠ .closed := by
    obtain ⟨-, s₁, sending, -⟩ := attempts
    rcases (sendingSocket_waiting sending).1 with state | state <;> simp [state]
  rw [view]
  have early : ({ s.timingView with state := s.state } : TimingView).opening → s.rtt.rrtActive = false :=
    fun early => absurd early late
  refine (timed.pushed block early fun _ => id).begins late alive ?_ ?_ ?_
  · change (s.applicationBuflen - a.len).toNat ≤ (s.applicationBuf.drop a.len.toNat).length
    rw [List.length_drop]
    bv_omega
  · split_ifs
    · exact s.rtt.start_estimates (s.seqnumNext + a.len) d.env.now
    · exact .refl s.rtt
  · split_ifs with woven
    · rcases s.rtt.start_cases (s.seqnumNext + a.len) d.env.now with same | ⟨seqnum, time⟩
      · exact .inl same
      refine .inr ⟨a, record, attempts, recorded, seqnum.trans stop.symm, time, block ▸ timed.grows, ?_, fun r member same => ?_⟩
      · exact block ▸ Nat.lt_succ_self _
      · rcases List.mem_cons.mp member with rfl | old
        · rfl
        · exact absurd (timed.held r old) (by rw [same, block]; exact Nat.lt_irrefl _)
    · exact .inl rfl

theorem handleAck_timing (c : Config) (e : Env) (acknum : SeqNum) (rests : s.rtt.rrtActive = false) :
    (s.handleAck c e acknum).timingView = s.timingView := by
  have rtt := handleAck_rests c e acknum rests
  rw [handleAck_eq, timingView, rtt]
  rfl

theorem synrcvdAck (timed : s.timingView.Timed c d) (state : s.state = .synrcvd) (segment : TcpSegment) :
    (s.synrcvdAck c e segment).timingView.Timed c d := by
  have view := handleAck_timing c e segment.acknum (timed.opening (.inr (.inr state)))
  have acked : (s.handleAck c e segment.acknum).timingView.Timed c d := view ▸ timed
  unfold TcpSocket.synrcvdAck
  dsimp only
  split_ifs
  · refine acked.shrinks (.cleared _ .established id (fun early => absurd early (by simp [TimingView.opening])) fun closed => ?_)
    rw [view] at closed
    exact absurd (state.symm.trans closed) nofun
  · exact acked

theorem simultaneous (timed : s.timingView.Timed c d) (state : s.state = .synsent) (segment : TcpSegment) :
    (s.synsentSimultaneous c e segment).timingView.Timed c d := by
  have rests := timed.opening (.inr (.inl state))
  have crossed : (s.crossed segment).timingView.Timed c d := timed.shrinks (.cleared _ s.state id id id)
  rcases synsentSimultaneous_cases c e s segment with ⟨-, eq⟩ | ⟨-, eq⟩ <;> rw [eq]
  · exact crossed.pushed rfl (fun _ => rests) fun active => absurd (rests.symm.trans active) Bool.false_ne_true
  · exact crossed.shrinks (.requested e _)

theorem action (woven : c.rttEstimation = true) {x y : Bool × TcpSocket} (action : Action c d x y)
    (timed : x.2.timingView.Timed c d) : y.2.timingView.Timed c d := by
  cases action with
  | abort reason => exact timed.shrinks (.aborted _)
  | @update h s doRetransmit runs interface alive first cleans =>
    exact timed.shrinks (.updatedBody interface s doRetransmit (fun early => by rwa [alive] at early) alive.trans)
  | kill runs interface aborts same overdue =>
    exact (timed.shrinks (.updatedBody interface _ true id id)).shrinks
      (.cleared _ .closed (fun _ => Nat.zero_le _) (fun early => absurd early (by simp [TimingView.opening])) fun _ => rfl)
  | lose runs interface => exact timed.shrinks (.cleared _ _ id id id)
  | refuse refused => exact timed.shrinks (.requested _ _)
  | reply room granted bare alive => exact timed.pushed rfl timed.opening fun _ => id
  | @send h s len isOpen waiting sending left amount room granted attempt =>
    obtain ⟨a, attempts, rfl, sent, -, after⟩ := attempt
    have fits : a.len ≤ s.applicationBuflen := by
      rcases amount with ⟨eq, -⟩ | ⟨one, -⟩
      · exact eq ▸ (min3_le _ _ _).2
      · rw [one]
        bv_omega
    exact timed.send isOpen attempts sent after fits
  | sendSyn closed fresh window rto room granted rest =>
    exact timed.pushed rfl (fun _ => rest woven) fun active => absurd ((rest woven).symm.trans active) Bool.false_ne_true
  | answerSyn listening room granted =>
    exact timed.pushed rfl (fun _ => timed.opening (.inl listening)) fun _ closed => absurd (listening.symm.trans closed) nofun
  | @sendFin h s isOpen room granted =>
    have late := closeIn_late c d.env s.allocated s.mempool.nextBlock
    have alive : s.timingView.state ≠ .closed := by rcases isOpen with state | state <;> simp [timingView, state]
    exact timed.pushed rfl (fun early => absurd early (by rcases late with late | late <;> simp [TimingView.opening, late]))
      fun _ closed => absurd closed alive
  | resend state input repeated waiting => exact timed.shrinks (.resent _)
  | @setMss h s mss state =>
    dsimp only
    rw [setMss_eq]
    exact timed
  | @refuseSynAck h s r state input other =>
    have view := handleAck_timing c d.env r.segment.acknum (timed.opening (.inr (.inl state)))
    exact view.symm ▸ timed
  | @synAck h s r state input ack syn waiting acked =>
    have view := handleAck_timing c d.env r.segment.acknum (timed.opening (.inr (.inl state)))
    have acked : (s.handleAck c d.env r.segment.acknum).timingView.Timed c d := view.symm ▸ timed
    refine acked.shrinks (.cleared _ .established id (fun early => absurd early (by simp [TimingView.opening])) fun closed => ?_)
    rw [view] at closed
    exact absurd (state.symm.trans closed) nofun
  | simultaneous state input syn noAck waiting requests => exact timed.simultaneous state _
  | synrcvdAck state input accepted waiting => exact timed.synrcvdAck state _
  | @fin h s r input state plain =>
    dsimp only
    rw [handleFin_eq]
    exact timed
  | @window h s r input isOpen plain same =>
    dsimp only
    unfold updateSendWindow
    split_ifs <;> exact timed
  | @peerClosed h s state complete =>
    exact timed.moved (by simp [TimingView.opening]) fun closed => absurd (state.symm.trans closed) nofun
  | bothClosed state complete =>
    exact timed.moved (by simp [TimingView.opening]) fun closed => absurd (state.symm.trans closed) nofun
  | lastClosed complete state =>
    refine timed.moved (by simp [TimingView.opening]) fun closed => ?_
    rcases state with state | ⟨state, -⟩ <;> exact absurd (state.symm.trans closed) nofun
  | finAcked empty state =>
    refine timed.moved (by simp [TimingView.opening]) fun closed => ?_
    rcases state with state | ⟨-, start, -⟩
    · exact absurd (state.symm.trans closed) nofun
    · simp [start]
  | closingAcked empty state =>
    refine timed.moved (by simp [TimingView.opening]) fun closed => ?_
    rcases state with state | ⟨-, start, -⟩
    · exact absurd (state.symm.trans closed) nofun
    · simp [start]
  | arrive start arrival => exact timed.shrinks (.queued c d.env _ _ _)
  | listen closed =>
    dsimp only
    unfold listenBase
    rw [if_pos closed]
    exact timed.shrinks (.numbered woven d.env _ .listen)
  | @initConnect h s closed => exact timed.shrinks (.numbered woven d.env s (s.genInitialSeqnum c d.env).state)
  | @write h s data isOpen size_lt =>
    refine timed.shrinks (.buffered _ data (BitVec.ofNat 32 data.length) fun _ => Nat.le_of_eq ?_)
    rw [BitVec.toNat_ofNat, Nat.mod_eq_of_lt size_lt]
  | @receive h s buffer isOpen size_lt =>
    refine timed.shrinks (.buffered _ buffer (BitVec.ofNat 32 buffer.length &&& 0x7FFFFFFF) fun _ => ?_)
    rw [BitVec.toNat_and, BitVec.toNat_ofNat, Nat.mod_eq_of_lt size_lt]
    exact Nat.and_le_left
  | @read h s len state receiving held fits =>
    have old : s.applicationBuflen.toNat ≤ s.applicationBuf.length := timed.buffer
    refine timed.shrinks (.buffered _ (s.applicationBuf.drop len.toNat) (s.applicationBuflen - len) fun _ => ?_)
    rw [List.length_drop]
    bv_omega
  | @readRest h s state receiving =>
    have old : s.applicationBuflen.toNat ≤ s.applicationBuf.length := timed.buffer
    dsimp only
    unfold closewaitReceive
    dsimp only
    split_ifs with fewer
    · exact timed.shrinks (.buffered _ s.applicationBuf (s.receiveBuffer.getRecvBytes c) fun _ => by bv_omega)
    · exact timed
  | _ => exact timed

end Timed

end TimingView

end IPStack
