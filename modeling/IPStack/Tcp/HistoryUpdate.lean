import IPStack.Tcp.Statemachine
import Mathlib.Data.List.Forall2

/-! What `updateHistory` does to a socket: the members it can touch, the records it keeps,
and when it kills the connection. -/

namespace IPStack

/-- A record after `updateHistory` that was kept: the same segment in the same block and,
with a retransmission timeout to set, still with or still without a timeout. -/
structure TcpRecord.Kept (rto : Prop) (before after : TcpRecord) : Prop where
  segment : after.segment = before.segment
  block : after.block = before.block
  timeout : rto → (after.timeout = 0 ↔ before.timeout = 0)

theorem TcpRecord.Kept.refl {rto : Prop} (r : TcpRecord) : TcpRecord.Kept rto r r := ⟨rfl, rfl, fun _ => Iff.rfl⟩

theorem forall₂_exists_left {α β : Type*} {R : α → β → Prop} {l : List α} {l' : List β} (related : List.Forall₂ R l l')
    {b : β} (member : b ∈ l') : ∃ a ∈ l, R a b := by
  induction related with
  | nil => simp at member
  | cons first _ ih =>
    rcases List.mem_cons.mp member with rfl | later
    · exact ⟨_, List.mem_cons_self .., first⟩
    · obtain ⟨a, inRest, holds⟩ := ih later
      exact ⟨a, List.mem_cons_of_mem _ inRest, holds⟩

theorem timeoutAfter_ne_zero (c : Config) (e : Env) {msec : BitVec 32} (positive : msec ≠ 0) :
    timeoutAfter c e.now msec ≠ 0 := by
  have ticks := c.clock.msToTicks_pos msec positive
  have small := c.clock.msToTicks_lt msec
  have now := e.now_lt
  simp only [timeoutAfter, positive, ne_eq, not_false_eq_true, if_true]
  bv_omega

@[simp] theorem timeoutAfter_zero (c : Config) (now : BitVec 64) : timeoutAfter c now 0 = 0 := rfl

theorem TcpRecord.timed_of_isTimedOut {r : TcpRecord} {now : BitVec 64} (out : r.isTimedOut now = true) :
    r.timeout ≠ 0 := by
  intro zero
  simp [TcpRecord.isTimedOut, zero] at out

namespace RttEstimation

theorem abort_rto_ne_zero (c : Config) {t : RttEstimation} (positive : t.rto ≠ 0) : (t.abort c).rto ≠ 0 := by
  unfold abort backoff upperRtoBound
  split
  · by_cases below : t.rto < 64000
    · simp only [below, if_true]
      bv_omega
    · simp only [below, if_false]
      decide
  · exact positive

end RttEstimation

namespace TcpSocket

/-- The retransmission timeout is not zero. -/
def RtoPos (c : Config) (s : TcpSocket) : Prop := c.rttEstimation = true → s.rtt.rto ≠ 0

theorem RtoPos.getRto {c : Config} {s : TcpSocket} (pos : s.RtoPos c) : s.getRto c ≠ 0 := by
  unfold TcpSocket.getRto
  split
  · rename_i woven
    exact pos woven
  · decide

/-- The members a retransmission leaves alone. The state is not among them: the
retransmission counter uses it to remember that the connection is to be killed. -/
structure Retransmitted (c : Config) (s s' : TcpSocket) : Prop where
  frame : s' = { s with
    state := s'.state, slowStart := s'.slowStart, retransmitting := s'.retransmitting, rtt := s'.rtt
    trace := { s.trace with wire := s'.trace.wire } }
  rto : s.RtoPos c → s'.RtoPos c
  wire : s.trace.wire ⊆ s'.trace.wire

namespace Retransmitted

variable {c : Config} {s s' s'' : TcpSocket}

theorem refl (s : TcpSocket) : Retransmitted c s s := ⟨rfl, id, fun _ => id⟩

theorem trans (first : Retransmitted c s s') (second : Retransmitted c s' s'') : Retransmitted c s s'' where
  frame := by rw [second.frame, first.frame]
  rto := second.rto ∘ first.rto
  wire := fun _ member => second.wire (first.wire member)

theorem seqnumUnacked (r : Retransmitted c s s') : s'.seqnumUnacked = s.seqnumUnacked := by rw [r.frame]

theorem mempool (r : Retransmitted c s s') : s'.mempool = s.mempool := by rw [r.frame]

theorem withMempool (r : Retransmitted c s s') (m : Mempool) :
    Retransmitted c { s with mempool := m } { s' with mempool := m } where
  frame := by
    have frame := congrArg (fun x : TcpSocket => { x with mempool := m }) r.frame
    exact frame
  rto := r.rto
  wire := r.wire

end Retransmitted

theorem setRetransmitting_retransmitted (c : Config) (s : TcpSocket) : Retransmitted c s (s.setRetransmitting c) := by
  unfold setRetransmitting
  constructor
  · split_ifs <;> rfl
  · intro positive woven
    simp only [woven, if_true]
    split_ifs <;> exact RttEstimation.abort_rto_ne_zero c (positive woven)
  · split_ifs <;> exact fun _ => id

theorem clearRetransmitting_retransmitted (c : Config) (s : TcpSocket) :
    Retransmitted c s (s.clearRetransmitting c) := by
  unfold clearRetransmitting
  split_ifs <;> exact ⟨rfl, id, fun _ => id⟩

theorem send_retransmitted (c : Config) (s : TcpSocket) {b : SendBuffer} (writing : b.state = .writing) :
    Retransmitted c s (s.send b).2 := by
  unfold send
  rw [writing]
  exact ⟨rfl, id, List.subset_cons_self _ _⟩

/-- A record over the retransmission limit, in a build that counts. -/
def OverLimit (c : Config) (record : TcpRecord) : Prop :=
  c.retransmissionCounter = true ∧ c.maxRetransmissions < record.retransmissionCounter

instance (c : Config) (record : TcpRecord) : Decidable (OverLimit c record) := inferInstanceAs (Decidable (_ ∧ _))

/-- A record that kills the connection when it is to be retransmitted once more. -/
def Overdue (c : Config) (e : Env) (s : TcpSocket) (r : TcpRecord) : Prop :=
  ¬ r.released e s.seqnumUnacked ∧ r.isTimedOut e.now = true ∧ OverLimit c r

instance (c : Config) (e : Env) (s : TcpSocket) (r : TcpRecord) : Decidable (Overdue c e s r) :=
  inferInstanceAs (Decidable (_ ∧ _))

/-- The outcome of one `retransmit`: at most the record's own segment is sent, and the
state changes only for a record over the limit. -/
structure RetransmitSpec (c : Config) (s : TcpSocket) (record : TcpRecord) (u : TcpSocket × TcpRecord) : Prop where
  frame : Retransmitted c s u.1
  state : u.1.state = s.state ∨ u.1.state = .closed ∧ OverLimit c record
  kept : record.timeout ≠ 0 → TcpRecord.Kept (s.RtoPos c) record u.2
  wire : ∀ segment ∈ u.1.trace.wire, segment ∈ s.trace.wire ∨ segment = record.segment

theorem retransmitBuffer_spec (c : Config) (e : Env) (s : TcpSocket) (record : TcpRecord) :
    RetransmitSpec c s record (s.retransmitBuffer c e record) where
  frame := send_retransmitted c s rfl
  state := Or.inl rfl
  kept timed := ⟨rfl, rfl, fun pos => iff_of_false (timeoutAfter_ne_zero c e pos.getRto) timed⟩
  wire segment member := by
    rcases List.mem_cons.mp member with same | old
    · exact Or.inr same
    · exact Or.inl old

theorem retransmitCounted_spec (c : Config) (e : Env) (s : TcpSocket) (record : TcpRecord) :
    RetransmitSpec c s record (s.retransmitCounted c e record) := by
  unfold retransmitCounted
  split_ifs with counts exceeded
  · exact ⟨⟨rfl, id, fun _ => id⟩, Or.inr ⟨rfl, counts, exceeded⟩, fun _ => .refl record, fun _ => Or.inl⟩
  · have counted := retransmitBuffer_spec c e s
      { record with retransmissionCounter := record.retransmissionCounter + 1 }
    exact ⟨counted.frame, Or.inl rfl, fun timed => ⟨rfl, rfl, (counted.kept timed).timeout⟩, counted.wire⟩
  · exact retransmitBuffer_spec c e s record

theorem RetransmitSpec.after {c : Config} {s s' : TcpSocket} {record : TcpRecord} {u : TcpSocket × TcpRecord}
    (spec : RetransmitSpec c s' record u) (first : Retransmitted c s s') (state : s'.state = s.state)
    (wire : s'.trace.wire = s.trace.wire) : RetransmitSpec c s record u where
  frame := first.trans spec.frame
  state := by rw [← state]; exact spec.state
  kept timed := ⟨(spec.kept timed).segment, (spec.kept timed).block, (spec.kept timed).timeout ∘ first.rto⟩
  wire := by rw [← wire]; exact spec.wire

theorem retransmitSlowStart_spec (c : Config) (e : Env) (s : TcpSocket) (record : TcpRecord) :
    RetransmitSpec c s record (s.retransmitSlowStart c e record) := by
  unfold retransmitSlowStart
  split_ifs
  · exact (retransmitCounted_spec c e _ record).after ⟨rfl, id, fun _ => id⟩ rfl rfl
  · exact ⟨.refl s, Or.inl rfl, fun _ => .refl record, fun _ => Or.inl⟩
  · exact retransmitCounted_spec c e s record

theorem retransmit_spec (c : Config) (e : Env) (s : TcpSocket) (record : TcpRecord) :
    RetransmitSpec c s record (s.retransmit c e record) := by
  unfold retransmit
  split_ifs
  · refine (retransmitSlowStart_spec c e _ record).after (setRetransmitting_retransmitted c s) ?_ ?_ <;>
      · unfold setRetransmitting
        split_ifs <;> rfl
  · exact retransmitSlowStart_spec c e s record

/-- The outcome of the loop of `updateHistory`. -/
structure UpdateSpec (c : Config) (e : Env) (s : TcpSocket) (doRetransmit : Bool) (h : TcpHistory)
    (u : TcpSocket × TcpHistory) : Prop where
  frame : Retransmitted c { s with mempool := u.1.mempool } u.1
  freed : u.1.mempool =
    { s.mempool with freed := ((h.filter (·.released e s.seqnumUnacked)).map TcpRecord.block).reverse ++ s.mempool.freed }
  kept : List.Forall₂ (TcpRecord.Kept (s.RtoPos c)) (h.filter (¬ ·.released e s.seqnumUnacked)) u.2
  state : u.1.state = s.state ∨
    u.1.state = .closed ∧ doRetransmit = true ∧ ∃ r ∈ h, Overdue c e s r
  wire : ∀ segment ∈ u.1.trace.wire, segment ∈ s.trace.wire ∨ ∃ r ∈ h, segment = r.segment

/-- One record that is not freed: it is retransmitted if that is asked for and it has
timed out. -/
theorem keepRecord_spec (c : Config) (e : Env) (doRetransmit : Bool) (s : TcpSocket) (record : TcpRecord) :
    let u := if doRetransmit ∧ record.isTimedOut e.now then s.retransmit c e record else (s, record)
    Retransmitted c s u.1 ∧ TcpRecord.Kept (s.RtoPos c) record u.2 ∧
      (u.1.state = s.state ∨
        u.1.state = .closed ∧ doRetransmit = true ∧ record.isTimedOut e.now = true ∧ OverLimit c record) ∧
      ∀ segment ∈ u.1.trace.wire, segment ∈ s.trace.wire ∨ segment = record.segment := by
  intro u
  by_cases again : doRetransmit = true ∧ record.isTimedOut e.now = true
  · have spec := retransmit_spec c e s record
    rw [show u = s.retransmit c e record from if_pos again]
    refine ⟨spec.frame, spec.kept (TcpRecord.timed_of_isTimedOut again.2), ?_, spec.wire⟩
    exact spec.state.imp_right (fun ⟨state, exceeded⟩ => ⟨state, again.1, again.2, exceeded⟩)
  · rw [show u = (s, record) from if_neg again]
    exact ⟨.refl s, .refl record, Or.inl rfl, fun _ => Or.inl⟩

theorem updateRecords_spec (c : Config) (e : Env) (doRetransmit : Bool) (s : TcpSocket) (h : TcpHistory) :
    UpdateSpec c e s doRetransmit h (updateRecords c e doRetransmit s h) := by
  induction h generalizing s with
  | nil => exact ⟨.refl s, by simp [updateRecords], .nil, .inl rfl, fun _ => .inl⟩
  | cons record rest ih =>
    unfold updateRecords
    split
    · rename_i released
      have tail := ih { s with mempool := s.mempool.free record.block }
      refine ⟨tail.frame, ?_, ?_, ?_, ?_⟩
      · rw [tail.freed]
        simp [released, Mempool.free]
      · rw [List.filter_cons_of_neg (by simpa using released)]
        exact tail.kept
      · exact tail.state.imp_right (fun ⟨state, again, r, member, exceeded⟩ =>
          ⟨state, again, r, List.mem_cons_of_mem _ member, exceeded⟩)
      · intro segment member
        exact (tail.wire segment member).imp_right (fun ⟨r, inRest, eq⟩ => ⟨r, List.mem_cons_of_mem _ inRest, eq⟩)
    · rename_i retained
      obtain ⟨frame, kept, state, wire⟩ := keepRecord_spec c e doRetransmit s record
      generalize (if doRetransmit ∧ record.isTimedOut e.now then s.retransmit c e record else (s, record)) = u at *
      have tail := ih u.1
      refine ⟨?_, ?_, ?_, ?_, ?_⟩
      · exact .trans (frame.withMempool _) tail.frame
      · rw [tail.freed, frame.mempool]
        simp [frame.seqnumUnacked, retained]
      · simp only [retained, not_false_eq_true, decide_true, List.filter_cons_of_pos]
        refine .cons kept ?_
        have later := tail.kept
        simp only [frame.seqnumUnacked] at later
        exact later.imp (fun _ _ k => ⟨k.segment, k.block, k.timeout ∘ frame.rto⟩)
      · rcases tail.state with same | ⟨closed, again, r, member, exceeded⟩
        · rcases state with old | ⟨closed, again, out, exceeded⟩
          · exact Or.inl (same.trans old)
          · exact Or.inr ⟨same.trans closed, again, record, List.mem_cons_self .., retained, out, exceeded⟩
        · simp only [Overdue, frame.seqnumUnacked] at exceeded
          exact Or.inr ⟨closed, again, r, List.mem_cons_of_mem _ member, exceeded⟩
      · intro segment member
        rcases tail.wire segment member with old | ⟨r, inRest, eq⟩
        · exact (wire segment old).imp_right (fun eq => ⟨record, List.mem_cons_self .., eq⟩)
        · exact Or.inr ⟨r, List.mem_cons_of_mem _ inRest, eq⟩

/-- What every `retransmit` keeps, the loop of `updateHistory` keeps. -/
theorem updateRecords_keeps {c : Config} {e : Env} {P : TcpSocket → Prop} (frees : ∀ s m, P s → P { s with mempool := m })
    (keeps : ∀ s record, P s → P (s.retransmit c e record).1) {doRetransmit : Bool} (s : TcpSocket) (h : TcpHistory)
    (holds : P s) : P (updateRecords c e doRetransmit s h).1 := by
  induction h generalizing s with
  | nil => exact holds
  | cons record rest ih =>
    unfold updateRecords
    split_ifs
    · exact ih _ (frees s _ holds)
    · exact ih _ (keeps s record holds)
    · exact ih _ holds

/-- What `updateHistory` does with an interface, apart from killing the connection. -/
structure HistoryUpdated (c : Config) (e : Env) (doRetransmit : Bool) (s s' : TcpSocket) : Prop where
  frame : s' = { s with
    state := s'.state, history := s'.history, mempool := s'.mempool, slowStart := s'.slowStart
    retransmitting := s'.retransmitting, rtt := s'.rtt, trace := { s.trace with wire := s'.trace.wire } }
  rto : s.RtoPos c → s'.RtoPos c
  sent : s.trace.wire ⊆ s'.trace.wire
  freed : s'.mempool = { s.mempool with
    freed := ((s.history.filter (·.released e s.seqnumUnacked)).map TcpRecord.block).reverse ++ s.mempool.freed }
  kept : List.Forall₂ (TcpRecord.Kept (s.RtoPos c)) (s.history.filter (¬ ·.released e s.seqnumUnacked)) s'.history
  state : s'.state = s.state ∨ s'.state = .closed ∧ doRetransmit = true ∧ ∃ r ∈ s.history, Overdue c e s r
  wire : ∀ segment ∈ s'.trace.wire, segment ∈ s.trace.wire ∨ ∃ r ∈ s.history, segment = r.segment

theorem clearRetransmitting_updated {c : Config} (e : Env) (doRetransmit : Bool) {s : TcpSocket} (empty : s.history = []) :
    HistoryUpdated c e doRetransmit s (s.clearRetransmitting c) := by
  unfold clearRetransmitting
  constructor <;> split_ifs <;> simp [empty, RtoPos]

theorem updateHistoryBody_updated {c : Config} {e : Env} (interface : e.interface = true) (s : TcpSocket)
    (doRetransmit : Bool) : HistoryUpdated c e doRetransmit s (s.updateHistoryBody c e doRetransmit) := by
  unfold updateHistoryBody
  simp only [interface, if_true]
  by_cases cleared : c.retransmissionTracker = true ∧ s.history = []
  · have empty : (s.clearRetransmitting c).history = [] := by rw [(clearRetransmitting_retransmitted c s).frame, cleared.2]
    simp only [cleared, and_self, if_true, empty, updateRecords]
    rw [← empty]
    exact clearRetransmitting_updated e doRetransmit cleared.2
  · simp only [cleared, if_false]
    have spec := updateRecords_spec c e doRetransmit s s.history
    refine ⟨?_, spec.frame.rto, spec.frame.wire, spec.freed, spec.kept, spec.state, spec.wire⟩
    exact congrArg (fun x : TcpSocket => { x with history := (updateRecords c e doRetransmit s s.history).2 }) spec.frame.frame

theorem updateRecords_false (c : Config) (e : Env) (s : TcpSocket) (h : TcpHistory) :
    updateRecords c e false s h =
      ({ s with mempool := (updateRecords c e false s h).1.mempool }, h.filter (¬ ·.released e s.seqnumUnacked)) := by
  induction h generalizing s with
  | nil => rfl
  | cons record rest ih =>
    unfold updateRecords
    split
    · rename_i released
      rw [ih, List.filter_cons_of_neg (by simpa using released)]
    · rename_i retained
      rw [List.filter_cons_of_pos (by simpa using retained)]
      simp only [Bool.false_eq_true, false_and, if_false]
      rw [ih]

/-- Without retransmissions a history that holds a record is only cleaned up. -/
theorem updateHistoryBody_false {c : Config} {e : Env} (interface : e.interface = true) {s : TcpSocket}
    (nonempty : s.history ≠ []) : s.updateHistoryBody c e false =
      { s with
        mempool := (s.updateHistoryBody c e false).mempool
        history := s.history.filter (¬ ·.released e s.seqnumUnacked) } := by
  unfold updateHistoryBody
  simp only [interface, if_true, nonempty, and_false, if_false]
  rw [updateRecords_false]

end TcpSocket

end IPStack
