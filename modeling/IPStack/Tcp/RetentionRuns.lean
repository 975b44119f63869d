import IPStack.Tcp.RetentionSteps

/-! Runs of a machine: retention of unacknowledged data, and the close handshake. -/

namespace IPStack

open Serial TcpSocket Transition

variable {c : Config} {slack : Nat} {m : Machine} {memory : TcpSocket}

theorem SendInv.construct (slack_le : slack ≤ 65535) (memory : TcpSocket) : SendInv c slack (memory.construct c).sendView := by
  rw [construct_eq]
  constructor
  case slack_le => exact slack_le
  all_goals simp [sendView, TcpState.finSent]

namespace Machine

/-- The step does not lose the interface while it updates the history. -/
def keepsInterface (c : Config) (m : Machine) (a : Env × Event) : Prop :=
  (m.round c a.1 a.2).updates = true → a.1.interface = true

/-- Where the step updates the history, the acknowledged position, with the step's own
acknowledgement, splits no segment that waits for its acknowledgement. -/
def acksWhole (c : Config) (m : Machine) (a : Env × Event) : Prop :=
  (m.round c a.1 a.2).updates = true → ¬ (m.round c a.1 a.2).start.sendView.ackedInside

/-- A SYN that crosses ours finds a free send buffer. -/
def answersSyn (c : Config) (m : Machine) (a : Env × Event) : Prop :=
  (m.round c a.1 a.2).start.state = .synsent → (m.round c a.1 a.2).crosses →
    (m.round c a.1 a.2).start.canAllocate a.1

/-- No retransmission limit is exceeded while the FIN waits for its acknowledgement in
FINWAIT1 or CLOSING. -/
def survivesClose (c : Config) (m : Machine) (a : Env × Event) : Prop :=
  (m.round c a.1 a.2).start.state = .finwait1 ∨ (m.round c a.1 a.2).start.state = .closing →
    (m.round c a.1 a.2).input = none → (m.round c a.1 a.2).aborts = false

instance (c : Config) (m : Machine) (a : Env × Event) : Decidable (keepsInterface c m a) :=
  inferInstanceAs (Decidable (_ → _))
instance (c : Config) (m : Machine) (a : Env × Event) : Decidable (acksWhole c m a) :=
  inferInstanceAs (Decidable (_ → _))
instance (c : Config) (m : Machine) (a : Env × Event) : Decidable (answersSyn c m a) :=
  inferInstanceAs (Decidable (_ → _ → _))
instance (c : Config) (m : Machine) (a : Env × Event) : Decidable (survivesClose c m a) :=
  inferInstanceAs (Decidable (_ → _ → _))

/-- A round keeps the invariant with the acknowledgement that it starts with. -/
theorem start_sendInv (inv : SendInv c slack m.sock.sendView) (e : Env) (event : Event) :
    SendInv c slack (m.round c e event).start.sendView := by
  rcases round_start c e m event with start | ⟨r, rest, dport, -, -, start⟩
  · exact start.symm ▸ inv
  · have taken : SendInv c slack (taking m.sock rest dport).sendView := inv
    rw [start, ackedBy]
    split_ifs with accepts
    · have keeps : Retaining c slack False (taking m.sock rest dport).sendView := ⟨taken, False.elim⟩
      have acked : Retaining c slack False ((taking m.sock rest dport).handleAck c e r.segment.acknum).sendView :=
        keeps.ack accepts.1 r.segment.acknum False.elim
      exact acked.inv
    · exact taken

theorem step_sendInv (inv : SendInv c slack m.sock.sendView) {a : Env × Event} (interface : keepsInterface c m a)
    (whole : slack = 65535 ∨ acksWhole c m a ∧ answersSyn c m a) (survives : survivesClose c m a) :
    SendInv c slack (m.step c a).sock.sendView := by
  obtain ⟨e, event⟩ := a
  have wholeStart : (m.round c e event).updates = true →
      slack = 65535 ∨ ¬ (m.round c e event).start.sendView.ackedInside :=
    fun runs => whole.imp_right (fun both => both.1 runs)
  have started := start_sendInv inv e event
  have round : (m.round c e event).Retains c slack := by
    refine ⟨?_, started.quiet, whole.imp_right (fun both => ?_), fun closing input => by simpa using survives closing input⟩
    · rw [round_env]
      exact interface
    · rw [round_env]
      exact both.2
  have done := step_keeps (c := c) (e := e) (m := m)
    (P := fun x => Retaining c slack ((m.round c e event).updates = true) x.2.sendView)
    (fun start => ⟨inv, fun runs => start ▸ wholeStart runs⟩) (fun _ _ _ _ _ _ _ => ⟨started, wholeStart⟩)
    (fun x y action => Retaining.action round action)
  exact done.inv

theorem reach_sendInv (slack : Nat) (slack_le : slack ≤ 65535) {ok : Machine → Env × Event → Prop}
    (reach : Reach (step c) ok (Machine.construct c memory) m)
    (allowed : ∀ m a, ok m a → keepsInterface c m a ∧ (slack = 65535 ∨ acksWhole c m a ∧ answersSyn c m a) ∧ survivesClose c m a) :
    SendInv c slack m.sock.sendView :=
  reach.invariant _ (SendInv.construct slack_le memory) (fun m a inv met => by
    obtain ⟨interface, whole, survives⟩ := allowed m a met
    exact step_sendInv inv interface whole survives)

/-- The condition of `retention`. -/
def retains (c : Config) (m : Machine) (a : Env × Event) : Prop :=
  keepsInterface c m a ∧ acksWhole c m a ∧ answersSyn c m a ∧ survivesClose c m a

instance (c : Config) (m : Machine) (a : Env × Event) : Decidable (retains c m a) :=
  inferInstanceAs (Decidable (_ ∧ _))

/-- Whatever is sent and not acknowledged can be sent again. `updateHistory` drops only
segments that are acknowledged to their end exactly if the acknowledged position splits none. -/
theorem retention (reach : Reach (step c) (retains c) (Machine.construct c memory) m) (alive : m.sock.state ≠ .closed) :
    (∀ x, gap m.sock.seqnumUnacked x < gap m.sock.seqnumUnacked m.sock.seqnumNext →
      ∃ r ∈ m.sock.history, r.timeout ≠ 0 ∧ r.range.Covers x) ∧
    ∀ e, (∀ r ∈ m.sock.history, r.timeout ≠ 0 → r.released e m.sock.seqnumUnacked →
      seqLeq (r.segment.seqnum + BitVec.ofNat 32 r.segment.seqLen) m.sock.seqnumUnacked) ↔
        ¬ m.sock.sendView.ackedInside := by
  have inv := reach_sendInv 0 (by decide) reach (fun m a met => ⟨met.1, .inr ⟨met.2.1, met.2.2.1⟩, met.2.2.2⟩)
  have queue := inv.queue alive
  refine ⟨fun x inside => queue.covers inside, fun e => ?_⟩
  constructor
  · rintro whole ⟨r, member, timed, splits⟩
    exact (queue.released_whole_iff (e := e) (by decide) member timed).mp (whole r member timed) splits
  · intro outside r member timed
    exact (queue.released_whole_iff (by decide) member timed).mpr (fun splits => outside ⟨r, member, timed, splits⟩)

/-- Four bytes are written, and one of them is acknowledged. -/
def partialAck : List (Env × Event) :=
  Sample.opening ++ [(Sample.env, .write [1, 2, 3, 4] (by decide)), (Sample.env, .tick)] ++
    Sample.receives (Sample.segment 1001 2 1000 []) ++ [(Sample.env, .tick)]

theorem partialAck_loses : ∃ m, Reach (step Sample.config) (fun _ a => a.1.interface = true) Sample.machine m ∧
    m.sock.state = .established ∧ ∃ x, gap m.sock.seqnumUnacked x < gap m.sock.seqnumUnacked m.sock.seqnumNext ∧
      ¬ ∃ r ∈ m.sock.history, r.timeout ≠ 0 ∧ r.range.Covers x := by
  refine ⟨Sample.run partialAck, Reach.start.foldl ?_, by decide +kernel, 2, by decide +kernel, ?_⟩
  · decide +kernel
  · have empty : (Sample.run partialAck).sock.history = [] := by decide +kernel
    rw [empty]
    simp

/-- The four bytes are acknowledged at once, and two more are sent. -/
def wholeAck : List (Env × Event) :=
  Sample.opening ++ [(Sample.env, .write [1, 2, 3, 4] (by decide)), (Sample.env, .tick)] ++
    Sample.receives (Sample.segment 1001 5 1000 []) ++
    [(Sample.env, .tick), (Sample.env, .tick), (Sample.env, .write [5, 6] (by decide)), (Sample.env, .tick)]

theorem retention_wholeAck : (Sample.run wholeAck).sock.seqnumNext = 7 ∧
    ∀ x, gap (Sample.run wholeAck).sock.seqnumUnacked x <
        gap (Sample.run wholeAck).sock.seqnumUnacked (Sample.run wholeAck).sock.seqnumNext →
      ∃ r ∈ (Sample.run wholeAck).sock.history, r.timeout ≠ 0 ∧ r.range.Covers x :=
  have alive : (Sample.run wholeAck).sock.state ≠ .closed := by decide +kernel
  have reach : Reach (step Sample.config) (retains Sample.config) Sample.machine (Sample.run wholeAck) :=
    Reach.start.foldl (by decide +kernel)
  ⟨by decide +kernel, (retention reach alive).1⟩

/-! ### The close handshake -/

/-- The condition of `closeHandshake`. -/
def closes (c : Config) (m : Machine) (a : Env × Event) : Prop := keepsInterface c m a ∧ survivesClose c m a

instance (c : Config) (m : Machine) (a : Env × Event) : Decidable (closes c m a) := inferInstanceAs (Decidable (_ ∧ _))

/-- FINWAIT2 and TIMEWAIT are entered only with an acknowledged FIN, and an aborted
connection stays closed. -/
theorem closeHandshake (reach : Reach (step c) (closes c) (Machine.construct c memory) m) :
    (m.sock.state = .finwait2 ∨ m.sock.state = .timewait →
      (∃ segment ∈ m.sock.trace.wire, segment.fin = true ∧ segment.seqnum + 1 = m.sock.seqnumNext) ∧
        m.sock.seqnumUnacked = m.sock.seqnumNext) ∧
    (m.sock.trace.aborted = true → m.sock.state = .closed) := by
  have inv := reach_sendInv 65535 (by decide) reach (fun m a met => ⟨met.1, .inl rfl, met.2⟩)
  refine ⟨fun state => ⟨inv.fin ?_, inv.finished state⟩, inv.aborted⟩
  show m.sock.state.finSent = true
  rcases state with state | state <;> rw [state] <;> rfl

/-- The application closes, and no segment of the peer arrives any more. -/
def silentClose : List (Env × Event) :=
  Sample.opening ++ [(Sample.env, .close)] ++
    [7000, 14000, 21000, 28000, 35000].map (fun now => (Sample.envAt (BitVec.ofNat 64 (now % 2 ^ 62)) (by
      rw [BitVec.toNat_ofNat]
      omega), .tick))

theorem silentClose_finishes : ∃ m, Reach (step Sample.config) (fun _ a => a.1.interface = true) Sample.machine m ∧
    m.sock.state = .finwait2 ∧ m.sock.seqnumUnacked ≠ m.sock.seqnumNext ∧ m.sock.trace.aborted = true :=
  ⟨Sample.run silentClose, Reach.start.foldl (by decide +kernel), by decide +kernel, by decide +kernel, by decide +kernel⟩

/-- The peer acknowledges the FIN. -/
def answeredClose : List (Env × Event) :=
  Sample.opening ++ [(Sample.env, .close)] ++ Sample.receives (Sample.segment 1001 2 1000 []) ++ [(Sample.env, .tick)]

theorem closeHandshake_answeredClose : (Sample.run answeredClose).sock.state = .finwait2 ∧
    (Sample.run answeredClose).sock.seqnumUnacked = (Sample.run answeredClose).sock.seqnumNext :=
  have state : (Sample.run answeredClose).sock.state = .finwait2 := by decide +kernel
  have reach : Reach (step Sample.config) (closes Sample.config) Sample.machine (Sample.run answeredClose) :=
    Reach.start.foldl (by decide +kernel)
  ⟨state, ((closeHandshake reach).1 (.inl state)).2⟩

end Machine

end IPStack
