import IPStack.Tcp.IdleRounds
import IPStack.Lib.Reach

/-! Every step of a machine as actions, and the rule for invariants of runs that follows. -/

namespace IPStack

namespace TcpSocket

variable {c : Config} {d : Round} {s : TcpSocket}

/-- What a socket starts with; the rest is what the memory held. -/
theorem construct_eq (c : Config) (memory : TcpSocket) :
    memory.construct c = { memory with
      state := .closed, receiving := false, receiveBuffer := memory.receiveBuffer.construct c
      maxReceiveWindowMss := c.countBig, maxReceiveWindowBytes := (memory.construct c).maxReceiveWindowBytes
      history := [], mempool := ⟨0, 0, []⟩, packetbuffer := [], finReceived := false, ackTriggered := false
      dport := 0, sport := 0, mss := (memory.construct c).mss, applicationBuflen := 0, waiting := false
      slowStart := (memory.construct c).slowStart, trace := ⟨[], 0, none, false, 0⟩ } := by
  unfold construct setMss initSlowStart
  dsimp only
  split_ifs <;> rfl

theorem genInitialSeqnum_fresh (c : Config) (e : Env) (s : TcpSocket) :
    (s.genInitialSeqnum c e).seqnumNext = (s.genInitialSeqnum c e).seqnumUnacked ∧
      (s.genInitialSeqnum c e).state = s.state ∧ (s.genInitialSeqnum c e).RtoPos c := by
  unfold genInitialSeqnum RtoPos
  dsimp only
  split_ifs with woven
  · exact ⟨rfl, rfl, fun _ => by simp [RttEstimation.rttInit]⟩
  · exact ⟨rfl, rfl, fun absent => absurd absent woven⟩

/-- No round trip of an earlier connection is measured any longer. -/
theorem genInitialSeqnum_rest (e : Env) (s : TcpSocket) (woven : c.rttEstimation = true) :
    (s.genInitialSeqnum c e).rtt.rrtActive = false := by
  unfold genInitialSeqnum
  rw [if_pos woven]
  rfl

theorem connectBase_actions (closed : s.state = .closed) (runs : s.history.isFull c = true → d.updates) :
    Actions c d (false, s) (false, s.connectBase c d.env) := by
  unfold connectBase
  obtain ⟨fresh, state, rto⟩ := genInitialSeqnum_fresh c d.env s
  have history : (s.genInitialSeqnum c d.env).history = s.history := by
    unfold genInitialSeqnum
    dsimp only
    split_ifs <;> rfl
  refine .head (.initConnect closed) ?_
  dsimp only
  rcases requestSendBufferTcp_actions (c := c) (d := d) (h := false)
      (s := { s.genInitialSeqnum c d.env with sendWindow := 0 }) (fun full => runs (by rwa [history] at full)) with
    ⟨s₁, requested, same, room, granted, eq⟩ | ⟨s₁, requested, same, eq⟩ <;> rw [eq]
  · refine requested.tail (.sendSyn (same.state.trans (state.trans closed)) ?_ same.sendWindow ?_ room granted fun woven => ?_)
    · rw [same.seqnumNext, same.seqnumUnacked]
      exact fresh
    · unfold RtoPos
      rw [same.rtt]
      exact rto
    · rw [same.rtt]
      exact genInitialSeqnum_rest d.env s woven
  · exact requested

theorem closeIn_late (c : Config) (e : Env) (s : TcpSocket) (block : Nat) :
    (s.closeIn c e block).state = .lastack ∨ (s.closeIn c e block).state = .finwait1 := by
  by_cases state : s.state = .closewait
  · exact .inl (if_pos state)
  · exact .inr (if_neg state)

theorem closeBase_actions (runs : s.isOpen → s.history.isFull c = true → d.updates) :
    Actions c d (false, s) (false, s.closeBase c d.env) := by
  unfold closeBase
  split_ifs with opened
  · have alive : s.state ≠ .closed := by rcases opened with state | state <;> simp [state]
    rcases requestSendBufferTcp_actions (c := c) (d := d) (h := false) (s := s) (runs opened.symm) with
      ⟨s₁, requested, same, room, granted, eq⟩ | ⟨s₁, requested, same, eq⟩ <;> rw [eq]
    · refine requested.tail (.sendFin ?_ room granted)
      unfold isOpen
      rw [same.state]
      exact opened.symm
    · exact requested
  · exact .refl

theorem listenBase_actions : Actions c d (false, s) (false, s.listenBase c d.env) := by
  by_cases closed : s.state = .closed
  · exact .single (.listen closed)
  · rw [listenBase, if_neg closed]

end TcpSocket

open TcpSocket

namespace Machine

/-- The round of a step: what it processes, where its actions start, and what it may do. -/
def round (c : Config) (e : Env) (m : Machine) (event : Event) : Round :=
  match event with
  | .tick =>
    match m.inputOf e with
    | some (s, some r) =>
      { env := e, input := some r, start := s.ackedBy c e r.segment, idle := false
        updates := s.history.isFull c = true ∧ s.replies c r, aborts := s.resetBy r.segment }
    | some (s, none) =>
      { env := e, input := none, start := s, idle := true
        updates := s.state ≠ .closed ∧ s.state ≠ .listen, aborts := s.ends c e
        again := s.state ≠ .closed ∧ s.state ≠ .listen }
    | none =>
      { env := e, input := if m.sock.state = .listen then m.sock.packetbuffer.head? else none
        start := m.sock, idle := false, updates := m.call = some (.poll true)
        aborts := m.call = some (.poll true) ∧ m.sock.overdue c e, again := m.call = some (.poll true) }
  | .connect =>
    { env := e, input := none, start := m.sock, idle := false, updates := m.sock.history.isFull c, aborts := false }
  | .close =>
    { env := e, input := none, start := m.sock, idle := false
      updates := m.call = none ∧ m.sock.isOpen ∧ m.sock.history.isFull c = true, aborts := false }
  | .arrive segment size =>
    { env := e, input := none, arrival := some (segment, size), start := m.sock, idle := false, updates := false
      aborts := false }
  | _ => { env := e, input := none, start := m.sock, idle := false, updates := false, aborts := false }

/-- The socket that has taken a packet from its packet buffer. -/
def taking (s : TcpSocket) (rest : List ReceiveBuffer) (dport : BitVec 16) : TcpSocket :=
  { s with packetbuffer := rest, dport := dport }

theorem nextPacket_eq {s s₁ : TcpSocket} {r : ReceiveBuffer} (taken : nextPacket s = (s₁, some r)) :
    ∃ rest, s.packetbuffer = r :: rest ∧ s₁ = { s with packetbuffer := rest } := by
  unfold nextPacket at taken
  split at taken
  · simp at taken
  · rename_i first rest queued
    obtain ⟨rfl, rfl⟩ : { s with packetbuffer := rest } = s₁ ∧ first = r := by simpa using taken
    exact ⟨rest, queued, rfl⟩

theorem listenPacket_eq {s s₁ : TcpSocket} {r : ReceiveBuffer} (taken : listenPacket s = (s₁, some r)) :
    ∃ rest, s.packetbuffer = r :: rest ∧ s₁ = { s with packetbuffer := rest, dport := r.segment.sport } := by
  unfold listenPacket at taken
  split at taken
  · simp at taken
  · rename_i first rest queued
    obtain ⟨rfl, rfl⟩ : { s with packetbuffer := rest, dport := first.segment.sport } = s₁ ∧ first = r := by
      simpa using taken
    exact ⟨rest, queued, rfl⟩

/-- A round that does not call `input` updates the history at the end of `poll` only. -/
theorem settle_actions {c : Config} {e : Env} {m : Machine} (settles : m.inputOf e = none) :
    Actions c (m.round c e .tick) (false, m.sock) (false, (m.round c e .tick).begun c) ∧
      Actions c (m.round c e .tick) (false, (m.round c e .tick).begun c) (false, (m.settle c e).sock) := by
  have round : m.round c e .tick =
      { env := e, input := if m.sock.state = .listen then m.sock.packetbuffer.head? else none
        start := m.sock, idle := false, updates := m.call = some (.poll true)
        aborts := m.call = some (.poll true) ∧ m.sock.overdue c e, again := m.call = some (.poll true) } := by
    simp only [Machine.round, settles]
  have quiet : m.call ≠ some (.poll true) → (m.round c e .tick).begun c = m.sock := by
    intro other
    rw [round]
    exact if_neg (by simpa using other)
  have only : (m.call ≠ some (.poll true)) → Actions c (m.round c e .tick) (false, m.sock) (false, (m.settle c e).sock) →
      Actions c (m.round c e .tick) (false, m.sock) (false, (m.round c e .tick).begun c) ∧
        Actions c (m.round c e .tick) (false, (m.round c e .tick).begun c) (false, (m.settle c e).sock) := by
    intro other actions
    rw [quiet other]
    exact ⟨.refl, actions⟩
  generalize m.round c e .tick = d at round only
  unfold settle at only ⊢
  split at only
  · rename_i call
    exact only (by simp [call]) .refl
  · rename_i call
    exact only (by simp [call]) .refl
  · rename_i processed call
    cases processed with
    | false => exact only (by simp [call]) .refl
    | true =>
      have begun : d.begun c = m.sock.updateHistory c e true := by
        rw [round]
        exact if_pos (by simpa using call)
      have env : d.env = e := by rw [round]
      rw [begun, if_pos rfl, ← env]
      constructor
      · refine updateHistory_actions true ?_ (fun overdue _ interface => ?_) (fun _ => ?_) (fun absent => nomatch absent) <;>
          rw [round] at *
        · exact decide_eq_true call
        · exact decide_eq_true ⟨call, interface, overdue⟩
        · exact ⟨decide_eq_true call, rfl⟩
      · refine (processAck_actions (fun triggered closed => ?_) (fun _ => ?_)).1 <;> rw [round] at *
        · exact ⟨Classical.byContradiction (fun open' => updateHistory_triggered triggered open' closed),
            updateHistory_ackTriggered triggered⟩
        · exact decide_eq_true call
  · rename_i call
    refine only (by simp [call]) ?_
    split
    · rename_i s r state taken
      obtain ⟨rest, queued, rfl⟩ := listenPacket_eq taken
      have input : d.input = some r := by
        rw [round]
        dsimp only
        rw [if_pos state, queued]
        rfl
      exact .head (.dequeue input queued) (.head (.setPorts m.sock.sport r.segment.sport) (.single (.free input)))
    · exact .refl
    · exact .refl
    · split_ifs
      · exact .refl
      · have env : d.env = e := by rw [round]
        exact env ▸ listenBase_actions
  · rename_i polls _ call
    exact only (fun poll => polls true (Option.some.inj (call.symm.trans poll))) .refl

/-- What `input` is called with is the socket without its first packet. -/
theorem inputOf_some {e : Env} {m : Machine} {s : TcpSocket} {r : ReceiveBuffer} (calls : m.inputOf e = some (s, some r)) :
    ∃ rest dport, m.sock.packetbuffer = r :: rest ∧ s = taking m.sock rest dport := by
  have taken : nextPacket m.sock = (s, some r) ∨ listenPacket m.sock = (s, some r) := by
    unfold inputOf at calls
    split at calls
    · simp at calls
    · split_ifs at calls
      exact .inl (by simpa using calls)
    · split_ifs at calls
      · exact .inr (by simpa using calls)
      · exact .inl (by simpa using calls)
    · split_ifs at calls
      exact .inl (by simpa using calls)
  rcases taken with taken | taken
  · obtain ⟨rest, queued, eq⟩ := nextPacket_eq taken
    exact ⟨rest, m.sock.dport, queued, eq⟩
  · obtain ⟨rest, queued, eq⟩ := listenPacket_eq taken
    exact ⟨rest, _, queued, eq⟩

theorem inputOf_none {e : Env} {m : Machine} {s : TcpSocket} (calls : m.inputOf e = some (s, none)) : s = m.sock := by
  have next : ∀ s₁ s₂ : TcpSocket, nextPacket s₁ = (s₂, none) → s₂ = s₁ := by
    intro s₁ s₂ taken
    unfold nextPacket at taken
    split at taken <;> simp_all
  have first : ∀ s₁ s₂ : TcpSocket, listenPacket s₁ = (s₂, none) → s₂ = s₁ := by
    intro s₁ s₂ taken
    unfold listenPacket at taken
    split at taken <;> simp_all
  unfold inputOf at calls
  split at calls
  · simp at calls
  · split_ifs at calls
    exact next _ _ (by simpa using calls)
  · split_ifs at calls
    · exact first _ _ (by simpa using calls)
    · exact next _ _ (by simpa using calls)
  · split_ifs at calls
    exact next _ _ (by simpa using calls)

/-- The steps that process no segment start from the socket itself. -/
theorem begin_actions (c : Config) (e : Env) {m : Machine} (idle : m.call = none) {event : Event} (call : event ≠ .tick)
    (opened : ∀ segment size, event ≠ .arrive segment size) :
    Actions c (m.round c e event) (false, m.sock) (false, (m.begin c e event).sock) := by
  cases event with
  | tick => exact absurd rfl call
  | arrive segment size => exact absurd rfl (opened segment size)
  | connect =>
    unfold begin
    dsimp only
    split_ifs with valid
    · exact .head (.setPorts e.freePort m.sock.dport)
        (connectBase_actions (d := m.round c e .connect) (s := { m.sock with sport := e.freePort }) valid.2 id)
    · exact .refl
  | listen =>
    unfold begin
    dsimp only
    split_ifs
    · exact .refl
    · exact listenBase_actions (d := m.round c e .listen)
  | write data size_lt =>
    unfold begin
    dsimp only
    split_ifs with isOpen
    · exact .single (.write isOpen size_lt)
    · exact .refl
  | receive buffer size_lt =>
    unfold begin
    dsimp only
    split_ifs with isOpen
    · exact .single (.receive isOpen size_lt)
    · exact .refl
  | close => exact closeBase_actions (d := m.round c e .close) (fun isOpen full => decide_eq_true ⟨idle, isOpen, full⟩)
  | poll =>
    unfold begin
    dsimp only
    split_ifs <;> exact .refl
  | setPorts sport dport => exact .single (.setPorts sport dport)
  | setMaxReceiveWindow max => exact .single (.setMaxReceiveWindow max)

theorem round_env (c : Config) (e : Env) (m : Machine) (event : Event) : (m.round c e event).env = e := by
  unfold round
  split
  · split <;> rfl
  all_goals rfl

/-- A round starts from the socket itself, or from the socket that has taken a segment and
processed its acknowledgement. -/
theorem round_start (c : Config) (e : Env) (m : Machine) (event : Event) :
    (m.round c e event).start = m.sock ∨ ∃ r rest dport, m.sock.packetbuffer = r :: rest ∧
      (m.round c e event).input = some r ∧
      (m.round c e event).start = (taking m.sock rest dport).ackedBy c e r.segment := by
  unfold round
  split
  · split
    · rename_i calls
      obtain ⟨rest, dport, queued, rfl⟩ := inputOf_some calls
      exact .inr ⟨_, rest, dport, queued, rfl, rfl⟩
    · rename_i calls
      exact .inl (inputOf_none calls)
    · exact .inl rfl
  all_goals exact .inl rfl

/-- A round without a segment. -/
theorem round_idles {c : Config} {e : Env} {m : Machine} (calls : m.inputOf e = some (m.sock, none)) :
    Idles c (m.round c e .tick) m.sock := by
  have round : m.round c e .tick =
      { env := e, input := none, start := m.sock, idle := true
        updates := m.sock.state ≠ .closed ∧ m.sock.state ≠ .listen, aborts := m.sock.ends c e
        again := m.sock.state ≠ .closed ∧ m.sock.state ≠ .listen } := by
    simp only [Machine.round, calls]
  rw [round]
  exact ⟨rfl, rfl, rfl, fun closed listen => decide_eq_true ⟨closed, listen⟩,
    fun closed listen => decide_eq_true ⟨closed, listen⟩, fun ends => decide_eq_true ends⟩

/-- A round without a segment begins with `updateHistory`, but in CLOSED and LISTEN. -/
theorem idle_actions {c : Config} {e : Env} {m : Machine} (calls : m.inputOf e = some (m.sock, none)) :
    Actions c (m.round c e .tick) (false, m.sock) (false, (m.round c e .tick).begun c) ∧
      Actions c (m.round c e .tick) (false, (m.round c e .tick).begun c) (false, m.sock.input c e none) := by
  have idles := round_idles (c := c) calls
  have env := round_env c e m .tick
  have again : (m.round c e .tick).again = decide (m.sock.state ≠ .closed ∧ m.sock.state ≠ .listen) := by
    simp only [Machine.round, calls]
  by_cases alive : m.sock.state ≠ .closed ∧ m.sock.state ≠ .listen
  · have begun : (m.round c e .tick).begun c = m.sock.updateHistory c e true := by
      unfold Round.begun
      rw [again, if_pos (decide_eq_true alive), idles.start, env]
    have updating := idles.update_actions (h := false) alive
    have rest := input_updated_actions idles alive
    rw [env] at updating rest
    rw [begun]
    exact ⟨updating, rest⟩
  · have begun : (m.round c e .tick).begun c = m.sock := by
      unfold Round.begun
      rw [again, if_neg (by simpa using alive), idles.start]
    have quiet := input_quiet_actions (c := c) (d := m.round c e .tick) alive
    rw [env] at quiet
    rw [begun]
    exact ⟨.refl, quiet⟩

/-- The rule for invariants of a step. A round starts from the socket itself, whose history it may
update first, or from the socket that has taken a segment and processed its acknowledgement.
`P` may also say who owns that segment. -/
theorem step_keeps_begun {c : Config} {e : Env} {m : Machine} {event : Event} {P : Bool × TcpSocket → Prop}
    (base : (m.round c e event).start = m.sock → P (false, (m.round c e event).begun c))
    (entered : ∀ r rest dport, event = .tick → m.sock.packetbuffer = r :: rest → (m.round c e event).input = some r →
      (m.round c e event).again = false →
      (m.round c e event).start = (taking m.sock rest dport).ackedBy c e r.segment → P (true, (m.round c e event).start))
    (preserved : ∀ x y, Action c (m.round c e event) x y → P x → P y) : P (false, (m.step c (e, event)).sock) := by
  have follow : ∀ x y, Actions c (m.round c e event) x y → P x → P y := by
    intro x y actions holds
    induction actions with
    | refl => exact holds
    | tail _ action ih => exact preserved _ _ action ih
  have begins : event ≠ .tick → (∀ segment size, event ≠ .arrive segment size) →
      (m.round c e event).start = m.sock → P (false, m.sock) →
      P (false, (if m.call = none then m.begin c e event else m).sock) := by
    intro call opened start holds
    split_ifs with idle
    · exact follow _ _ (begin_actions c e idle call opened) holds
    · exact holds
  unfold step
  cases event with
  | tick =>
    dsimp only
    unfold tick
    cases calls : m.inputOf e with
    | none => exact follow _ _ (settle_actions calls).2 (base (by simp only [Machine.round, calls]))
    | some input =>
      obtain ⟨s, segment⟩ := input
      cases segment with
      | none =>
        obtain rfl := inputOf_none calls
        exact follow _ _ (idle_actions calls).2 (base (round_idles calls).start)
      | some r =>
        obtain ⟨rest, dport, queued, rfl⟩ := inputOf_some calls
        have round : m.round c e .tick =
            { env := e, input := some r, start := (taking m.sock rest dport).ackedBy c e r.segment, idle := false
              updates := (taking m.sock rest dport).history.isFull c = true ∧ (taking m.sock rest dport).replies c r
              aborts := (taking m.sock rest dport).resetBy r.segment } := by
          simp only [Machine.round, calls]
        have started := entered r rest dport rfl queued (by rw [round]) (by rw [round]) (by rw [round])
        rw [round] at follow started
        exact follow _ _ (input_segment_actions ⟨rfl, rfl, fun full replies => decide_eq_true ⟨full, replies⟩,
          fun resets => decide_eq_true resets⟩) started
  | arrive segment size => exact preserved _ _ (.arrive rfl rfl) (base rfl)
  | connect => exact begins (by simp) (by simp) rfl (base rfl)
  | listen => exact begins (by simp) (by simp) rfl (base rfl)
  | write data size_lt => exact begins (by simp) (by simp) rfl (base rfl)
  | receive buffer size_lt => exact begins (by simp) (by simp) rfl (base rfl)
  | close => exact begins (by simp) (by simp) rfl (base rfl)
  | poll => exact begins (by simp) (by simp) rfl (base rfl)
  | setPorts sport dport => exact begins (by simp) (by simp) rfl (base rfl)
  | setMaxReceiveWindow max => exact begins (by simp) (by simp) rfl (base rfl)

/-- The update of the history at the beginning of a round. -/
theorem begun_actions {c : Config} {e : Env} {m : Machine} {event : Event} (start : (m.round c e event).start = m.sock) :
    Actions c (m.round c e event) (false, m.sock) (false, (m.round c e event).begun c) := by
  have quiet : (m.round c e event).again = false →
      Actions c (m.round c e event) (false, m.sock) (false, (m.round c e event).begun c) := by
    intro quiet
    unfold Round.begun
    rw [quiet, start]
    exact .refl
  cases event with
  | tick =>
    cases calls : m.inputOf e with
    | none => exact (settle_actions calls).1
    | some input =>
      obtain ⟨s, segment⟩ := input
      cases segment with
      | none =>
        obtain rfl := inputOf_none calls
        exact (idle_actions calls).1
      | some r => exact quiet (by simp only [Machine.round, calls])
  | _ => exact quiet rfl

/-- The rule for invariants that `updateHistory` keeps like any other action. -/
theorem step_keeps {c : Config} {e : Env} {m : Machine} {event : Event} {P : Bool × TcpSocket → Prop}
    (base : (m.round c e event).start = m.sock → P (false, m.sock))
    (entered : ∀ r rest dport, event = .tick → m.sock.packetbuffer = r :: rest → (m.round c e event).input = some r →
      (m.round c e event).start = (taking m.sock rest dport).ackedBy c e r.segment → P (true, (m.round c e event).start))
    (preserved : ∀ x y, Action c (m.round c e event) x y → P x → P y) : P (false, (m.step c (e, event)).sock) := by
  refine step_keeps_begun (fun start => ?_) (fun r rest dport tick queued input _ => entered r rest dport tick queued input)
    preserved
  have actions := begun_actions start
  have started := base start
  clear base entered
  generalize (false, (m.round c e event).begun c) = y at actions ⊢
  induction actions with
  | refl => exact started
  | tail _ action ih => exact preserved _ _ action ih

end Machine

end IPStack
