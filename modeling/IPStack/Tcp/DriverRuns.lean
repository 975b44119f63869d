import IPStack.Tcp.BufferProtocol
import IPStack.Tcp.RetentionRuns

/-! The send buffers and the driver over whole runs. -/

namespace IPStack

open Serial TcpSocket Transition

/-- A machine with the blocks of the send buffers that the interface has been given and has not
sent. -/
structure DriverRun where
  machine : Machine
  inFlight : List Nat

namespace Machine

/-- The blocks that a step gives to the interface: a new buffer is sent as soon as it is granted. A
block whose headers could not be prepared is counted as well; it is never returned. -/
def handed (c : Config) (m : Machine) (a : Env × Event) : List Nat :=
  (m.resentBy c a).map TcpRecord.block ++
    match a.2 with
    | .arrive _ _ => []
    | _ => List.range' m.sock.mempool.nextBlock ((m.step c a).sock.mempool.nextBlock - m.sock.mempool.nextBlock)

end Machine

namespace DriverRun

variable {c : Config} {o : DriverRun} {a : Env × Event} {memory : TcpSocket}

def step (c : Config) (o : DriverRun) (a : Env × Event) : DriverRun :=
  ⟨o.machine.step c a, (o.machine.handed c a ++ o.inFlight).filter (a.1.hasBeenSent · = false)⟩

def construct (c : Config) (memory : TcpSocket) : DriverRun := ⟨Machine.construct c memory, []⟩

/-- The blocks that the interface has been given before a step or in its retransmissions. -/
def given (c : Config) (o : DriverRun) (a : Env × Event) : List Nat :=
  o.inFlight ++ (o.machine.resentBy c a).map TcpRecord.block

/-- Every call of `send` transmits; and no buffer that the interface has been given and has not sent
is sent again, freed or changed. -/
structure Obeys (c : Config) (o : DriverRun) (a : Env × Event) : Prop where
  transmits : (o.step c a).machine.sock.trace.refused = o.machine.sock.trace.refused
  resubmitted : ∀ r ∈ o.machine.resentBy c a, r.block ∈ o.inFlight → a.1.hasBeenSent r.block = true
  freed : ∀ block ∈ (o.step c a).inFlight, block ∉ (o.step c a).machine.sock.mempool.freed
  unmodified : ∀ r ∈ (o.step c a).machine.sock.history, r.block ∈ o.inFlight → a.1.hasBeenSent r.block = false →
    ∃ r₀ ∈ o.machine.sock.history, r₀.block = r.block ∧ r₀.segment = r.segment

/-- No repeated SYN finds our answer in the history, no retransmission falls due for a buffer that the
interface has not sent, and no such buffer is acknowledged or cleared away. -/
structure Drains (c : Config) (o : DriverRun) (a : Env × Event) : Prop where
  answered : o.machine.sock.state = .synrcvd → (o.machine.round c a.1 a.2).repeatsSyn → o.machine.sock.history = []
  due : ∀ r ∈ o.machine.resentBy c a, r.block ∈ o.inFlight → a.1.hasBeenSent r.block = true
  frees : ∀ r ∈ o.machine.sock.history, (o.machine.round c a.1 a.2).frees r → r.block ∈ o.given c a →
    a.1.hasBeenSent r.block = true

instance (c : Config) (o : DriverRun) (a : Env × Event) : Decidable (o.Drains c a) :=
  decidable_of_iff (_ ∧ _ ∧ _)
    ⟨fun all => ⟨all.1, all.2.1, all.2.2⟩, fun drains => ⟨drains.answered, drains.due, drains.frees⟩⟩

/-- With the window, less than half of the sequence numbers are sent and not acknowledged. -/
def small (c : Config) (o : DriverRun) (a : Env × Event) : Prop :=
  let s := (o.machine.round c a.1 a.2).start
  s.isOpen → 2 * (gap s.seqnumUnacked s.seqnumNext + s.sendWindow.toNat + 1) < 2 ^ 32

instance (c : Config) (o : DriverRun) (a : Env × Event) : Decidable (o.small c a) := inferInstanceAs (Decidable (_ → _))

/-- Without an interface no send buffer is granted. -/
def grants (c : Config) (o : DriverRun) (a : Env × Event) : Prop :=
  (o.machine.round c a.1 a.2).updates = true → a.1.interface = false → ∀ n, a.1.alloc n ≠ .ok

/-- Every buffer that the interface has is in the history, or lost since its headers could not be
prepared; and what the states before the connection know. -/
structure Inv (o : DriverRun) : Prop where
  closed : o.machine.sock.state = .closed → o.machine.sock.history = [] ∧ o.machine.sock.ackTriggered = false
  listening : o.machine.sock.state = .listen → o.machine.sock.seqnumUnacked = o.machine.sock.seqnumNext
  opening : o.machine.sock.state = .synsent ∨ o.machine.sock.state = .synrcvd →
    gap o.machine.sock.seqnumUnacked o.machine.sock.seqnumNext = 1
  holds : ∃ lost, BlocksOnce lost o.machine.sock ∧
    ∀ block ∈ o.inFlight, block ∈ o.machine.sock.history.map TcpRecord.block ∨ block ∈ lost

/-! ### One step -/

/-- An acknowledgement that a round starts with belongs to a connection. -/
theorem start_unacked (c : Config) (e : Env) (m : Machine) (event : Event)
    (early : m.sock.state = .listen ∨ m.sock.state = .synsent ∨ m.sock.state = .synrcvd) :
    (m.round c e event).start.seqnumUnacked = m.sock.seqnumUnacked := by
  rcases Machine.round_start c e m event with start | ⟨r, rest, dport, -, -, start⟩
  · rw [start]
  · have same : (Machine.taking m.sock rest dport).state = m.sock.state := rfl
    have other : ¬(Machine.taking m.sock rest dport).acceptsAck r.segment := by
      rintro ⟨late, -⟩
      unfold isOpen at late
      rw [same] at late
      rcases early with state | state | state <;> simp [state] at late
    rw [start, ackedBy, if_neg other]
    rfl

theorem start_bufferView (c : Config) (e : Env) (m : Machine) (event : Event) : (m.round c e event).start.bufferView =
    { m.sock.bufferView with seqnumUnacked := (m.round c e event).start.seqnumUnacked } := by
  rcases Machine.round_start c e m event with start | ⟨r, rest, dport, -, -, start⟩
  · rw [start]
    rfl
  · rw [start]
    conv_lhs => rw [ackedBy_eq]
    rfl

namespace Inv

variable {lost : List Nat}

/-- The pool gave the block out. -/
theorem below (once : BlocksOnce lost o.machine.sock) {block : Nat}
    (owned : block ∈ o.machine.sock.history.map TcpRecord.block ∨ block ∈ lost) :
    block < o.machine.sock.mempool.nextBlock := by
  have count := once block
  split_ifs at count with given
  · exact given
  · rcases owned with inHistory | inLost
    · have owner : 0 < o.machine.sock.owned.count block :=
        List.count_pos_iff.mpr (List.mem_append_right _ (List.mem_append_right _ inHistory))
      omega
    · have owner := List.count_pos_iff.mpr inLost
      omega

theorem started (inv : o.Inv) (small : o.small c a) :
    (o.machine.round c a.1 a.2).start.bufferView.Numbered (o.machine.round c a.1 a.2) := by
  obtain ⟨lost, once, -⟩ := inv.holds
  have view := start_bufferView c a.1 o.machine a.2
  have state : (o.machine.round c a.1 a.2).start.state = o.machine.sock.state := congrArg BufferView.state view
  have triggered : (o.machine.round c a.1 a.2).start.ackTriggered = o.machine.sock.ackTriggered :=
    congrArg BufferView.ackTriggered view
  have next : (o.machine.round c a.1 a.2).start.seqnumNext = o.machine.sock.seqnumNext := congrArg BufferView.seqnumNext view
  have history : (o.machine.round c a.1 a.2).start.history = o.machine.sock.history := congrArg BufferView.history view
  have pool : (o.machine.round c a.1 a.2).start.mempool.nextBlock = o.machine.sock.mempool.nextBlock :=
    congrArg BufferView.nextBlock view
  have early := start_unacked c a.1 o.machine a.2
  constructor
  case closed =>
    intro now
    have was := inv.closed (state.symm.trans now)
    exact ⟨history.trans was.1, triggered.trans was.2⟩
  case listening =>
    intro now
    have listen := state.symm.trans now
    exact (early (.inl listen)).trans ((inv.listening listen).trans next.symm)
  case opening =>
    intro now
    have opening : o.machine.sock.state = .synsent ∨ o.machine.sock.state = .synrcvd := by rwa [← state]
    change gap (o.machine.round c a.1 a.2).start.seqnumUnacked (o.machine.round c a.1 a.2).start.seqnumNext = 1
    rw [early (.inr opening), next]
    exact inv.opening opening
  case flight =>
    intro opened
    have flight := small opened
    change 2 * gap (o.machine.round c a.1 a.2).start.seqnumUnacked (o.machine.round c a.1 a.2).start.seqnumNext < 2 ^ 32
    omega
  case grows => exact Nat.le_refl _
  case records =>
    intro r member
    have old : r ∈ o.machine.sock.history := history ▸ member
    unfold Round.Stands
    rw [if_pos (pool ▸ below once (.inl (List.mem_map_of_mem old)))]
    exact ⟨rfl, r, member, rfl, rfl, id⟩
  case refused => rfl

theorem drained (inv : o.Inv) (grants : o.grants c a) (small : o.small c a) (drains : o.Drains c a) :
    (o.machine.round c a.1 a.2).Drained (o.given c a) := by
  have view := start_bufferView c a.1 o.machine a.2
  have state : (o.machine.round c a.1 a.2).start.state = o.machine.sock.state := congrArg BufferView.state view
  have history : (o.machine.round c a.1 a.2).start.history = o.machine.sock.history := congrArg BufferView.history view
  have triggered : (o.machine.round c a.1 a.2).start.ackTriggered = o.machine.sock.ackTriggered :=
    congrArg BufferView.ackTriggered view
  have env := Machine.round_env c a.1 o.machine a.2
  constructor
  case quiet => exact fun closed => triggered.trans (inv.closed (state.symm.trans closed)).2
  case answered => exact fun synrcvd repeats => history.trans (drains.answered (state.symm.trans synrcvd) repeats)
  case frees =>
    rw [history, env]
    exact drains.frees
  case granted =>
    rw [env]
    exact grants
  case flight => exact small

/-- No block is new when a step begins. -/
theorem holding (inv : o.Inv) : ∃ lost, BlocksOnce lost o.machine.sock ∧ ∀ block ∈ o.given c a,
    block ∈ o.machine.sock.history.map TcpRecord.block ∨ block ∈ lost := by
  obtain ⟨lost, once, kept⟩ := inv.holds
  refine ⟨lost, once, fun block member => ?_⟩
  rcases List.mem_append.mp member with old | again
  · exact kept block old
  · obtain ⟨r, resent, rfl⟩ := List.mem_map.mp again
    exact .inl (List.mem_map.mpr ⟨r, (Machine.resentBy_mem resent).1, rfl⟩)

/-- The actions of a step free nothing that the interface has. -/
theorem acted (inv : o.Inv) (grants : o.grants c a) (small : o.small c a) (drains : o.Drains c a) :
    (o.machine.step c a).sock.bufferView.Numbered (o.machine.round c a.1 a.2) ∧
      ∃ lost, Holding (o.machine.round c a.1 a.2) (o.given c a) [] lost (o.machine.step c a).sock := by
  have drained := inv.drained grants small drains
  have started := inv.started small
  obtain ⟨lost, once, kept⟩ := inv.holding (c := c) (a := a)
  obtain ⟨e, event⟩ := a
  have nextBlock := (Machine.start_same c e o.machine event).2.2
  have found : ∀ block, (o.machine.round c e event).Busy (o.given c (e, event)) o.machine.sock block →
      block ∈ o.machine.sock.history.map TcpRecord.block ∨ block ∈ lost := by
    rintro block ⟨-, has | ⟨-, fresh, old⟩⟩
    · exact kept block has
    · omega
  refine Machine.step_keeps
    (P := fun x => x.2.bufferView.Numbered (o.machine.round c e event) ∧
      ∃ lost, Holding (o.machine.round c e event) (o.given c (e, event)) ((o.machine.round c e event).held x.1) lost x.2)
    (fun start => ⟨start ▸ started, lost, once, found⟩) (fun r rest dport _ queued input start => ⟨started, lost, ?_⟩)
    (fun x y action ⟨numbered, _, holding⟩ =>
      ⟨numbered.action drained action, Holding.action drained action numbered holding⟩)
  have entered : Holding (o.machine.round c e event) (o.given c (e, event)) [r.block] lost
      (Machine.taking o.machine.sock rest dport) := ⟨once.dequeued queued, found⟩
  rw [held_of_input input, start, ackedBy_eq]
  exact entered.same rfl ⟨rfl, rfl⟩ rfl

/-- What the interface has behind a step it had before, or was given in the step. -/
theorem busy {block : Nat} (member : block ∈ (o.step c a).inFlight) :
    (o.machine.round c a.1 a.2).Busy (o.given c a) (o.machine.step c a).sock block := by
  obtain ⟨has, unsent⟩ := List.mem_filter.mp member
  refine ⟨by rw [Machine.round_env]; simpa using unsent, ?_⟩
  unfold Machine.handed at has
  simp only [List.mem_append] at has
  rcases has with (again | fresh) | old
  · exact .inl (List.mem_append_right _ again)
  · obtain ⟨e, event⟩ := a
    have nextBlock := (Machine.start_same c e o.machine event).2.2
    have range : (o.machine.round c e event).arrival = none ∧ block ∈ List.range' o.machine.sock.mempool.nextBlock
        ((o.machine.step c (e, event)).sock.mempool.nextBlock - o.machine.sock.mempool.nextBlock) := by
      cases event with
      | arrive => cases fresh
      | tick =>
        refine ⟨?_, fresh⟩
        unfold Machine.round
        dsimp only
        split <;> rfl
      | _ => exact ⟨rfl, fresh⟩
    have bounds := List.mem_range'_1.mp range.2
    exact .inr ⟨range.1, Nat.le_trans (Nat.le_of_eq nextBlock) bounds.1, by omega⟩
  · exact .inl (List.mem_append_left _ old)

theorem step (inv : o.Inv) (grants : o.grants c a) (small : o.small c a) (drains : o.Drains c a) : (o.step c a).Inv := by
  obtain ⟨numbered, lost, holding⟩ := inv.acted grants small drains
  refine ⟨numbered.closed, numbered.listening, numbered.opening, lost, holding.once, fun block member => ?_⟩
  exact holding.kept block (busy member)

theorem obeys (inv : o.Inv) (grants : o.grants c a) (small : o.small c a) (drains : o.Drains c a) : o.Obeys c a := by
  obtain ⟨numbered, lost, holding⟩ := inv.acted grants small drains
  have view := start_bufferView c a.1 o.machine a.2
  have refused : (o.machine.round c a.1 a.2).start.trace.refused = o.machine.sock.trace.refused :=
    congrArg BufferView.refused view
  have history : (o.machine.round c a.1 a.2).start.history = o.machine.sock.history := congrArg BufferView.history view
  have pool : (o.machine.round c a.1 a.2).start.mempool.nextBlock = o.machine.sock.mempool.nextBlock :=
    congrArg BufferView.nextBlock view
  constructor
  case transmits => exact numbered.refused.trans refused
  case resubmitted => exact drains.due
  case freed => exact fun block member => holding.not_freed (busy member)
  case unmodified =>
    intro r member before _
    have stands := numbered.records r member
    have old : r.block < (o.machine.round c a.1 a.2).start.mempool.nextBlock := by
      obtain ⟨_, once, kept⟩ := inv.holds
      exact pool ▸ below once (kept r.block before)
    unfold Round.Stands at stands
    rw [if_pos old, history] at stands
    obtain ⟨-, r₀, inHistory, block, segment, -⟩ := stands
    exact ⟨r₀, inHistory, block, segment⟩

end Inv

/-! ### Runs -/

theorem construct_inv (c : Config) (memory : TcpSocket) : (construct c memory).Inv := by
  have start : (construct c memory).machine.sock = memory.construct c := rfl
  have once : BlocksOnce [] (construct c memory).machine.sock := (Machine.construct_owned c memory).once
  refine ⟨fun _ => ?_, ?_, ?_, [], once, fun _ member => nomatch member⟩
  all_goals rw [start, construct_eq]
  · exact ⟨rfl, rfl⟩
  · exact fun now => nomatch now
  · intro now
    rcases now with now | now <;> cases now

/-- While the interface sends in time, the socket keeps the protocol of its send buffers. -/
theorem obeys_run (memory : TcpSocket) {inputs : List (Env × Event)}
    (follows : Follows (step c) (fun o a => o.grants c a ∧ o.small c a ∧ o.Drains c a) (construct c memory) inputs) :
    Follows (step c) (Obeys c) (construct c memory) inputs := by
  have kept : ∀ (o : DriverRun) (a : Env × Event), o.Inv → o.grants c a ∧ o.small c a ∧ o.Drains c a →
      o.Obeys c a ∧ (o.step c a).Inv :=
    fun _ _ inv ⟨grants, small, drains⟩ => ⟨inv.obeys grants small drains, inv.step grants small drains⟩
  exact (follows.forall_prefix_and kept (construct_inv c memory)).1

/-- The driver has sent nothing yet. -/
def slowDriver (e : Env) : Env := { e with hasBeenSent _ := false }

/-- Two bytes, which the interface has not sent. -/
def unsent : List (Env × Event) :=
  Sample.opening ++ [(slowDriver Sample.env, .write [4, 5] (by decide)), (slowDriver Sample.env, .tick)]

/-- The interface has sent the two bytes before they time out, and again before they are
acknowledged. -/
def sentInTime : List (Env × Event) :=
  unsent ++ [(slowDriver (Sample.envAt 100 (by decide)), .tick), (Sample.envAt 7000 (by decide), .tick),
    (slowDriver (Sample.envAt 7100 (by decide)), .tick),
    (Sample.envAt 7200 (by decide), .arrive (Sample.segment 1001 3 1000 []) 20), (Sample.envAt 7200 (by decide), .tick),
    (Sample.envAt 7200 (by decide), .tick)]

theorem obeys_run_sentInTime :
    Follows (step Sample.config) (Obeys Sample.config) (construct Sample.config Sample.memory) sentInTime := by
  have drains : Follows (step Sample.config) (fun o a => o.small Sample.config a ∧ o.Drains Sample.config a)
      (construct Sample.config Sample.memory) sentInTime := by decide +kernel
  have connected : ∀ a ∈ sentInTime, a.1.interface = true := by decide
  exact obeys_run Sample.memory ((drains.and connected).mono fun o a ⟨interface, met⟩ =>
    ⟨fun _ lost => absurd (interface.symm.trans lost) nofun, met⟩)

/-- The peer repeats its SYN. -/
def repeatedSyn : List (Env × Event) :=
  let syn := { Sample.segment 1000 0 1000 [] with syn := true, ack := false }
  [(Sample.env, .setPorts 1024 80), (Sample.env, .listen)] ++ Sample.receives syn ++ [(Sample.env, .arrive syn 20)]

/-- The answer to a repeated SYN is not sent again, whatever the driver does. A slow driver gets the
same buffer twice when it times out, and loses it when it is acknowledged. -/
theorem repeatedSyn_disobeys :
    ¬Follows (step Sample.config) (Obeys Sample.config) (construct Sample.config Sample.memory)
        (repeatedSyn ++ [(Sample.env, .tick)]) ∧
      ¬Follows (step Sample.config) (Obeys Sample.config) (construct Sample.config Sample.memory)
        (unsent ++ [(slowDriver (Sample.envAt 7000 (by decide)), .tick)]) ∧
      ¬Follows (step Sample.config) (Obeys Sample.config) (construct Sample.config Sample.memory)
        (unsent ++ [(slowDriver Sample.env, .arrive (Sample.segment 1001 3 1000 []) 20), (slowDriver Sample.env, .tick)] ++
          [(slowDriver Sample.env, .tick)]) := by
  refine ⟨fun run => ?_, fun run => ?_, fun run => ?_⟩
  · have transmits := run.last.transmits
    revert transmits
    decide +kernel
  · have resubmitted := run.last.resubmitted
    revert resubmitted
    decide +kernel
  · have freed := run.last.freed
    revert freed
    decide +kernel

/-- The history bounds what is sent and not acknowledged. -/
theorem small_of_sendInv (inv : SendInv c 65535 o.machine.sock.sendView) (a : Env × Event) : o.small c a := by
  intro opened
  have started := Machine.start_sendInv inv a.1 a.2
  have alive : (o.machine.round c a.1 a.2).start.state ≠ .closed := by rcases opened with state | state <;> simp [state]
  have queue := started.queue alive
  have total := queue.total_lt
  have covered : gap (o.machine.round c a.1 a.2).start.seqnumUnacked (o.machine.round c a.1 a.2).start.seqnumNext ≤ _ :=
    queue.covered
  have window := (o.machine.round c a.1 a.2).start.sendWindow.isLt
  omega

/-- A connection that keeps its interface, and whose close is not given up. -/
theorem obeys_connected (memory : TcpSocket) {inputs : List (Env × Event)}
    (follows : Follows (step c) (fun o a => Machine.closes c o.machine a ∧ o.Drains c a) (construct c memory) inputs) :
    Follows (step c) (Obeys c) (construct c memory) inputs := by
  have kept : ∀ (o : DriverRun) (a : Env × Event), o.Inv ∧ SendInv c 65535 o.machine.sock.sendView →
      Machine.closes c o.machine a ∧ o.Drains c a →
        o.Obeys c a ∧ (o.step c a).Inv ∧ SendInv c 65535 (o.step c a).machine.sock.sendView := by
    rintro o a ⟨inv, sends⟩ ⟨⟨interface, survives⟩, drains⟩
    have grants : o.grants c a := fun updates lost => absurd ((interface updates).symm.trans lost) nofun
    have small := small_of_sendInv sends a
    exact ⟨inv.obeys grants small drains, inv.step grants small drains,
      Machine.step_sendInv sends interface (.inl rfl) survives⟩
  exact (follows.forall_prefix_and kept ⟨construct_inv c memory, SendInv.construct (Nat.le_refl _) memory⟩).1

end DriverRun

end IPStack
