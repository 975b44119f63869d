import IPStack.Tcp.CallFrames

/-! The call in progress over the runs of a socket. -/

namespace IPStack

open TcpSocket

namespace Machine

variable {c : Config} {m : Machine}

/-! ### The call in progress -/

/-- What the socket has of a call while it is in progress, and what a call leaves behind. -/
structure CallInv (m : Machine) : Prop where
  closed : m.sock.state = .closed → m.sock.applicationBuflen = 0 ∧ m.sock.receiving = false
  receives : m.sock.receiving = true → m.call = some .receive
  returned : m.call = none → m.sock.waiting = false
  poll : ∀ processed, m.call = some (.poll processed) → m.sock.waiting = false
  opening : m.call = some .connect ∨ m.call = some .listen → m.sock.waiting = true → m.sock.applicationBuflen = 0
  receive : m.call = some .receive → m.sock.waiting = true → m.sock.receiving = true ∧ m.sock.isOpen
  reading : m.call = some .receive → m.sock.receiving = true → m.sock.waiting = true
  close : m.call = some .close → m.sock.waiting = true → m.sock.Late
  write : m.call = some .write → m.sock.waiting = true → m.sock.isOpen

theorem construct_callInv (c : Config) (memory : TcpSocket) : CallInv (construct c memory) := by
  have fields := construct_eq c memory
  refine ⟨fun _ => ?_, fun receives => ?_, fun _ => ?_, nofun, ?_, nofun, nofun, nofun, nofun⟩
  · change (memory.construct c).applicationBuflen = 0 ∧ (memory.construct c).receiving = false
    rw [fields]
    exact ⟨rfl, rfl⟩
  · change (memory.construct c).receiving = true at receives
    rw [fields] at receives
    exact absurd receives Bool.false_ne_true
  · change (memory.construct c).waiting = false
    rw [fields]
  · rintro (call | call) <;> exact nomatch call

/-- The same call goes on with a socket that is steady. -/
theorem CallInv.steady (inv : CallInv m) {s : TcpSocket} (steady : Steady m.sock s) : CallInv { m with sock := s } where
  closed closed := by
    rcases steady.dies closed with closed | ended
    · exact (inv.closed closed).imp steady.rests steady.quiet
    · exact ended
  receives := inv.receives ∘ steady.receives
  returned idle := by
    cases waiting : s.waiting with
    | false => rfl
    | true => exact absurd ((inv.returned idle).symm.trans (steady.waits waiting).1) Bool.false_ne_true
  poll processed polling := by
    cases waiting : s.waiting with
    | false => rfl
    | true => exact absurd ((inv.poll processed polling).symm.trans (steady.waits waiting).1) Bool.false_ne_true
  opening call waiting := steady.rests (inv.opening call (steady.waits waiting).1)
  receive call waiting := by
    obtain ⟨waiting', receiving⟩ := steady.waits waiting
    obtain ⟨reading, opened⟩ := inv.receive call waiting'
    exact ⟨receiving.trans reading, steady.opened waiting opened⟩
  reading call receiving := by
    have waiting := inv.reading call (steady.receives receiving)
    exact steady.keeps (inv.receive call waiting).2 waiting receiving
  close call waiting := steady.late waiting (inv.close call (steady.waits waiting).1)
  write call waiting := steady.opened waiting (inv.write call (steady.waits waiting).1)

/-- A call that returns does not wait any more. -/
theorem CallInv.returns (inv : CallInv m) (waiting : m.sock.waiting = false) (quiet : m.sock.receiving = false)
    (returned : List UInt8) (endOfStream : Bool) : CallInv ⟨m.sock, none, returned, endOfStream⟩ where
  closed := inv.closed
  receives receives := absurd (quiet.symm.trans receives) Bool.false_ne_true
  returned _ := waiting
  poll _ := nofun
  opening := by rintro (call | call) <;> exact nomatch call
  receive := nofun
  reading := nofun
  close := nofun
  write := nofun

theorem inputOf_steady {e : Env} {s : TcpSocket} {segment : Option ReceiveBuffer} (calls : m.inputOf e = some (s, segment)) :
    Steady m.sock s := by
  cases segment with
  | none => exact inputOf_none calls ▸ .of_state (.refl _) rfl rfl
  | some r =>
    obtain ⟨rest, dport, -, rfl⟩ := inputOf_some calls
    exact .of_state (.of_same rfl rfl rfl id) rfl rfl

/-- A round that does not call `input` while another call than `listen` is in progress ends it. -/
theorem not_waiting {e : Env} (settles : m.inputOf e = none) (call : m.call = some .connect ∨ m.call = some .write ∨
    m.call = some .receive ∨ m.call = some .close) : m.sock.waiting = false := by
  unfold inputOf at settles
  rcases call with call | call | call | call <;>
  · rw [call] at settles
    dsimp only at settles
    split_ifs at settles with waiting
    exact Bool.not_eq_true _ ▸ waiting

theorem CallInv.receiving (inv : CallInv m) (other : m.call ≠ some .receive) : m.sock.receiving = false := by
  cases receiving : m.sock.receiving with
  | false => rfl
  | true => exact absurd (inv.receives receiving) other

/-- A call that has nothing to wait for returns. -/
theorem CallInv.returns_calms (inv : CallInv m) {s : TcpSocket} (calms : Calms m.sock s) (waiting : m.sock.waiting = false)
    (quiet : m.sock.receiving = false) : CallInv { m with sock := s, call := none } where
  closed closed := by
    rcases calms.dies closed with closed | ended
    · exact (inv.closed closed).imp calms.rests calms.quiet
    · exact ended
  receives receives := absurd ((calms.quiet quiet).symm.trans receives) Bool.false_ne_true
  returned _ := by
    cases waits : s.waiting with
    | false => rfl
    | true => exact absurd (waiting.symm.trans (calms.waits waits).1) Bool.false_ne_true
  poll _ := nofun
  opening := by rintro (call | call) <;> exact nomatch call
  receive := nofun
  reading := nofun
  close := nofun
  write := nofun

/-- A call that opens a connection has nothing to send or to read. -/
theorem CallInv.of_opening (quiet : m.sock.receiving = false)
    (buflen : m.sock.state = .closed ∨ m.sock.waiting = true → m.sock.applicationBuflen = 0)
    (call : m.call = some .connect ∨ m.call = some .listen) : CallInv m where
  closed closed := ⟨buflen (.inl closed), quiet⟩
  receives receives := absurd (quiet.symm.trans receives) Bool.false_ne_true
  returned idle := by rcases call with call | call <;> exact nomatch call.symm.trans idle
  poll _ polling := by rcases call with call | call <;> exact nomatch call.symm.trans polling
  opening _ waiting := buflen (.inr waiting)
  receive reading := by rcases call with call | call <;> exact nomatch call.symm.trans reading
  reading reading := by rcases call with call | call <;> exact nomatch call.symm.trans reading
  close closing := by rcases call with call | call <;> exact nomatch call.symm.trans closing
  write writing := by rcases call with call | call <;> exact nomatch call.symm.trans writing

theorem CallInv.listenBase (inv : CallInv m) (quiet : m.sock.receiving = false)
    (buflen : m.sock.waiting = true → m.sock.applicationBuflen = 0) (e : Env) :
    CallInv { m with sock := m.sock.listenBase c e, call := some .listen } := by
  refine .of_opening ?_ ?_ (.inr rfl) <;> unfold TcpSocket.listenBase genInitialSeqnum <;> dsimp only
  · split_ifs <;> exact quiet
  · split_ifs with closed
    · exact fun _ => (inv.closed closed).1
    · exact fun _ => (inv.closed closed).1
    · exact fun ready => ready.elim (fun closed' => absurd closed' closed) buflen

theorem settle_callInv (inv : CallInv m) {e : Env} (settles : m.inputOf e = none) : CallInv (m.settle c e) := by
  unfold settle
  split
  · exact inv
  · rename_i call
    have waiting := not_waiting settles (.inr (.inr (.inl call)))
    refine inv.returns waiting ?_ _ _
    cases receiving : m.sock.receiving with
    | false => rfl
    | true => exact absurd (waiting.symm.trans (inv.reading call receiving)) Bool.false_ne_true
  · rename_i processed call
    have quiet := inv.receiving (by rw [call]; nofun)
    refine inv.returns_calms ?_ (inv.poll processed call) quiet
    split_ifs
    · exact (updateHistory_calms c e m.sock true).trans (processAck_calms c e _)
    · exact .refl _
  · rename_i call
    have quiet := inv.receiving (by rw [call]; nofun)
    have waiting : m.sock.state ≠ .listen → m.sock.waiting = false := by
      intro other
      unfold inputOf at settles
      rw [call] at settles
      dsimp only at settles
      rw [if_neg other] at settles
      split_ifs at settles with waiting
      exact Bool.not_eq_true _ ▸ waiting
    split
    · rename_i s r state taken
      obtain ⟨rest, queued, rfl⟩ := listenPacket_eq taken
      exact inv.steady (.of_state (.of_same rfl rfl rfl id) rfl rfl)
    · exact inv
    · rename_i state
      exact inv.returns_calms (.refl _) (waiting (by simp [state])) quiet
    · rename_i full empty
      split_ifs
      · refine inv.returns_calms (.refl _) (waiting fun state => ?_) quiet
        cases taken : listenPacket m.sock with
        | mk s packet =>
          cases packet with
          | none => exact empty s state taken
          | some r => exact full s r state taken
      · have same : { m with sock := m.sock.listenBase c e } = { m with sock := m.sock.listenBase c e, call := some .listen } := by
          rw [call]
        rw [same]
        exact inv.listenBase quiet (inv.opening (.inr call)) e
  · rename_i other notReceive notPoll notListen call
    have waiting := not_waiting settles
    cases other with
    | connect => exact inv.returns_calms (.refl _) (waiting (.inl call)) (inv.receiving (by rw [call]; nofun))
    | write => exact inv.returns_calms (.refl _) (waiting (.inr (.inl call))) (inv.receiving (by rw [call]; nofun))
    | close => exact inv.returns_calms (.refl _) (waiting (.inr (.inr (.inr call)))) (inv.receiving (by rw [call]; nofun))
    | receive => exact (notReceive rfl).elim
    | poll processed => exact (notPoll processed rfl).elim
    | listen => exact (notListen rfl).elim

theorem connectBase_quiet (c : Config) (e : Env) {s : TcpSocket} (quiet : s.receiving = false)
    (buflen : s.applicationBuflen = 0) :
    (s.connectBase c e).receiving = false ∧ (s.connectBase c e).applicationBuflen = 0 := by
  have started : Calms s { s.genInitialSeqnum c e with sendWindow := 0 } := by
    unfold genInitialSeqnum
    dsimp only
    split_ifs <;> exact .of_same rfl rfl rfl id
  have requested := started.trans (requestSendBufferTcp_calms c e _)
  unfold connectBase
  dsimp only
  generalize TcpSocket.requestSendBufferTcp c e _ = result at requested ⊢
  obtain ⟨block, s₁⟩ := result
  cases block with
  | none => exact ⟨requested.quiet quiet, requested.rests buflen⟩
  | some b => exact ⟨requested.quiet quiet, requested.rests buflen⟩

/-- Behind `close` the socket waits only if there was a buffer for the FIN. -/
theorem CallInv.closeBase (inv : CallInv m) (waiting : m.sock.waiting = false) (quiet : m.sock.receiving = false) (e : Env) :
    CallInv { m with sock := m.sock.closeBase c e, call := some .close } := by
  have calms : Calms m.sock (m.sock.closeBase c e) ∨ (m.sock.closeBase c e).Late ∧ (m.sock.closeBase c e).receiving = false := by
    have requested := requestSendBufferTcp_calms c e m.sock
    unfold TcpSocket.closeBase
    split_ifs
    · generalize TcpSocket.requestSendBufferTcp c e _ = result at requested ⊢
      obtain ⟨block, s⟩ := result
      cases block with
      | none => exact .inl requested
      | some b =>
        refine .inr ⟨?_, requested.quiet quiet⟩
        unfold closeIn
        dsimp only
        split_ifs <;> simp [Late]
    · exact .inl (.refl _)
  rcases calms with calms | ⟨late, silent⟩
  · have returned := inv.returns_calms calms waiting quiet
    refine ⟨returned.closed, fun receives => absurd (returned.receives receives) (by simp), by simp, by simp, ?_, by simp,
      by simp, fun _ waits => absurd ((returned.returned rfl).symm.trans waits) Bool.false_ne_true, by simp⟩
    rintro (call | call) <;> cases call
  · refine ⟨fun closed => ?_, fun receives => absurd (silent.symm.trans receives) Bool.false_ne_true, by simp, by simp, ?_,
      by simp, by simp, fun _ _ => late, by simp⟩
    · rcases late with state | state | state | state | state <;> cases state.symm.trans closed
    · rintro (call | call) <;> cases call

theorem begin_callInv (inv : CallInv m) (idle : m.call = none) (e : Env) (event : Event) : CallInv (m.begin c e event) := by
  have quiet := inv.receiving (by rw [idle]; nofun)
  have waiting := inv.returned idle
  cases event with
  | connect =>
    unfold begin
    dsimp only
    split_ifs with valid
    · obtain ⟨receiving, buflen⟩ :=
        connectBase_quiet c e (s := { m.sock with sport := e.freePort }) quiet (inv.closed valid.2).1
      exact .of_opening receiving (fun _ => buflen) (.inl rfl)
    · exact inv
  | listen =>
    unfold begin
    dsimp only
    split_ifs
    · exact inv
    · exact inv.listenBase quiet (fun waits => absurd (waiting.symm.trans waits) Bool.false_ne_true) e
  | write data size_lt =>
    unfold begin
    dsimp only
    split_ifs with opened
    · refine ⟨fun closed => ?_, fun receives => absurd (quiet.symm.trans receives) Bool.false_ne_true, nofun, nofun, ?_, nofun,
        nofun, nofun, fun _ _ => opened⟩
      · rcases opened with state | state <;> exact nomatch state.symm.trans closed
      · rintro (call | call) <;> exact nomatch call
    · exact inv
  | receive buffer size_lt =>
    unfold begin
    dsimp only
    split_ifs with opened
    · refine ⟨fun closed => ?_, fun _ => rfl, nofun, nofun, ?_, fun _ _ => ⟨rfl, opened⟩, fun _ _ => rfl, nofun, nofun⟩
      · rcases opened with state | state <;> exact nomatch state.symm.trans closed
      · rintro (call | call) <;> exact nomatch call
    · exact inv
  | close => exact inv.closeBase waiting quiet e
  | poll =>
    unfold begin
    dsimp only
    split_ifs
    · refine ⟨inv.closed, fun receives => absurd (quiet.symm.trans receives) Bool.false_ne_true, nofun, fun _ _ => waiting, ?_,
        nofun, nofun, nofun, nofun⟩
      rintro (call | call) <;> exact nomatch call
    · exact inv
  | setPorts sport dport => exact inv.steady (.of_state (.of_same rfl rfl rfl id) rfl rfl)
  | setMaxReceiveWindow max => exact inv.steady (.of_state (.of_same rfl rfl rfl id) rfl rfl)
  | arrive segment size => exact inv
  | tick => exact inv

theorem CallInv.polls (inv : CallInv m) {processed : Bool} (call : m.call = some (.poll processed)) :
    CallInv { m with call := some (.poll true) } where
  closed := inv.closed
  receives receives := nomatch call.symm.trans (inv.receives receives)
  returned := nofun
  poll _ _ := inv.poll processed call
  opening := by rintro (call | call) <;> exact nomatch call
  receive := nofun
  reading := nofun
  close := nofun
  write := nofun

/-- A call that goes on, apart from the count of processed packets of a `poll`. -/
theorem tick_callInv (inv : CallInv m) (e : Env) : CallInv (m.tick c e) := by
  unfold tick
  split
  · rename_i s segment calls
    have next := inv.steady ((inputOf_steady calls).trans (input_steady c e s segment))
    split
    · rename_i processed call
      exact next.polls call
    · exact next
  · rename_i settles
    exact settle_callInv inv settles

theorem addToReceiveQueue_steady (c : Config) (e : Env) (s : TcpSocket) (segment : TcpSegment) (size : BitVec 16) :
    Steady s (s.addToReceiveQueue c e segment size) := by
  unfold addToReceiveQueue
  dsimp only
  split_ifs
  · exact .of_state (.refl s) rfl rfl
  · cases e.alloc s.mempool.requests <;> exact .of_state (.of_same rfl rfl rfl id) rfl rfl

theorem step_callInv (inv : CallInv m) (a : Env × Event) : CallInv (m.step c a) := by
  obtain ⟨e, event⟩ := a
  have begins : CallInv (if m.call = none then m.begin c e event else m) := by
    split_ifs with idle
    · exact begin_callInv inv idle e event
    · exact inv
  cases event with
  | tick => exact tick_callInv inv e
  | arrive segment size => exact inv.steady (addToReceiveQueue_steady c e m.sock segment size)
  | _ => exact begins

end Machine

end IPStack
