import IPStack.Lib.Reach
import IPStack.Tcp.CallRuns

/-! Runs in which the application writes: the new data segments of a `write` carry its bytes. -/

namespace IPStack

open TcpSocket Transition

namespace Machine

/-- The calls of `sendSegment` by `processSendData` in the next round of the call in progress. -/
def sendAttempts (c : Config) (e : Env) (m : Machine) : List SendAttempt :=
  match m.inputOf e with
  | some (s, none) =>
    match s.sendingSocket c e with
    | some s => s.sendAttempts c e
    | none => []
  | _ => []

end Machine

/-- The bytes that a call has passed to `write`. -/
def Event.written (m : Machine) : Event → List UInt8
  | .write data _ => if m.call = some .write then data else []
  | _ => []

def Event.sendAttempts (c : Config) (e : Env) (m : Machine) : Event → List SendAttempt
  | .tick => m.sendAttempts c e
  | _ => []

/-- A machine with the bytes that are written, the sequence number before them, and the calls of
`sendSegment` since. -/
structure WriteRun where
  machine : Machine
  data : List UInt8
  first : SeqNum
  attempts : List SendAttempt

/-- A step of the machine, or a change of what the call in progress does not own: the window,
the MSS, the history, the memory and all the rest. -/
inductive WriteEvent
  | step (e : Env) (event : Event)
  | adjust (other : TcpSocket)

def TcpSocket.adjusted (s other : TcpSocket) : TcpSocket :=
  { other with
    state := s.state, receiving := s.receiving, waiting := s.waiting, applicationBuf := s.applicationBuf
    applicationBuflen := s.applicationBuflen, seqnumNext := s.seqnumNext }

namespace WriteRun

def start (c : Config) (memory : TcpSocket) : WriteRun := ⟨.construct c memory, [], 0, []⟩

def step (c : Config) (w : WriteRun) : WriteEvent → WriteRun
  | .adjust other => { w with machine := { w.machine with sock := w.machine.sock.adjusted other } }
  | .step e event =>
    let machine := w.machine.step c (e, event)
    if w.machine.call = none then ⟨machine, event.written machine, w.machine.sock.seqnumNext, []⟩
    else { w with machine := machine, attempts := w.attempts ++ event.sendAttempts c e w.machine }

/-- The new data segments, in the order in which they were sent. -/
def segments (c : Config) (w : WriteRun) : List TcpSegment := w.attempts.filterMap (SendAttempt.segment c)

/-- The segments carry a prefix of what is written, and all of it when `write` returns true. -/
structure Segmented (c : Config) (w : WriteRun) : Prop where
  data : payload (w.segments c) <+: w.data
  complete : w.machine.call = some .write → w.machine.sock.waiting = false → w.machine.sock.isOpen →
    payload (w.segments c) = w.data
  contiguous : Contiguous w.first (w.segments c)
  sound : ∀ a ∈ w.attempts, a.Sound c

end WriteRun

namespace TcpSocket

variable {c : Config} {e : Env} {s s' s'' : TcpSocket} {r : ReceiveBuffer}

/-! ### Rounds of a write -/

/-- The cursor in the application's data has not moved. -/
def SameCursor (s s' : TcpSocket) : Prop :=
  s'.applicationBuf = s.applicationBuf ∧ s'.applicationBuflen = s.applicationBuflen ∧ s'.seqnumNext = s.seqnumNext

theorem SameCursor.trans (first : SameCursor s s') (second : SameCursor s' s'') : SameCursor s s'' :=
  ⟨second.1.trans first.1, second.2.1.trans first.2.1, second.2.2.trans first.2.2⟩

theorem Cursor.same {data : List UInt8} {first : SeqNum} {segments : List TcpSegment}
    (cursor : Cursor data first segments s) (same : SameCursor s s') : Cursor data first segments s' :=
  cursor.of_same same.1 same.2.1 same.2.2

theorem Updated.sameCursor (updated : Updated s s') : SameCursor s s' := by
  unfold Updated at updated
  exact ⟨by rw [updated], by rw [updated], by rw [updated]⟩

theorem Replied.sameCursor (replied : Replied s s') : SameCursor s s' := by
  unfold Replied at replied
  exact ⟨by rw [replied], by rw [replied], by rw [replied]⟩

theorem Touched.sameCursor (touched : Touched s s') : SameCursor s s' := by
  unfold Touched at touched
  exact ⟨by rw [touched], by rw [touched], by rw [touched]⟩

/-- A segment leaves the data alone, unless it resets the connection. -/
theorem input_segment_cursor (c : Config) (e : Env) (opened : s.isOpen) (r : ReceiveBuffer) :
    SameCursor s (s.input c e (some r)) ∧ (s.input c e (some r)).waiting = s.waiting ∨ ¬(s.input c e (some r)).isOpen := by
  have behind : s.synchronized := by rcases opened with state | state <;> simp [synchronized, state]
  cases rst : r.segment.rst with
  | true =>
    rw [input_rst c e behind rst]
    exact .inr (by simp [isOpen, handleRst, abort, resetSocketState])
  | false =>
    cases syn : r.segment.syn with
    | true =>
      have replied := input_syn c e behind rst syn
      refine .inl ⟨replied.sameCursor, ?_⟩
      unfold Replied at replied
      rw [replied]
      rfl
    | false =>
      have touched := (input_processed c e behind ⟨rst, syn⟩).1.touched
      refine .inl ⟨touched.sameCursor, ?_⟩
      unfold Touched at touched
      rw [touched]

theorem processAck_cursor (c : Config) (e : Env) (alive : s.state ≠ .closed) :
    SameCursor s (s.processAck c e) ∧ (s.processAck c e).waiting = s.waiting ∧ (s.processAck c e).state = s.state := by
  unfold processAck
  split_ifs
  · have replied := sendAck_replied (s := s) c e alive
    refine ⟨replied.sameCursor, ?_, replied.state⟩
    unfold Replied at replied
    rw [replied]
  · exact ⟨⟨rfl, rfl, rfl⟩, rfl, rfl⟩

/-- The round of a waiting `write`: `processSendData` goes on where the last round ended, unless
the connection is killed. -/
theorem input_idle_write (c : Config) (e : Env) (w : Writing s) :
    (∃ s₁, s.sendingSocket c e = some s₁ ∧ SameCursor s s₁ ∧ s₁.waiting = true ∧ s₁.state ≠ .closed ∧
      s.input c e none = (s₁.processSendData c e).finishSending) ∨
      s.sendingSocket c e = none ∧ ¬(s.input c e none).isOpen := by
  unfold sendingSocket
  rw [if_pos w.opened]
  dsimp only
  rcases updateHistory_ends c e w.alive with updated | ⟨s₁, killed⟩
  · left
    have alive := updated.alive w.alive
    have receiving : (s.updateHistory c e true).receiving = false := by
      rw [updated]
      exact w.sending
    have waiting : (s.updateHistory c e true).waiting = true := by
      rw [updated]
      exact w.waiting
    have quiet : ¬(s.updateHistory c e true).receiving = true := receiving ▸ Bool.false_ne_true
    rw [if_pos ⟨receiving, waiting⟩]
    rcases w.opened with state | state
    · obtain ⟨cursor, waits, same⟩ := processAck_cursor (s := s.updateHistory c e true) c e alive
      refine ⟨_, rfl, ?_, ?_, ?_, ?_⟩
      · rw [if_pos state]
        exact updated.sameCursor.trans cursor
      · rw [if_pos state, waits, waiting]
      · rw [if_pos state, same]
        exact alive
      · simp only [input, established, establishedIdle, state, if_true]
        rw [if_neg quiet, if_pos waiting]
    · have other : ¬s.state = .established := by simp [state]
      refine ⟨_, rfl, ?_, ?_, ?_, ?_⟩
      · rw [if_neg other]
        exact updated.sameCursor
      · rw [if_neg other, waiting]
      · rw [if_neg other]
        exact alive
      · rw [if_neg other]
        simp only [input, closewait, closewaitIdle, state]
        rw [if_neg quiet, if_pos waiting]
  · right
    rw [killed, if_neg (by simp [abort, resetSocketState])]
    refine ⟨rfl, ?_⟩
    have aborted : s.input c e none = s₁.abort := by
      rcases w.opened with state | state
      · simp only [input, established, establishedIdle, state, killed]
        rfl
      · simp only [input, closewait, closewaitIdle, state, killed]
        rfl
    rw [aborted]
    simp [isOpen, abort, resetSocketState]

theorem sendingSocket_waiting {s₁ : TcpSocket} (sending : s.sendingSocket c e = some s₁) :
    s.isOpen ∧ s.receiving = false ∧ s.waiting = true := by
  unfold sendingSocket at sending
  dsimp only at sending
  split_ifs at sending with opened calls state
  · obtain ⟨waiting, receiving⟩ := (updateHistory_calms c e s true).waits calls.2
    exact ⟨opened, receiving.symm.trans calls.1, waiting⟩
  · obtain ⟨waiting, receiving⟩ := (updateHistory_calms c e s true).waits calls.2
    exact ⟨opened, receiving.symm.trans calls.1, waiting⟩

/-- A round in which nothing is written sends nothing. -/
theorem sendAttempts_of_rest {s₁ : TcpSocket} (sending : s.sendingSocket c e = some s₁) (rest : s.applicationBuflen = 0) :
    s₁.sendAttempts c e = [] := by
  have calms : Calms s s₁ := by
    unfold sendingSocket at sending
    dsimp only at sending
    split_ifs at sending
    · rw [← Option.some.inj sending]
      exact (updateHistory_calms c e s true).trans (processAck_calms c e _)
    · rw [← Option.some.inj sending]
      exact updateHistory_calms c e s true
  rw [sendAttempts, if_pos (calms.rests rest)]

theorem finishSending_same (s : TcpSocket) :
    SameCursor s s.finishSending ∧ s.finishSending.state = s.state ∧
      (s.waiting = true → s.finishSending.waiting = false → s.applicationBuflen = 0) := by
  unfold finishSending
  split_ifs with done
  · exact ⟨⟨rfl, rfl, rfl⟩, rfl, fun _ _ => done.1⟩
  · exact ⟨⟨rfl, rfl, rfl⟩, rfl, fun waits idle => absurd (waits.symm.trans idle) Bool.noConfusion⟩

end TcpSocket

namespace WriteRun

variable {c : Config} {w : WriteRun}

/-! ### Runs -/

/-- Only a `write` has something to send. -/
theorem silent {m : Machine} (calls : m.CallInv) {e : Env} (other : m.call ≠ some .write)
    (input : m.inputOf e = some (m.sock, none)) : m.sendAttempts c e = [] := by
  rw [Machine.sendAttempts, input]
  dsimp only
  cases sending : m.sock.sendingSocket c e with
  | none => rfl
  | some s₁ =>
    dsimp only
    obtain ⟨opened, quiet, waiting⟩ := sendingSocket_waiting sending
    cases call : m.call with
    | none => exact absurd ((calls.returned call).symm.trans waiting) Bool.false_ne_true
    | some current =>
      cases current with
      | connect => exact sendAttempts_of_rest sending (calls.opening (.inl call) waiting)
      | listen => exact sendAttempts_of_rest sending (calls.opening (.inr call) waiting)
      | write => exact absurd call other
      | receive => exact absurd (quiet.symm.trans (calls.receive call waiting).1) Bool.false_ne_true
      | close =>
        have late := calls.close call waiting
        rcases opened with state | state <;> simp [Late, state] at late
      | poll processed => exact absurd ((calls.poll processed call).symm.trans waiting) Bool.false_ne_true

structure Inv (c : Config) (w : WriteRun) : Prop where
  calls : w.machine.CallInv
  cursor : w.machine.call = some .write → w.machine.sock.isOpen → Cursor w.data w.first (w.segments c) w.machine.sock
  done : w.machine.call = some .write → w.machine.sock.waiting = false → w.machine.sock.isOpen →
    w.machine.sock.applicationBuflen = 0
  data : payload (w.segments c) <+: w.data
  contiguous : Contiguous w.first (w.segments c)
  sound : ∀ a ∈ w.attempts, a.Sound c

theorem Inv.segments (inv : Inv c w) : Segmented c w where
  data := inv.data
  complete call waiting opened := by
    have cursor := inv.cursor call opened
    have rest : w.machine.sock.applicationBuf = [] := by
      rw [← List.length_eq_zero_iff, cursor.left, inv.done call waiting opened]
      rfl
    rw [cursor.sent, rest, List.append_nil]
  contiguous := inv.contiguous
  sound := inv.sound

theorem start_inv (c : Config) (memory : TcpSocket) : Inv c (start c memory) where
  calls := Machine.construct_callInv c memory
  cursor := nofun
  done := nofun
  data := List.prefix_refl []
  contiguous := trivial
  sound := by simp [start]

theorem Inv.adjust (inv : Inv c w) (other : TcpSocket) : Inv c (w.step c (.adjust other)) where
  calls := inv.calls.steady (.of_state (.of_same rfl rfl rfl id) rfl rfl)
  cursor call opened := (inv.cursor call opened).same ⟨rfl, rfl, rfl⟩
  done := inv.done
  data := inv.data
  contiguous := inv.contiguous
  sound := inv.sound

/-- Between the calls only `write` starts to write. -/
theorem begins_write {m : Machine} (idle : m.call = none) {e : Env} {event : Event}
    (writes : (m.step c (e, event)).call = some .write) :
    ∃ data, data.length < 2 ^ 32 ∧ m.sock.isOpen ∧ (m.step c (e, event)).sock = m.sock.writeBase data ∧
      event.written (m.step c (e, event)) = data := by
  have nothing : ∀ machine : Machine, machine.call = none → ¬machine.call = some .write := fun _ none some => by
    cases none.symm.trans some
  cases event with
  | write data size_lt =>
    by_cases opened : m.sock.isOpen
    · have result : m.step c (e, .write data size_lt) = { m with sock := m.sock.writeBase data, call := some .write } := by
        simp [Machine.step, Machine.begin, idle, opened]
      refine ⟨data, size_lt, opened, by rw [result], ?_⟩
      rw [result]
      simp [Event.written]
    · have result : m.step c (e, .write data size_lt) = m := by simp [Machine.step, Machine.begin, idle, opened]
      rw [result] at writes
      exact absurd writes (nothing m idle)
  | tick =>
    have result : m.step c (e, .tick) = m := by simp [Machine.step, Machine.tick, Machine.inputOf, Machine.settle, idle]
    rw [result] at writes
    exact absurd writes (nothing m idle)
  | arrive segment size => exact absurd writes (nothing _ idle)
  | setPorts sport dport =>
    simp only [Machine.step, Machine.begin, idle, if_true] at writes
    cases writes
  | setMaxReceiveWindow max =>
    simp only [Machine.step, Machine.begin, idle, if_true] at writes
    cases writes
  | close =>
    simp only [Machine.step, Machine.begin, idle, if_true] at writes
    cases writes
  | _ =>
    simp only [Machine.step, Machine.begin, idle, if_true] at writes
    split_ifs at writes <;> first | exact absurd writes (nothing m idle) | cases writes

/-- Between the calls, or with a new one. -/
theorem Inv.begins (inv : Inv c w) (idle : w.machine.call = none) (e : Env) (event : Event) :
    Inv c (w.step c (.step e event)) := by
  have result : w.step c (.step e event) = ⟨w.machine.step c (e, event), event.written (w.machine.step c (e, event)),
      w.machine.sock.seqnumNext, []⟩ := if_pos idle
  rw [result]
  refine ⟨Machine.step_callInv inv.calls (e, event), fun writes _ => ?_, fun writes waiting _ => ?_, List.nil_prefix, trivial,
    by simp⟩ <;> obtain ⟨data, size_lt, -, sock, written⟩ := begins_write idle writes <;> dsimp only at sock written ⊢
  · rw [sock, written]
    refine ⟨rfl, ?_, ?_, trivial⟩
    · change data.length = (BitVec.ofNat 32 data.length).toNat
      rw [BitVec.toNat_ofNat, Nat.mod_eq_of_lt size_lt]
    · exact (BitVec.add_zero _).symm
  · rw [sock] at waiting
    exact absurd waiting Bool.noConfusion

/-- The same call goes on without sending data. -/
theorem Inv.keeps (inv : Inv c w) {machine : Machine} (calls : machine.CallInv)
    (cursor : machine.call = some .write → machine.sock.isOpen → w.machine.call = some .write ∧ w.machine.sock.isOpen ∧
      SameCursor w.machine.sock machine.sock ∧ machine.sock.waiting = w.machine.sock.waiting) :
    Inv c { w with machine := machine } where
  calls := calls
  cursor call opened := by
    obtain ⟨call', opened', same, -⟩ := cursor call opened
    exact (inv.cursor call' opened').same same
  done call waiting opened := by
    obtain ⟨call', opened', same, waits⟩ := cursor call opened
    exact same.2.1.trans (inv.done call' (waits.symm.trans waiting) opened')
  data := inv.data
  contiguous := inv.contiguous
  sound := inv.sound

theorem settle_call {m : Machine} (e : Env) : (m.settle c e).call ≠ some .write := by
  unfold Machine.settle
  split
  · rename_i idle
    rw [idle]
    nofun
  · nofun
  · nofun
  · rename_i call
    split <;> (try split_ifs) <;> simp [call]
  · nofun

/-- A round of a `write`. -/
theorem Inv.writes (inv : Inv c w) {e : Env} (call : w.machine.call = some .write) (waiting : w.machine.sock.waiting = true)
    (input : w.machine.inputOf e = some (w.machine.sock, none)) (calls : (w.machine.tick c e).CallInv)
    (ticks : (w.machine.tick c e).sock = w.machine.sock.input c e none) :
    Inv c { w with machine := w.machine.tick c e, attempts := w.attempts ++ w.machine.sendAttempts c e } := by
  have quiet := inv.calls.receiving (by rw [call]; nofun)
  have opened := inv.calls.write call waiting
  have cursor := inv.cursor call opened
  rcases input_idle_write c e ⟨opened, waiting, quiet⟩ with ⟨s₁, sending, same, waits, alive, result⟩ | ⟨silent, shut⟩
  · have attempts : w.machine.sendAttempts c e = s₁.sendAttempts c e := by
      rw [Machine.sendAttempts, input]
      dsimp only
      rw [sending]
    have sends := processSendData_sends c e s₁
    obtain ⟨behind, sound⟩ := sends.cursor alive (cursor.same same)
    have all := sends.sentAll alive
    obtain ⟨finished, state, done⟩ := finishSending_same (s₁.processSendData c e)
    have longer : WriteRun.segments c { w with machine := w.machine.tick c e, attempts := w.attempts ++ s₁.sendAttempts c e } =
        w.segments c ++ (s₁.sendAttempts c e).filterMap (SendAttempt.segment c) := List.filterMap_append ..
    rw [attempts]
    refine ⟨calls, fun _ _ => ?_, fun _ idle _ => ?_, ?_, ?_, ?_⟩
    · rw [longer, ticks, result]
      exact behind.same finished
    · rw [ticks, result] at idle ⊢
      exact finished.2.1.trans (done (all.waiting.trans waits) idle)
    · rw [longer]
      exact ⟨_, behind.sent.symm⟩
    · rw [longer]
      exact behind.contiguous
    · intro a member
      rcases List.mem_append.mp member with member | member
      · exact inv.sound a member
      · exact sound a member
  · have nothing : w.machine.sendAttempts c e = [] := by
      rw [Machine.sendAttempts, input]
      dsimp only
      rw [silent]
    rw [nothing, List.append_nil]
    refine inv.keeps calls fun _ opened' => ?_
    rw [ticks] at opened'
    exact absurd opened' shut

/-- A round of the call in progress. -/
theorem Inv.tick (inv : Inv c w) (e : Env) :
    Inv c { w with machine := w.machine.tick c e, attempts := w.attempts ++ w.machine.sendAttempts c e } := by
  have calls : (w.machine.tick c e).CallInv := Machine.step_callInv inv.calls (e, .tick)
  have waits : ∀ input, w.machine.inputOf e = some input → w.machine.call = some .write → w.machine.sock.waiting = true := by
    intro input some call
    unfold Machine.inputOf at some
    rw [call] at some
    dsimp only at some
    split_ifs at some with waiting
    exact waiting
  cases input : w.machine.inputOf e with
  | none =>
    have nothing : w.machine.sendAttempts c e = [] := by rw [Machine.sendAttempts, input]
    have settles : w.machine.tick c e = w.machine.settle c e := by rw [Machine.tick, input]
    rw [nothing, List.append_nil]
    exact inv.keeps calls fun call => absurd (settles ▸ call) (settle_call e)
  | some taken =>
    obtain ⟨s, segment⟩ := taken
    have ticks : (w.machine.tick c e).sock = s.input c e segment ∧
        ((w.machine.tick c e).call = some .write → w.machine.call = some .write) := by
      rw [Machine.tick, input]
      refine ⟨rfl, fun call => ?_⟩
      dsimp only at call
      split at call
      · exact nomatch call
      · exact call
    cases segment with
    | some r =>
      have nothing : w.machine.sendAttempts c e = [] := by rw [Machine.sendAttempts, input]
      rw [nothing, List.append_nil]
      refine inv.keeps calls fun call opened => ?_
      have call' := ticks.2 call
      obtain ⟨rest, dport, -, rfl⟩ := Machine.inputOf_some input
      have open' : w.machine.sock.isOpen := inv.calls.write call' (waits _ input call')
      rw [ticks.1] at opened ⊢
      rcases input_segment_cursor c e (s := Machine.taking w.machine.sock rest dport) open' r with same | shut
      · exact ⟨call', open', same.1, same.2⟩
      · exact absurd opened shut
    | none =>
      obtain rfl := Machine.inputOf_none input
      by_cases call : w.machine.call = some .write
      · exact inv.writes call (waits _ input call) input calls ticks.1
      · have nothing := silent (c := c) inv.calls call input
        rw [nothing, List.append_nil]
        exact inv.keeps calls fun call' => absurd (ticks.2 call') call

theorem Inv.step (inv : Inv c w) (event : WriteEvent) : Inv c (w.step c event) := by
  cases event with
  | adjust other => exact inv.adjust other
  | step e event =>
    by_cases idle : w.machine.call = none
    · exact inv.begins idle e event
    · have result : w.step c (.step e event) =
          ⟨w.machine.step c (e, event), w.data, w.first, w.attempts ++ event.sendAttempts c e w.machine⟩ := if_neg idle
      have calls : (w.machine.step c (e, event)).CallInv := Machine.step_callInv inv.calls (e, event)
      rw [result]
      cases event with
      | tick => exact inv.tick e
      | arrive segment size =>
        have same : SameCursor w.machine.sock (w.machine.sock.addToReceiveQueue c e segment size) ∧
            (w.machine.sock.addToReceiveQueue c e segment size).state = w.machine.sock.state ∧
            (w.machine.sock.addToReceiveQueue c e segment size).waiting = w.machine.sock.waiting := by
          unfold addToReceiveQueue
          dsimp only
          split_ifs
          · exact ⟨⟨rfl, rfl, rfl⟩, rfl, rfl⟩
          · cases e.alloc w.machine.sock.mempool.requests <;> exact ⟨⟨rfl, rfl, rfl⟩, rfl, rfl⟩
        have kept := inv.keeps calls fun call opened => ⟨call, by
          change TcpSocket.isOpen (w.machine.sock.addToReceiveQueue c e segment size) at opened
          rwa [isOpen, same.2.1] at opened, same.1, same.2.2⟩
        simpa [Event.sendAttempts] using kept
      | _ =>
        have unchanged : ∀ event', (if w.machine.call = none then w.machine.begin c e event' else w.machine) = w.machine :=
          fun event' => if_neg idle
        simp only [Machine.step, unchanged, Event.sendAttempts, List.append_nil]
        exact inv

/-- What `processSendData` hands to the interface are the segments of its attempts, and in every
run of a socket whose window, MSS, history and memory change at will, those of a `write` are a
prefix of its bytes. -/
theorem segmented (c : Config) (memory : TcpSocket) (events : List WriteEvent) :
    (∀ (e : Env) (s : TcpSocket), s.state ≠ .closed → (s.processSendData c e).trace.wire =
        ((s.sendAttempts c e).filterMap (SendAttempt.segment c)).reverse ++ s.trace.wire) ∧
      Segmented c (events.foldl (WriteRun.step c) (start c memory)) := by
  refine ⟨fun e s alive => ((processSendData_sends c e s).sentAll alive).wire, ?_⟩
  have reach : Reach (WriteRun.step c) (fun _ _ => True) (start c memory) (events.foldl (WriteRun.step c) (start c memory)) :=
    Reach.start.foldl (.of_forall (fun _ _ => trivial) _ _)
  exact (reach.invariant (Inv c) (start_inv c memory) fun _ event inv _ => inv.step event).segments

end WriteRun

end IPStack
