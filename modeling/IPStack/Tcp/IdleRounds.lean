import IPStack.Tcp.SegmentRounds

/-! The handlers without a segment and the calls of the application, as actions. -/

namespace IPStack

namespace TcpSocket

variable {c : Config} {d : Round} {e : Env} {s s' : TcpSocket}

/-- The round runs a handler without a segment. -/
structure Idles (c : Config) (d : Round) (s : TcpSocket) : Prop where
  input : d.input = none
  idle : d.idle = true
  start : d.start = s
  updates : s.state ≠ .closed → s.state ≠ .listen → d.updates
  again : s.state ≠ .closed → s.state ≠ .listen → d.again
  aborts : s.ends c d.env → d.aborts

/-- What `updateHistory` can change in a connection that it does not kill. -/
def Updated (s s' : TcpSocket) : Prop :=
  s' = { s with
    history := s'.history, mempool := s'.mempool, slowStart := s'.slowStart, retransmitting := s'.retransmitting
    rtt := s'.rtt, trace := { s.trace with wire := s'.trace.wire } }

theorem updateHistory_cases (c : Config) (e : Env) (doRetransmit : Bool) (alive : s.state ≠ .closed) :
    Updated s (s.updateHistory c e doRetransmit) ∨
      s.overdue c e ∧ ∃ s₁ : TcpSocket, s.updateHistory c e doRetransmit = s₁.abort := by
  rw [updateHistory_eq]
  cases interface : e.interface with
  | false =>
    have body : s.updateHistoryBody c e doRetransmit = s.clearHistory := by simp [updateHistoryBody, interface]
    rw [body, if_neg (fun killed => alive killed.2)]
    exact Or.inl rfl
  | true =>
    have updated := updateHistoryBody_updated (c := c) interface s doRetransmit
    rcases updated.state with same | ⟨closed, -, overdue⟩
    · rw [if_neg (fun killed => alive (same ▸ killed.2))]
      have frame := updated.frame
      rw [same] at frame
      exact Or.inl frame
    · obtain ⟨r, member, exceeded⟩ := overdue
      rw [if_pos ⟨exceeded.2.2.1, closed⟩]
      exact Or.inr ⟨⟨interface, r, member, exceeded⟩, _, rfl⟩

theorem Idles.update_actions {h : Bool} (i : Idles c d s) (state : s.state ≠ .closed ∧ s.state ≠ .listen) :
    Actions c d (h, s) (h, s.updateHistory c d.env true) :=
  updateHistory_actions true (i.updates state.1 state.2) (fun overdue _ interface => i.aborts (.inl ⟨interface, overdue⟩))
    (fun _ => ⟨i.again state.1 state.2, i.start.symm⟩) (fun absent => nomatch absent)

theorem updateHistory_nextBlock (c : Config) (e : Env) (s : TcpSocket) (doRetransmit : Bool) :
    (s.updateHistory c e doRetransmit).mempool.nextBlock = s.mempool.nextBlock := by
  have body : (s.updateHistoryBody c e doRetransmit).mempool.nextBlock = s.mempool.nextBlock := by
    cases interface : e.interface with
    | false => simp [updateHistoryBody, interface, clearHistory, Mempool.freeAll]
    | true => rw [(updateHistoryBody_updated interface s doRetransmit).freed]
  rw [updateHistory_eq]
  split
  · exact body
  · exact body

theorem Idles.unfilled (i : Idles c d s) {doRetransmit : Bool} (updated : Updated s (s.updateHistory c d.env doRetransmit)) :
    d.start.Unfilled (s.updateHistory c d.env doRetransmit) := by
  rw [i.start]
  constructor
  · unfold Updated at updated
    rw [updated]
  · exact updateHistory_nextBlock c d.env s doRetransmit

theorem Replied.receiving (replied : Replied s s') : s'.receiving = s.receiving := by
  unfold Replied at replied
  rw [replied]

theorem establishedReceive_actions (state : s.state = .established) (receiving : s.receiving = true) (runs : d.updates) :
    Actions c d (false, s) (false, s.establishedReceive c d.env) := by
  unfold establishedReceive
  dsimp only
  by_cases held : 0 < s.receiveBuffer.getRecvBytes c
  · rw [if_pos held]
    have bounds : (if s.applicationBuflen < s.receiveBuffer.getRecvBytes c then s.applicationBuflen
        else s.receiveBuffer.getRecvBytes c) ≤ s.receiveBuffer.getRecvBytes c ∧
        (if s.applicationBuflen < s.receiveBuffer.getRecvBytes c then s.applicationBuflen
        else s.receiveBuffer.getRecvBytes c) ≤ s.applicationBuflen := by
      split_ifs <;> constructor <;> bv_omega
    generalize (if s.applicationBuflen < s.receiveBuffer.getRecvBytes c then s.applicationBuflen
      else s.receiveBuffer.getRecvBytes c) = len at *
    have alive : (s.readToApplication c len).state ≠ .closed := fun closed => by
      simp [readToApplication, copyToApplication, state] at closed
    have sent := processAck_actions (c := c) (d := d) (h := false) (s := s.readToApplication c len)
      (fun _ => alive_of_open alive) (fun _ => runs)
    refine .head (.read state receiving bounds.1 bounds.2) (sent.1.trans ?_)
    split_ifs
    · exact .single (.received ((sent.2 alive).receiving.trans receiving))
    · exact .refl
  · rw [if_neg held]
    exact (processAck_actions (fun _ => alive_of_open (by simp [state])) (fun _ => runs)).1

/-- The second socket has not gone on with a call since the first. -/
structure SameCall (s s' : TcpSocket) : Prop extends Unsent s s' where
  waiting : s'.waiting = s.waiting
  receiving : s'.receiving = s.receiving
  applicationBuflen : s'.applicationBuflen = s.applicationBuflen

theorem SameCall.trans {s'' : TcpSocket} (first : SameCall s s') (second : SameCall s' s'') : SameCall s s'' where
  toUnsent := first.toUnsent.trans second.toUnsent
  waiting := second.waiting.trans first.waiting
  receiving := second.receiving.trans first.receiving
  applicationBuflen := second.applicationBuflen.trans first.applicationBuflen

theorem HistoryOnly.frame (only : HistoryOnly s s') : SameCall s s' ∧ s'.mss = s.mss ∧
    s'.getSendWindow c = s.getSendWindow c := by
  unfold HistoryOnly at only
  rw [only]
  exact ⟨⟨⟨rfl, rfl, rfl, rfl, rfl, rfl, rfl⟩, rfl, rfl, rfl⟩, rfl, rfl⟩

theorem sendSegmentIn_frame (c : Config) (e : Env) (s : TcpSocket) (block : Nat) (len : BitVec 32) :
    (s.sendSegmentIn c e block len).state = s.state ∧ (s.sendSegmentIn c e block len).waiting = s.waiting ∧
      (s.sendSegmentIn c e block len).receiving = s.receiving := by
  unfold sendSegmentIn lowerSendWindow transmit historyAdd send
  dsimp only
  split_ifs <;> exact ⟨rfl, rfl, rfl⟩

/-- A waiting `write`. -/
structure Writing (s : TcpSocket) : Prop where
  opened : s.isOpen
  waiting : s.waiting = true
  sending : s.receiving = false

theorem Writing.of_frame (w : Writing s) (frame : s'.state = s.state ∧ s'.waiting = s.waiting ∧ s'.receiving = s.receiving) :
    Writing s' where
  opened := by
    have := w.opened
    rwa [isOpen, frame.1]
  waiting := frame.2.1.trans w.waiting
  sending := frame.2.2.trans w.sending

theorem Writing.of_same (w : Writing s) (same : SameCall s s') : Writing s' :=
  w.of_frame ⟨same.state, same.waiting, same.receiving⟩

theorem Writing.alive (w : Writing s) : s.state ≠ .closed := by
  rcases w.opened with state | state <;> simp [state]

theorem sendSegment_actions {len : BitVec 32} (w : Writing s) (some : 0 < s.applicationBuflen) (runs : d.updates)
    (amount : len = min3 ((s.getSendWindow c).setWidth 32) s.applicationBuflen s.mss ∧ 0 < s.getSendWindow c ∨
      len = 1 ∧ s.sendWindow = 0 ∧ d.idle ∧ Unsent d.start s ∧
        ((s.requestSendBufferTcp c d.env).1.isSome = true → d.start.probes c d.env))
    (attempt : d.Attempts c ⟨d.env, s, len⟩) :
    Actions c d (false, s) (false, (s.sendSegment c d.env len).2) ∧ Writing (s.sendSegment c d.env len).2 := by
  unfold sendSegment
  rcases requestSendBufferTcp_actions (c := c) (d := d) (h := false) (s := s) (fun _ => runs) with
    ⟨s₁, requested, same, room, granted, eq⟩ | ⟨s₁, requested, same, eq⟩ <;> rw [eq] <;>
    obtain ⟨frame, mss, window⟩ := (same.historyOnly w.alive).frame (c := c) <;> have w₁ := w.of_same frame
  · have attempted : d.Sends c s₁ len := attempt.sends (by simp only [SendAttempt.sends, sendSegment, eq])
      (same.historyOnly w.alive) (by simp only [sendSegment, eq])
    refine ⟨requested.tail (.send w₁.opened w₁.waiting w₁.sending (by rwa [frame.applicationBuflen]) ?_ room granted attempted), ?_⟩
    · rw [frame.applicationBuflen, mss, window, frame.sendWindow]
      refine amount.imp_right (fun ⟨one, closed, idle, before, probes⟩ => ⟨one, closed, idle, probes (by rw [eq]; rfl), ?_⟩)
      exact before.trans frame.toUnsent
    · have w₂ : Writing s₁.allocated := ⟨w₁.opened, w₁.waiting, w₁.sending⟩
      exact w₂.of_frame (sendSegmentIn_frame c d.env _ _ len)
  · exact ⟨requested, w₁⟩

theorem sendLoop_actions (fuel : Nat) (w : Writing s) (runs : d.updates)
    (attempts : ∀ a ∈ loopAttempts c d.env fuel s, d.Attempts c a) :
    Actions c d (false, s) (false, s.sendLoop c d.env fuel) ∧ Writing (s.sendLoop c d.env fuel) := by
  induction fuel generalizing s with
  | zero => exact ⟨.refl, w⟩
  | succ fuel ih =>
    unfold sendLoop
    split_ifs with more
    · have listed : loopAttempts c d.env (fuel + 1) s = ⟨d.env, s, min3 ((s.getSendWindow c).setWidth 32) s.applicationBuflen s.mss⟩ ::
          if (s.sendNextSegment c d.env).1 then loopAttempts c d.env fuel (s.sendNextSegment c d.env).2 else [] := by
        rw [loopAttempts, if_pos more]
        rfl
      rw [listed] at attempts
      obtain ⟨first, later⟩ := List.forall_mem_cons.mp attempts
      have sent := sendSegment_actions (c := c) (d := d) w more.1 runs (Or.inl ⟨rfl, more.2⟩) first
      unfold sendNextSegment at later ⊢
      split <;> rename_i eq <;> rw [eq] at sent later
      · have rest := ih sent.2 later
        exact ⟨sent.1.trans rest.1, rest.2⟩
      · exact sent
    · exact ⟨.refl, w⟩

theorem processSendData_actions (w : Writing s) (idle : d.idle) (runs : d.updates) (start : s = d.start.beforeSending c d.env)
    (sending : d.start.sendingSocket c d.env = some s) (same : SameCall d.start s) :
    Actions c d (false, s) (false, s.processSendData c d.env) ∧ Writing (s.processSendData c d.env) := by
  have attempts : ∀ a ∈ s.sendAttempts c d.env, d.Attempts c a := fun a member => ⟨idle, s, sending, member⟩
  unfold sendAttempts at attempts
  unfold processSendData
  split_ifs at attempts ⊢ with none closed due
  · exact ⟨.refl, w⟩
  · refine sendSegment_actions w (by bv_omega) runs (.inr ⟨rfl, closed, idle, same.toUnsent, fun granted => ?_⟩)
      (attempts _ (List.mem_singleton_self _))
    refine ⟨?_, same.waiting ▸ w.waiting, same.receiving ▸ w.sending, same.applicationBuflen ▸ (by bv_omega),
      same.sendWindow ▸ closed, ?_, ?_⟩
    · have opened := w.opened
      rwa [isOpen, same.state] at opened
    · rwa [probeDue, ← start]
    · rwa [← start]
  · exact ⟨.refl, w⟩
  · exact sendLoop_actions _ w runs attempts

theorem finishSending_actions (w : Writing s) : Actions c d (false, s) (false, s.finishSending) := by
  unfold finishSending
  split_ifs with done
  · exact .single (.finish w.opened done.1 done.2)
  · exact .refl

theorem Updated.frame (updated : Updated s s') : SameCall s s' := by
  unfold Updated at updated
  rw [updated]
  exact ⟨⟨rfl, rfl, rfl, rfl, rfl, rfl, rfl⟩, rfl, rfl, rfl⟩

theorem Replied.frame (replied : Replied s s') : SameCall s s' := by
  unfold Replied at replied
  rw [replied]
  exact ⟨⟨rfl, rfl, rfl, rfl, rfl, rfl, rfl⟩, rfl, rfl, rfl⟩

/-- Sending in an idle round: what is left to do once the history is up to date. -/
theorem Idles.sending_actions (i : Idles c d s) (w : Writing s') (runs : d.updates) (same : SameCall s s')
    (before : s' = s.beforeSending c d.env) (sending : s.sendingSocket c d.env = some s') :
    Actions c d (false, s') (false, (s'.processSendData c d.env).finishSending) := by
  have sent := processSendData_actions (c := c) (d := d) w i.idle runs (by rw [i.start, before]) (by rwa [i.start])
    (by rwa [i.start])
  exact sent.1.trans (finishSending_actions sent.2)

theorem sendingSocket_eq (opened : s.isOpen) (receiving : (s.updateHistory c e true).receiving = false)
    (waiting : (s.updateHistory c e true).waiting = true) : s.sendingSocket c e =
      some (if s.state = .established then (s.updateHistory c e true).processAck c e else s.updateHistory c e true) := by
  unfold sendingSocket
  rw [if_pos opened]
  exact if_pos ⟨receiving, waiting⟩

theorem Idles.sendingSocket_actions {s₁ : TcpSocket} (i : Idles c d s) (sending : s.sendingSocket c d.env = some s₁) :
    Actions c d (false, s) (false, s₁) ∧ s₁.state = s.state := by
  unfold sendingSocket at sending
  dsimp only at sending
  split_ifs at sending with opened calls state
  all_goals
    have alive : s.state ≠ .closed ∧ s.state ≠ .listen := by rcases opened with now | now <;> simp [now]
    have updating := i.update_actions (h := false) alive
    obtain rfl := Option.some.inj sending
    rcases updateHistory_cases c d.env true alive.1 with updated | ⟨-, s₂, aborted⟩
  · have frame := updated.frame
    have awake : (s.updateHistory c d.env true).state ≠ .closed := by simp [frame.state, state]
    have acked := processAck_actions (c := c) (d := d) (h := false) (fun _ => alive_of_open awake)
      (fun _ => i.updates alive.1 alive.2)
    exact ⟨updating.trans acked.1, (acked.2 awake).frame.state.trans frame.state⟩
  · rw [aborted] at calls
    simp [abort, resetSocketState] at calls
  · exact ⟨updating, updated.frame.state⟩
  · rw [aborted] at calls
    simp [abort, resetSocketState] at calls

theorem establishedIdle_actions (i : Idles c d s) (state : s.state = .established) :
    Actions c d (false, s.updateHistory c d.env true) (false, s.establishedIdle c d.env) := by
  have runs := i.updates (by simp [state]) (by simp [state])
  unfold establishedIdle
  dsimp only
  rcases updateHistory_cases c d.env true (s := s) (by simp [state]) with updated | ⟨-, s₁, aborted⟩
  · have frame := updated.frame
    have before : s.beforeSending c d.env = (s.updateHistory c d.env true).processAck c d.env := by
      unfold beforeSending
      dsimp only
      rw [if_pos (frame.state.trans state)]
    have sending := sendingSocket_eq (c := c) (e := d.env) (s := s) (.inl state)
    rw [if_pos state] at sending
    generalize s.updateHistory c d.env true = s₁ at *
    split_ifs with receiving waiting
    · exact establishedReceive_actions (frame.state.trans state) receiving runs
    · have alive : s₁.state ≠ .closed := by simp [frame.state, state]
      have sent := processAck_actions (c := c) (d := d) (h := false) (fun _ => alive_of_open alive) (fun _ => runs)
      have replied := sent.2 alive
      have w : Writing s₁ := ⟨.inl (frame.state.trans state), waiting, by simpa using receiving⟩
      exact sent.1.trans (i.sending_actions (w.of_same replied.frame) runs (frame.trans replied.frame) before.symm
        (sending (by simpa using receiving) waiting))
    · exact .refl
  · rw [aborted]
    exact .refl

theorem closewaitIdle_actions (i : Idles c d s) (state : s.state = .closewait) :
    Actions c d (false, s.updateHistory c d.env true) (false, s.closewaitIdle c d.env) := by
  have runs := i.updates (by simp [state]) (by simp [state])
  unfold closewaitIdle
  dsimp only
  rcases updateHistory_cases c d.env true (s := s) (by simp [state]) with updated | ⟨-, s₁, aborted⟩
  · have frame := updated.frame
    have before : s.beforeSending c d.env = s.updateHistory c d.env true := by
      unfold beforeSending
      dsimp only
      rw [if_neg (by simp [frame.state, state])]
    have sending := sendingSocket_eq (c := c) (e := d.env) (s := s) (.inr state)
    rw [if_neg (by simp [state])] at sending
    generalize s.updateHistory c d.env true = s₁ at *
    split_ifs with receiving waiting
    · exact .single (.readRest (frame.state.trans state) receiving)
    · have w : Writing s₁ := ⟨.inr (frame.state.trans state), waiting, by simpa using receiving⟩
      exact i.sending_actions w runs frame before.symm (sending (by simpa using receiving) waiting)
    · exact .refl
  · rw [aborted]
    exact .refl

theorem finwait1Idle_actions (i : Idles c d s) (state : s.state = .finwait1) :
    Actions c d (false, s.updateHistory c d.env true) (false, s.finwait1Idle c d.env) := by
  have runs := i.updates (by simp [state]) (by simp [state])
  unfold finwait1Idle
  dsimp only
  rcases updateHistory_cases c d.env true (s := s) (by simp [state]) with updated | ⟨overdue, s₁, aborted⟩
  · have frame := updated.frame
    generalize s.updateHistory c d.env true = s₁ at *
    have alive : s₁.state ≠ .closed := by simp [frame.state, state]
    have sent := processAck_actions (c := c) (d := d) (h := false) (fun _ => alive_of_open alive) (fun _ => runs)
    have replied := sent.2 alive
    refine sent.1.trans ?_
    split_ifs with empty
    · exact .single (.finAcked empty (.inl (replied.state.trans (frame.state.trans state))))
    · exact .refl
  · rw [aborted, show s₁.abort.processAck c d.env = s₁.abort from rfl, if_pos (show s₁.abort.history = [] from rfl)]
    exact .single (.finAcked rfl (.inr ⟨rfl, by rw [i.start, state], i.input, i.aborts (.inl overdue)⟩))

/-- A killed connection has no acknowledgement to send. -/
theorem updateHistory_triggered {doRetransmit : Bool}
    (triggered : (s.updateHistory c e doRetransmit).ackTriggered = true) (alive : s.state ≠ .closed) :
    (s.updateHistory c e doRetransmit).state ≠ .closed := by
  rcases updateHistory_cases c e doRetransmit alive with updated | ⟨-, s₁, aborted⟩
  · rwa [updated.frame.state]
  · rw [aborted] at triggered
    exact absurd triggered (by simp [abort, resetSocketState])

theorem updateHistory_ackTriggered {doRetransmit : Bool}
    (triggered : (s.updateHistory c e doRetransmit).ackTriggered = true) : s.ackTriggered = true := by
  have body : (s.updateHistoryBody c e doRetransmit).ackTriggered = s.ackTriggered := by
    cases interface : e.interface with
    | false => simp [updateHistoryBody, interface, clearHistory]
    | true => rw [(updateHistoryBody_updated interface s doRetransmit).frame]
  rw [updateHistory_eq] at triggered
  split_ifs at triggered
  · exact absurd triggered (by simp [abort, resetSocketState])
  · rwa [body] at triggered

theorem finwait2Idle_actions (i : Idles c d s) (state : s.state = .finwait2) :
    Actions c d (false, s.updateHistory c d.env true) (false, (s.updateHistory c d.env true).processAck c d.env) :=
  (processAck_actions (fun triggered => alive_of_open (updateHistory_triggered triggered (by simp [state])))
    (fun _ => i.updates (by simp [state]) (by simp [state]))).1

theorem lastackIdle_actions (i : Idles c d s) (state : s.state = .lastack) :
    Actions c d (false, s.updateHistory c d.env true) (false, s.lastackIdle c d.env) := by
  unfold lastackIdle
  dsimp only
  split_ifs with empty
  · refine .single (.abort ?_)
    rcases updateHistory_cases c d.env true (s := s) (by simp [state]) with updated | ⟨-, s₁, aborted⟩
    · exact .inr ⟨i.aborts (.inr (.inl ⟨state, empty⟩)), i.unfilled updated⟩
    · exact .inl (by rw [aborted]; rfl)
  · exact .refl

theorem closingIdle_actions (i : Idles c d s) (state : s.state = .closing) :
    Actions c d (false, s.updateHistory c d.env true) (false, s.closingIdle c d.env) := by
  unfold closingIdle
  dsimp only
  split_ifs with empty
  · refine .single (.closingAcked empty ?_)
    rcases updateHistory_cases c d.env true (s := s) (by simp [state]) with updated | ⟨overdue, s₁, aborted⟩
    · exact .inl (updated.frame.state.trans state)
    · exact .inr ⟨by rw [aborted]; rfl, by rw [i.start, state], i.input, i.aborts (.inl overdue)⟩
  · exact .refl

theorem timewaitIdle_actions (i : Idles c d s) (state : s.state = .timewait) :
    Actions c d (false, s.updateHistory c d.env true) (false, s.timewaitIdle c d.env) := by
  unfold timewaitIdle
  dsimp only
  split_ifs with expired
  · refine .single (.abort ?_)
    rcases updateHistory_cases c d.env true (s := s) (by simp [state]) with updated | ⟨-, s₁, aborted⟩
    · exact .inr ⟨i.aborts (.inr (.inr ⟨state, expired⟩)), i.unfilled updated⟩
    · exact .inl (by rw [aborted]; rfl)
  · exact .refl

/-- The state machine switch without a segment, once the history is up to date. -/
theorem input_updated_actions (i : Idles c d s) (alive : s.state ≠ .closed ∧ s.state ≠ .listen) :
    Actions c d (false, s.updateHistory c d.env true) (false, s.input c d.env none) := by
  unfold input
  cases state : s.state with
  | closed => exact absurd state alive.1
  | listen => exact absurd state alive.2
  | synsent => exact .refl
  | synrcvd => exact .refl
  | established => exact establishedIdle_actions i state
  | finwait1 => exact finwait1Idle_actions i state
  | finwait2 => exact finwait2Idle_actions i state
  | closewait => exact closewaitIdle_actions i state
  | lastack => exact lastackIdle_actions i state
  | closing => exact closingIdle_actions i state
  | timewait => exact timewaitIdle_actions i state

/-- In CLOSED and LISTEN an empty input leaves the history alone. -/
theorem input_quiet_actions (quiet : ¬(s.state ≠ .closed ∧ s.state ≠ .listen)) :
    Actions c d (false, s) (false, s.input c d.env none) := by
  unfold input
  cases state : s.state with
  | closed => exact .single (.idle state)
  | listen => exact .refl
  | _ => exact absurd (by simp [state]) quiet

/-- The state machine switch with a segment. -/
theorem input_segment_actions {r : ReceiveBuffer} (p : Processes c d s r) :
    Actions c d (true, d.start) (false, s.input c d.env (some r)) := by
  unfold input
  cases state : s.state with
  | closed =>
    rw [show d.start = s by rw [p.start, ackedBy, if_neg (by simp [acceptsAck, isOpen, state])]]
    exact .head (.free p.input) (.single (.idle state))
  | listen => exact listenSegment_actions p state
  | synsent => exact synsentSegment_actions p state
  | synrcvd => exact synrcvdSegment_actions p state
  | established => exact establishedSegment_actions p state
  | finwait1 => exact finwait1Segment_actions p state
  | finwait2 => exact finwait2Segment_actions p state
  | closewait => exact closewaitSegment_actions p state
  | lastack => exact lastackSegment_actions p state
  | closing => exact closingSegment_actions p state
  | timewait => exact timewaitSegment_actions p state

end TcpSocket

end IPStack
