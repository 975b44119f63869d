import IPStack.Tcp.SessionRounds

/-! Two sockets that no input can tell apart: the calls of the application and their rounds. -/

namespace IPStack

namespace TcpSocket

variable {c : Config} {e : Env} {w : Written} {s s' : TcpSocket}

/-! ### Opening a connection -/

/-- A socket without the members that the next connection begins with. -/
def unnumbered (s : TcpSocket) : TcpSocket :=
  { s with seqnumUnacked := 0, seqnumNext := 0, sendWindow := 0, rtt := ⟨0, 0, false, 0, 0, 0⟩ }

namespace Alike

theorem unnumbered (alike : Alike c w s s') : Alike c w s.unnumbered s'.unnumbered :=
  { alike with seqnumUnacked := rfl, seqnumNext := rfl, sendWindow := rfl, rtt := fun _ => rfl }

/-- The sequence numbers and the timer begin anew. -/
theorem numbered (alike : Alike c w s.unnumbered s'.unnumbered) (e : Env) :
    Alike c w { s.genInitialSeqnum c e with sendWindow := 0 } { s'.genInitialSeqnum c e with sendWindow := 0 } := by
  unfold genInitialSeqnum
  dsimp only
  split_ifs with woven
  · exact { alike with seqnumUnacked := rfl, seqnumNext := rfl, sendWindow := rfl, rtt := fun _ => rfl }
  · exact { alike with seqnumUnacked := rfl, seqnumNext := rfl, sendWindow := rfl, rtt := fun now => absurd now woven }

/-- A blocking call starts the handshake. -/
theorem opens (alike : Alike c w s s') {state : TcpState}
    (early : ¬(state = .closewait ∨ state = .lastack ∨ state = .closing ∨ state = .timewait)) {trace : Trace} :
    Alike c w { s with state := state, waiting := true, trace := trace }
      { s' with state := state, waiting := true, trace := trace } :=
  { alike.enters early with waiting := rfl, trace := rfl }

theorem connectIn (alike : Alike c w s s') (e : Env) (block : Nat) :
    Alike c w (s.connectIn c e block) (s'.connectIn c e block) := by
  have opened : Alike c w
      { s with seqnumNext := s.seqnumNext + 1, state := .synsent, waiting := true, trace := { s.trace with aborted := false } }
      { s' with
        seqnumNext := s'.seqnumNext + 1, state := .synsent, waiting := true
        trace := { s'.trace with aborted := false } } := by
    rw [alike.trace]
    exact alike.counts.opens (by simp)
  unfold TcpSocket.connectIn
  dsimp only
  rw [alike.setSyn, alike.writeHeader, opened.getRto]
  exact opened.transmit e block _ _

theorem connectBase (alike : Alike c w s.unnumbered s'.unnumbered) (closed : s.state = .closed) (e : Env) :
    Matched c w (s.connectBase c e) (s'.connectBase c e) := by
  obtain ⟨answer, t, t', first, second, after⟩ := (alike.numbered e).requestSendBufferTcp e
  have unopened := (connectBase_unopened c e closed).1
  refine matched_early ?_ unopened
  unfold TcpSocket.connectBase
  dsimp only
  rw [first, second]
  cases answer with
  | none => exact after
  | some b => exact after.connectIn e b

theorem listenBase (alike : Alike c w s.unnumbered s'.unnumbered) (closed : s.state = .closed) (e : Env) :
    Matched c w (s.listenBase c e) (s'.listenBase c e) := by
  have closed' : s'.state = .closed := alike.state.trans closed
  have numbered := alike.numbered e
  unfold TcpSocket.listenBase
  rw [if_pos closed, if_pos closed']
  rw [show s'.trace = s.trace from alike.trace]
  exact (numbered.opens (by simp)).matched_early (.inr (.inl rfl))

/-! ### The other calls -/

theorem closeIn (alike : Alike c w s s') (known : w.position = true) (e : Env) (block : Nat) :
    Alike c w (s.closeIn c e block) (s'.closeIn c e block) := by
  have counted : Alike c w { s with seqnumNext := s.seqnumNext + 1, waiting := true }
      { s' with seqnumNext := s'.seqnumNext + 1, waiting := true } := { alike.counts with waiting := rfl }
  have next : (if s'.state = .closewait then TcpState.lastack else .finwait1) =
      if s.state = .closewait then .lastack else .finwait1 := by
    rw [alike.state]
  unfold TcpSocket.closeIn
  dsimp only
  rw [alike.writeHeaderWithAck, alike.getAckNum known, counted.getRto, next]
  have sent := counted.transmit e block { s.writeHeaderWithAck c (s.receiveBuffer.getAckNum c) with fin := true } (s.getRto c)
  by_cases state : s.state = .closewait
  · rw [if_pos state]
    exact sent.moves .lastack (sent.finSeqnum (.inr (.inl state)))
  · rw [if_neg state]
    exact sent.enters (by simp)

theorem writeBase (alike : Alike c w s s') (data : List UInt8) : Alike c w (s.writeBase data) (s'.writeBase data) :=
  { alike with buffer := fun _ => rfl, buflen := rfl, waiting := rfl }

theorem receiveBase (alike : Alike c w s s') (buffer : List UInt8) :
    Alike c { w with received := true } (s.receiveBase buffer) (s'.receiveBase buffer) :=
  { alike with
    received := fun _ => ⟨rfl, rfl⟩, buffer := fun _ => rfl, buflen := rfl, receiving := rfl, waiting := rfl }

theorem setPorts (alike : Alike c w s s') (sport dport : BitVec 16) :
    Alike c w { s with sport := sport, dport := dport } { s' with sport := sport, dport := dport } :=
  { alike with ports := ⟨rfl, rfl⟩ }

theorem setMaxReceiveWindow (alike : Alike c w s s') (max : BitVec 32) :
    Alike c w { s with maxReceiveWindowMss := max } { s' with maxReceiveWindowMss := max } :=
  { alike with windowMss := fun _ => rfl }

end Alike

theorem synchronized_of_open (opened : s.isOpen) : s.synchronized := by
  rcases opened with state | state <;> simp [synchronized, state]

theorem Matched.closeBase {v : Written} (matched : Matched c v s s') (e : Env) :
    Matched c v (s.closeBase c e) (s'.closeBase c e) := by
  obtain ⟨w, within, alike, position, window⟩ := matched
  refine .ite (by rw [alike.state]) (fun opened => ?_) (fun _ => ⟨w, within, alike, position, window⟩)
  have behind := synchronized_of_open opened.symm
  obtain ⟨answer, t, t', first, second, after, -⟩ := alike.requested e behind.1
  rw [first, second]
  cases answer with
  | none => exact (after.matched (position (.inr behind)) (window behind)).mono within
  | some b => exact ((after.closeIn (position (.inr behind)) e b).matched (position (.inr behind)) (window behind)).mono within

theorem Matched.receiveBase {v : Written} (matched : Matched c v s s') (buffer : List UInt8) :
    Matched c { v with received := true } (s.receiveBase buffer) (s'.receiveBase buffer) := by
  obtain ⟨w, within, alike, position, window⟩ := matched
  exact ⟨{ w with received := true }, ⟨within.position, fun _ => rfl⟩, alike.receiveBase buffer, position, window⟩

theorem Matched.connectBase {v : Written} (matched : Matched c v s s') (closed : s.state = .closed) (sport : BitVec 16)
    (e : Env) : Matched c v ({ s with sport := sport }.connectBase c e) ({ s' with sport := sport }.connectBase c e) := by
  obtain ⟨w, within, alike, -, -⟩ := matched
  have bound : Alike c w { s with sport := sport } { s' with sport := sport } := { alike with ports := ⟨alike.ports.1, rfl⟩ }
  exact (bound.unnumbered.connectBase closed e).mono within

theorem Matched.listenBase {v : Written} (matched : Matched c v s s') (e : Env) :
    Matched c v (s.listenBase c e) (s'.listenBase c e) := by
  have sockets := matched
  obtain ⟨w, within, alike, -, -⟩ := matched
  by_cases closed : s.state = .closed
  · exact (alike.unnumbered.listenBase closed e).mono within
  · have closed' : s'.state ≠ .closed := alike.state ▸ closed
    unfold TcpSocket.listenBase
    rwa [if_neg closed, if_neg closed']

end TcpSocket

namespace Machine

open TcpSocket (Alike same_branch)

variable {c : Config} {e : Env} {w : Written} {m m' : Machine} {s s' : TcpSocket}

/-- The machines are in the same call, and their sockets agree. -/
inductive Matched (c : Config) : Machine → Machine → Prop
  | same {s s' : TcpSocket} {call : Option Call} {returned : List UInt8} {endOfStream : Bool} {v : Written}
      (reading : call = some .receive → v.received = true)
      (polling : ∀ processed, call = some (.poll processed) → v.position = true)
      (sockets : TcpSocket.Matched c v s s') :
      Matched c ⟨s, call, returned, endOfStream⟩ ⟨s', call, returned, endOfStream⟩

/-! ### Rounds -/

/-- Both take the same packet from the queue. -/
def Takes (c : Config) (w : Written) (s : TcpSocket) (p p' : TcpSocket × Option ReceiveBuffer) : Prop :=
  ∃ t t' segment, p = (t, segment) ∧ p' = (t', segment) ∧ Alike c w t t' ∧ t.state = s.state

theorem nextPacket_takes (alike : Alike c w s s') : Takes c w s (nextPacket s) (nextPacket s') := by
  unfold nextPacket
  rw [alike.packetbuffer]
  cases s.packetbuffer with
  | nil => exact ⟨s, s', none, rfl, rfl, alike, rfl⟩
  | cons r rest => exact ⟨_, _, some r, rfl, rfl, { alike with packetbuffer := rfl }, rfl⟩

theorem listenPacket_takes (alike : Alike c w s s') : Takes c w s (listenPacket s) (listenPacket s') := by
  unfold listenPacket
  rw [alike.packetbuffer]
  cases s.packetbuffer with
  | nil => exact ⟨s, s', none, rfl, rfl, alike, rfl⟩
  | cons r rest => exact ⟨_, _, some r, rfl, rfl, { alike with packetbuffer := rfl, ports := ⟨rfl, alike.ports.2⟩ }, rfl⟩

theorem inputOf_takes (m m' : Machine) (alike : Alike c w m.sock m'.sock) (call : m'.call = m.call) (e : Env) :
    m.inputOf e = none ∧ m'.inputOf e = none ∨
      ∃ p p', m.inputOf e = some p ∧ m'.inputOf e = some p' ∧ Takes c w m.sock p p' := by
  unfold inputOf
  rw [call, alike.packetbuffer, alike.state, alike.waiting]
  cases m.call with
  | none => exact .inl ⟨rfl, rfl⟩
  | some running =>
    cases running with
    | poll processed =>
      dsimp only
      split_ifs
      · exact .inl ⟨rfl, rfl⟩
      · exact .inr ⟨_, _, rfl, rfl, nextPacket_takes alike⟩
    | listen =>
      dsimp only
      split_ifs
      · exact .inr ⟨_, _, rfl, rfl, listenPacket_takes alike⟩
      · exact .inl ⟨rfl, rfl⟩
      · exact .inr ⟨_, _, rfl, rfl, nextPacket_takes alike⟩
      · exact .inl ⟨rfl, rfl⟩
    | _ =>
      dsimp only
      split_ifs
      · exact .inr ⟨_, _, rfl, rfl, nextPacket_takes alike⟩
      · exact .inl ⟨rfl, rfl⟩

/-- No call is in progress. -/
theorem Matched.returns {v : Written} (sockets : TcpSocket.Matched c v s s') (returned : List UInt8) (endOfStream : Bool) :
    Matched c ⟨s, none, returned, endOfStream⟩ ⟨s', none, returned, endOfStream⟩ := .same nofun nofun sockets

/-- Another call than `receive` and `poll` is in progress. -/
theorem Matched.calls {v : Written} (sockets : TcpSocket.Matched c v s s') {call : Call}
    (other : call ≠ .receive ∧ ∀ processed, call ≠ .poll processed) (returned : List UInt8) (endOfStream : Bool) :
    Matched c ⟨s, some call, returned, endOfStream⟩ ⟨s', some call, returned, endOfStream⟩ := by
  refine .same (fun now => ?_) (fun processed now => ?_) sockets
  · exact absurd (Option.some.inj now) other.1
  · exact absurd (Option.some.inj now) (other.2 processed)

theorem Matched.settle (matched : Matched c m m') (e : Env) : Matched c (m.settle c e) (m'.settle c e) := by
  have same := matched
  obtain @⟨s, s', call, returned, endOfStream, v, reading, polling, sockets⟩ := same
  obtain ⟨w, within, alike, -, -⟩ := id sockets
  unfold Machine.settle
  dsimp only
  cases call with
  | none => exact matched
  | some running =>
    cases running with
    | receive =>
      obtain ⟨bytes, len⟩ := alike.received (within.received (reading rfl))
      dsimp only
      rw [bytes, len, alike.state]
      exact .returns sockets _ _
    | poll processed =>
      refine .returns (v := v) (.ite Iff.rfl (fun _ => ?_) (fun _ => sockets)) _ _
      exact (sockets.updateHistory e true).processAck (polling processed rfl) e
    | listen =>
      obtain ⟨t, t', segment, first, second, after, same⟩ := listenPacket_takes alike
      dsimp only
      rw [alike.state, alike.ports.2, first, second]
      cases state : s.state with
      | listen =>
        cases segment with
        | none => exact matched
        | some r => exact .calls ((after.freeReceivedSegment r).matched_early (.inr (.inl (same.trans state)))) (by simp) _ _
      | established => exact .returns sockets _ _
      | _ =>
        dsimp only
        split_ifs
        · exact .returns sockets _ _
        · exact .calls (sockets.listenBase e) (by simp) _ _
    | _ => exact .returns sockets _ _

theorem Matched.tick (matched : Matched c m m') (e : Env) : Matched c (m.tick c e) (m'.tick c e) := by
  have same := matched
  obtain @⟨s, s', call, returned, endOfStream, v, reading, polling, w, within, alike, position, window⟩ := same
  unfold Machine.tick
  rcases inputOf_takes ⟨s, call, returned, endOfStream⟩ ⟨s', call, returned, endOfStream⟩ alike rfl e with
    ⟨first, second⟩ | ⟨p, p', first, second, t, t', segment, rfl, rfl, after, state⟩
  · rw [first, second]
    exact matched.settle e
  · have taken : TcpSocket.Matched c v t t' := by
      unfold TcpSocket.synchronized at position window
      rw [← state] at position window
      exact ⟨w, within, after, position, window⟩
    rw [first, second]
    refine .same (fun now => reading ?_) (fun processed now => ?_) (taken.input e segment)
    · dsimp only at now
      split at now
      · exact nomatch now
      · exact now
    · dsimp only at now
      split at now
      · exact polling _ rfl
      · exact polling processed now

/-! ### Calls -/

theorem Matched.begin (matched : Matched c m m') (e : Env) (event : Event) :
    Matched c (m.begin c e event) (m'.begin c e event) := by
  have same := matched
  obtain @⟨s, s', call, returned, endOfStream, v, reading, polling, sockets⟩ := same
  obtain ⟨w, within, alike, position, window⟩ := id sockets
  have isOpen : s'.isOpen ↔ s.isOpen := by
    unfold TcpSocket.isOpen
    rw [alike.state]
  cases event with
  | connect =>
    refine same_branch (by rw [alike.state]) (fun ⟨_, closed⟩ => ?_) (fun _ => matched)
    exact .calls (sockets.connectBase closed e.freePort e) (by simp) _ _
  | listen =>
    refine same_branch (by rw [alike.state, alike.ports.2]) (fun _ => matched) (fun _ => ?_)
    exact .calls (sockets.listenBase e) (by simp) _ _
  | write data size_lt =>
    refine same_branch isOpen (fun _ => ?_) (fun _ => matched)
    have written : TcpSocket.Matched c v (s.writeBase data) (s'.writeBase data) := sockets.keeps rfl (·.writeBase data)
    exact .calls written (by simp) _ _
  | receive buffer size_lt =>
    refine same_branch isOpen (fun _ => ?_) (fun _ => matched)
    exact .same (fun _ => rfl) nofun (sockets.receiveBase buffer)
  | close => exact .calls (sockets.closeBase e) (by simp) _ _
  | poll =>
    refine same_branch isOpen (fun opened => ?_) (fun _ => matched)
    exact .same nofun (fun _ _ => position (.inr (TcpSocket.synchronized_of_open opened))) ⟨w, .refl w, alike, position, window⟩
  | setPorts sport dport => exact .same reading polling (sockets.keeps rfl (·.setPorts sport dport))
  | setMaxReceiveWindow max => exact .same reading polling (sockets.keeps rfl (·.setMaxReceiveWindow max))
  | arrive segment size => exact matched
  | tick => exact matched

theorem addToReceiveQueue_frame (c : Config) (e : Env) (s : TcpSocket) (segment : TcpSegment) (size : BitVec 16) :
    s.addToReceiveQueue c e segment size = { s with
      mempool := (s.addToReceiveQueue c e segment size).mempool
      packetbuffer := (s.addToReceiveQueue c e segment size).packetbuffer } := by
  unfold TcpSocket.addToReceiveQueue
  dsimp only
  split_ifs
  · rfl
  · cases e.alloc s.mempool.requests <;> rfl

theorem Matched.step (matched : Matched c m m') (a : Env × Event) : Matched c (m.step c a) (m'.step c a) := by
  obtain ⟨e, event⟩ := a
  have begun : Matched c (if m.call = none then m.begin c e event else m)
      (if m'.call = none then m'.begin c e event else m') := by
    refine same_branch ?_ (fun _ => matched.begin e event) (fun _ => matched)
    cases matched
    exact Iff.rfl
  cases event with
  | tick => exact matched.tick e
  | arrive segment size =>
    obtain @⟨s, s', call, returned, endOfStream, v, reading, polling, sockets⟩ := matched
    have state : (s.addToReceiveQueue c e segment size).state = s.state := by rw [addToReceiveQueue_frame]
    exact .same reading polling (sockets.keeps state (·.addToReceiveQueue e segment size))
  | _ => exact begun

/-! ### Before the first call -/

/-- No connection has been opened since: the members it would begin with may still differ. -/
inductive Unstarted (c : Config) : Machine → Machine → Prop
  | same {s s' : TcpSocket} {call : Option Call} {returned : List UInt8} {endOfStream : Bool}
      (idle : call = none ∨ call = some .close) (closed : s.state = .closed) (waiting : s.waiting = false)
      (alike : Alike c ⟨false, false, false⟩ s.unnumbered s'.unnumbered) :
      Unstarted c ⟨s, call, returned, endOfStream⟩ ⟨s', call, returned, endOfStream⟩

/-- No input can tell the machines apart. -/
def Indistinct (c : Config) (m m' : Machine) : Prop := Unstarted c m m' ∨ Matched c m m'

theorem addToReceiveQueue_unnumbered (c : Config) (e : Env) (s : TcpSocket) (segment : TcpSegment) (size : BitVec 16) :
    (s.addToReceiveQueue c e segment size).unnumbered = s.unnumbered.addToReceiveQueue c e segment size := by
  unfold TcpSocket.addToReceiveQueue TcpSocket.unnumbered
  dsimp only
  split_ifs
  · rfl
  · cases e.alloc s.mempool.requests <;> rfl

/-- A round in CLOSED ends the call in progress. -/
theorem tick_closed (idle : m.call = none ∨ m.call = some .close) (waiting : m.sock.waiting = false) (c : Config) (e : Env) :
    m.tick c e = { m with call := none } := by
  have none : m.inputOf e = none := by
    unfold inputOf
    rcases idle with call | call <;> simp [call, waiting]
  unfold tick Machine.settle
  rw [none]
  rcases idle with call | call
  · simp only [call]
    rw [← call]
  · simp only [call]

theorem Unstarted.begin (unstarted : Unstarted c m m') (e : Env) (event : Event) :
    Indistinct c (m.begin c e event) (m'.begin c e event) := by
  have stays : Indistinct c m m' := .inl unstarted
  obtain @⟨s, s', call, returned, endOfStream, idle, closed, waiting, alike⟩ := unstarted
  have closed' : s'.state = .closed := alike.state.trans closed
  have sport : s'.sport = s.sport := alike.ports.2
  have shut : ¬s.isOpen := by simp [TcpSocket.isOpen, closed]
  have isOpen : s'.isOpen ↔ s.isOpen := by
    unfold TcpSocket.isOpen
    rw [closed, closed']
  cases event with
  | connect =>
    refine same_branch (P := Indistinct c) (by dsimp only; rw [closed, closed']) (fun _ => .inr ?_) (fun _ => stays)
    have bound : Alike c ⟨false, false, false⟩ { s with sport := e.freePort }.unnumbered
        { s' with sport := e.freePort }.unnumbered :=
      { alike with ports := ⟨alike.ports.1, rfl⟩ }
    exact .calls (bound.connectBase closed e) (by simp) _ _
  | listen =>
    refine same_branch (P := Indistinct c) (by dsimp only; rw [closed, closed', sport]) (fun _ => stays) (fun _ => .inr ?_)
    exact .calls (alike.listenBase closed e) (by simp) _ _
  | write data size_lt => exact same_branch (P := Indistinct c) isOpen (fun opened => absurd opened shut) (fun _ => stays)
  | receive buffer size_lt => exact same_branch (P := Indistinct c) isOpen (fun opened => absurd opened shut) (fun _ => stays)
  | close =>
    have none : ∀ t : TcpSocket, t.state = .closed → t.closeBase c e = t := fun t now => if_neg (by simp [now])
    unfold Machine.begin
    dsimp only
    rw [none _ closed, none _ closed']
    exact .inl (.same (.inr rfl) closed waiting alike)
  | poll => exact same_branch (P := Indistinct c) isOpen (fun opened => absurd opened shut) (fun _ => stays)
  | setPorts sport dport => exact .inl (.same idle closed waiting { alike with ports := ⟨rfl, rfl⟩ })
  | setMaxReceiveWindow max => exact .inl (.same idle closed waiting { alike with windowMss := fun _ => rfl })
  | arrive segment size => exact stays
  | tick => exact stays

theorem Unstarted.step (unstarted : Unstarted c m m') (a : Env × Event) : Indistinct c (m.step c a) (m'.step c a) := by
  obtain ⟨e, event⟩ := a
  have begun : Indistinct c (if m.call = none then m.begin c e event else m)
      (if m'.call = none then m'.begin c e event else m') := by
    refine same_branch (P := Indistinct c) ?_ (fun _ => unstarted.begin e event) (fun _ => .inl unstarted)
    cases unstarted
    exact Iff.rfl
  cases event with
  | tick =>
    obtain @⟨s, s', call, returned, endOfStream, idle, closed, waiting, alike⟩ := unstarted
    have first := tick_closed (m := ⟨s, call, returned, endOfStream⟩) idle waiting c e
    have second := tick_closed (m := ⟨s', call, returned, endOfStream⟩) idle (alike.waiting.trans waiting) c e
    change Indistinct c (tick c e _) (tick c e _)
    rw [first, second]
    exact .inl (.same (.inl rfl) closed waiting alike)
  | arrive segment size =>
    obtain @⟨s, s', call, returned, endOfStream, idle, closed, waiting, alike⟩ := unstarted
    have frame := addToReceiveQueue_frame c e s segment size
    have queued := alike.addToReceiveQueue e segment size
    rw [← addToReceiveQueue_unnumbered, ← addToReceiveQueue_unnumbered] at queued
    refine .inl (.same idle ?_ ?_ queued)
    · rw [frame]
      exact closed
    · rw [frame]
      exact waiting
  | _ => exact begun

theorem Indistinct.step (indistinct : Indistinct c m m') (a : Env × Event) : Indistinct c (m.step c a) (m'.step c a) := by
  rcases indistinct with unstarted | matched
  · exact unstarted.step a
  · exact .inr (matched.step a)

/-- What the application and the network see of the machines is the same. -/
theorem Indistinct.observed (indistinct : Indistinct c m m') : m'.sock.trace = m.sock.trace ∧ m'.sock.state = m.sock.state ∧
    m'.call = m.call ∧ m'.returned = m.returned ∧ m'.endOfStream = m.endOfStream := by
  rcases indistinct with unstarted | matched
  · obtain @⟨s, s', call, returned, endOfStream, idle, closed, waiting, alike⟩ := unstarted
    exact ⟨alike.trace, alike.state, rfl, rfl, rfl⟩
  · obtain @⟨s, s', call, returned, endOfStream, v, reading, polling, w, within, alike, -, -⟩ := matched
    exact ⟨alike.trace, alike.state, rfl, rfl, rfl⟩

theorem Indistinct.run (indistinct : Indistinct c m m') (inputs : List (Env × Event)) :
    Indistinct c (inputs.foldl (Machine.step c) m) (inputs.foldl (Machine.step c) m') :=
  List.foldl_rel indistinct fun a _ _ _ same => same.step a

end Machine

end IPStack
