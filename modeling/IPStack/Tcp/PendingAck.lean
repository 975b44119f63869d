import IPStack.Tcp.Actions

/-! What becomes of a pending acknowledgement when there is no buffer for it. -/

namespace IPStack

namespace TcpSocket

variable {c : Config} {e : Env} {s : TcpSocket}

/-! ### Buffer requests -/

/-- A full history is taken for the one of a killed connection when it is cleaned up. -/
def killed (c : Config) (s : TcpSocket) : Prop :=
  c.retransmissionCounter = true ∧ s.state = .closed ∧ s.history.isFull c = true

instance (c : Config) (s : TcpSocket) : Decidable (s.killed c) := inferInstanceAs (Decidable (_ ∧ _))

/-- The history has a slot, at the latest after a cleanup. -/
def hasSlot (c : Config) (e : Env) (s : TcpSocket) : Prop :=
  s.history.isFull c = false ∨ e.interface = false ∨ s.killed c ∨
    (s.history.filter (¬ ·.released e s.seqnumUnacked)).length < c.historyMaxPackets

instance (c : Config) (e : Env) (s : TcpSocket) : Decidable (s.hasSlot c e) := inferInstanceAs (Decidable (_ ∨ _))

/-- There is a send buffer and a history slot for a segment. -/
def canRequest (c : Config) (e : Env) (s : TcpSocket) : Prop := s.canAllocate e ∧ s.hasSlot c e

instance (c : Config) (e : Env) (s : TcpSocket) : Decidable (s.canRequest c e) := inferInstanceAs (Decidable (_ ∧ _))

theorem isFull_nil (c : Config) : TcpHistory.isFull c [] = false := by
  have := c.historyMaxPackets_pos
  simp [TcpHistory.isFull]
  omega

theorem historyFull_ne_nil (full : s.history.isFull c = true) : s.history ≠ [] := by
  intro empty
  rw [empty, isFull_nil] at full
  exact Bool.false_ne_true full

/-- What the cleanup of a full history does. -/
theorem updateHistory_false_cases (full : s.history.isFull c = true) :
    s.killed c ∧ s.updateHistory c e false = (s.updateHistoryBody c e false).abort ∨
      ¬s.killed c ∧ s.updateHistory c e false = s.updateHistoryBody c e false := by
  have state : (s.updateHistoryBody c e false).state = s.state := by
    cases interface : e.interface with
    | false => simp [updateHistoryBody, interface, clearHistory]
    | true => rw [updateHistoryBody_false interface (historyFull_ne_nil full)]
  rw [updateHistory_eq, state]
  by_cases closed : c.retransmissionCounter = true ∧ s.state = .closed
  · exact .inl ⟨⟨closed.1, closed.2, full⟩, if_pos closed⟩
  · exact .inr ⟨fun dead => closed ⟨dead.1, dead.2.1⟩, if_neg closed⟩

theorem updateHistoryBody_false_requests (full : s.history.isFull c = true) :
    HistoryOnly s (s.updateHistoryBody c e false) ∧ (s.updateHistoryBody c e false).mempool.requests = s.mempool.requests ∧
      (s.updateHistoryBody c e false).history =
        if e.interface then s.history.filter (¬ ·.released e s.seqnumUnacked) else [] := by
  cases interface : e.interface with
  | false => simp [updateHistoryBody, interface, clearHistory, HistoryOnly, Mempool.freeAll]
  | true =>
    have updated := updateHistoryBody_updated (c := c) interface s false
    have frame := updateHistoryBody_false (c := c) interface (historyFull_ne_nil full)
    refine ⟨?_, by rw [updated.freed], by rw [frame]; rfl⟩
    unfold HistoryOnly
    rw [frame]

/-- A buffer request: what it leaves of the socket, and when it is granted. -/
structure RequestedTcp (c : Config) (e : Env) (s : TcpSocket) : Prop where
  granted : (s.requestSendBufferTcp c e).1.isSome = true ↔ s.canRequest c e
  wire : (s.requestSendBufferTcp c e).2.trace.wire = s.trace.wire
  receiveBuffer : (s.requestSendBufferTcp c e).2.receiveBuffer = s.receiveBuffer
  historyOnly : ¬s.killed c → HistoryOnly s (s.requestSendBufferTcp c e).2
  lost : s.killed c → (s.requestSendBufferTcp c e).2.ackTriggered = false

theorem requestSendBuffer_isSome : (s.requestSendBuffer e).1.isSome = true ↔ s.canAllocate e := by
  by_cases granted : s.canAllocate e
  · rw [requestSendBuffer_granted granted]
    exact ⟨fun _ => granted, fun _ => rfl⟩
  · rw [requestSendBuffer_refused granted]
    exact ⟨nofun, fun can => absurd can granted⟩

/-- A request for which the history has room. -/
theorem RequestedTcp.of_room {s' : TcpSocket} (eq : s.requestSendBufferTcp c e = s'.requestSendBuffer e)
    (requests : s'.mempool.requests = s.mempool.requests) (slot : s.hasSlot c e)
    (wire : s'.trace.wire = s.trace.wire) (receiveBuffer : s'.receiveBuffer = s.receiveBuffer)
    (historyOnly : ¬s.killed c → HistoryOnly s s') (lost : s.killed c → s'.ackTriggered = false) : RequestedTcp c e s := by
  have only := requestSendBuffer_historyOnly e s'
  refine ⟨?_, ?_, ?_, fun alive => ?_, fun dead => ?_⟩
  · rw [eq, requestSendBuffer_isSome, canRequest, canAllocate, canAllocate, requests, and_iff_left slot]
  all_goals rw [eq]
  · rw [only]
    exact wire
  · rw [only]
    exact receiveBuffer
  · exact (historyOnly alive).trans only
  · rw [only]
    exact lost dead

theorem requestSendBufferTcp_spec (c : Config) (e : Env) (s : TcpSocket) : RequestedTcp c e s := by
  cases full : s.history.isFull c with
  | false =>
    exact .of_room (by simp [requestSendBufferTcp, full]) rfl (.inl full) rfl rfl (fun _ => rfl)
      fun dead => absurd (full.symm.trans dead.2.2) Bool.false_ne_true
  | true =>
    obtain ⟨only, requests, history⟩ := updateHistoryBody_false_requests (e := e) full
    have request : s.requestSendBufferTcp c e =
        if (s.updateHistory c e false).history.isFull c then (none, s.updateHistory c e false)
        else (s.updateHistory c e false).requestSendBuffer e := by
      unfold requestSendBufferTcp
      rw [if_pos full]
    rcases updateHistory_false_cases (e := e) full with ⟨dead, eq⟩ | ⟨alive, eq⟩ <;> rw [eq] at request
    · have room : ((s.updateHistoryBody c e false).abort).history.isFull c = false := isFull_nil c
      rw [room] at request
      refine .of_room request requests (.inr (.inr (.inl dead))) ?_ ?_ (fun alive => absurd dead alive) fun _ => rfl
      · exact congrArg (·.trace.wire) only
      · exact congrArg (·.receiveBuffer) only
    · cases room : (s.updateHistoryBody c e false).history.isFull c with
      | false =>
        rw [room] at request
        refine .of_room request requests ?_ (congrArg (·.trace.wire) only) (congrArg (·.receiveBuffer) only) (fun _ => only)
          fun dead => absurd dead alive
        rw [history] at room
        cases interface : e.interface with
        | false => exact .inr (.inl interface)
        | true =>
          rw [interface, if_pos rfl] at room
          exact .inr (.inr (.inr (by simpa [TcpHistory.isFull] using room)))
      | true =>
        rw [room, if_pos rfl] at request
        rw [history] at room
        refine ⟨⟨fun granted => ?_, fun can => ?_⟩, ?_, ?_, fun _ => ?_, fun dead => absurd dead alive⟩
        · rw [request] at granted
          exact absurd granted Bool.false_ne_true
        · rcases can.2 with left | lost | dead | left
          · exact absurd (left.symm.trans full) Bool.false_ne_true
          · rw [lost, if_neg Bool.false_ne_true, isFull_nil] at room
            exact absurd room Bool.false_ne_true
          · exact absurd dead alive
          · cases interface : e.interface with
            | false =>
              rw [interface, if_neg Bool.false_ne_true, isFull_nil] at room
              exact absurd room Bool.false_ne_true
            | true =>
              rw [interface, if_pos rfl] at room
              simp only [TcpHistory.isFull, decide_eq_true_eq] at room
              omega
        all_goals rw [request]
        · exact congrArg (·.trace.wire) only
        · exact congrArg (·.receiveBuffer) only
        · exact only

/-- The two ways in which a request ends. -/
theorem requestSendBufferTcp_cases (c : Config) (e : Env) (s : TcpSocket) :
    (s.canRequest c e ∧ ∃ b s', s.requestSendBufferTcp c e = (some b, s') ∧ s'.trace.wire = s.trace.wire ∧
        s'.receiveBuffer = s.receiveBuffer) ∨
      ¬s.canRequest c e ∧ ∃ s', s.requestSendBufferTcp c e = (none, s') ∧ (¬s.killed c → HistoryOnly s s') ∧
        (s.killed c → s'.ackTriggered = false) := by
  obtain ⟨granted, wire, receiveBuffer, historyOnly, lost⟩ := requestSendBufferTcp_spec c e s
  generalize s.requestSendBufferTcp c e = result at granted wire receiveBuffer historyOnly lost
  obtain ⟨block, s'⟩ := result
  cases block with
  | none => exact .inr ⟨fun can => Bool.false_ne_true (granted.mpr can), s', rfl, historyOnly, lost⟩
  | some b => exact .inl ⟨granted.mp rfl, b, s', rfl, wire, receiveBuffer⟩

/-! ### Attempts to send the acknowledgement -/

/-- A segment with the current acknowledgement number was handed to `send`. -/
def Acknowledges (c : Config) (s s' : TcpSocket) : Prop :=
  ∃ segment, s'.trace.wire = segment :: s.trace.wire ∧ segment.ack = true ∧ segment.acknum = s.receiveBuffer.getAckNum c

/-- `sendACK()` clears the flag before it knows whether there is a buffer. -/
theorem sendAck_cases (c : Config) (e : Env) (s : TcpSocket) :
    s.canRequest c e ∧ Acknowledges c s (s.sendAck c e).2 ∨ ¬s.canRequest c e ∧ (s.sendAck c e).2.ackTriggered = false := by
  unfold sendAck sendAckNum
  rcases requestSendBufferTcp_cases c e { s with ackTriggered := false } with
    ⟨can, b, s', request, wire, receiveBuffer⟩ | ⟨cannot, s', request, historyOnly, lost⟩
  · refine .inl ⟨can, s'.writeHeaderWithAck c (s.receiveBuffer.getAckNum c), ?_, rfl, rfl⟩
    simp only [request]
    exact congrArg (_ :: ·) wire
  · refine .inr ⟨cannot, ?_⟩
    simp only [request]
    by_cases dead : killed c { s with ackTriggered := false }
    · exact lost dead
    · exact congrArg (·.ackTriggered) (historyOnly dead)

theorem processAck_cases (c : Config) (e : Env) (pending : s.ackTriggered = true) :
    s.canRequest c e ∧ Acknowledges c s (s.processAck c e) ∨ ¬s.canRequest c e ∧ (s.processAck c e).ackTriggered = false := by
  unfold processAck
  rw [if_pos pending]
  exact sendAck_cases c e s

/-- A data segment carries the acknowledgement number too, and the flag stays as it is. -/
theorem sendSegment_cases (c : Config) (e : Env) (s : TcpSocket) (len : BitVec 32) :
    s.canRequest c e ∧ Acknowledges c s (s.sendSegment c e len).2 ∨
      ¬s.canRequest c e ∧ (¬s.killed c → HistoryOnly s (s.sendSegment c e len).2) ∧
        (s.killed c → (s.sendSegment c e len).2.ackTriggered = false) := by
  unfold sendSegment
  rcases requestSendBufferTcp_cases c e s with ⟨can, b, s', request, wire, receiveBuffer⟩ | ⟨cannot, s', request, unchanged⟩
  · refine .inl ⟨can, ?_⟩
    simp only [request]
    unfold Acknowledges sendSegmentIn lowerSendWindow
    rw [← wire, ← receiveBuffer]
    dsimp only
    split_ifs <;> exact ⟨_, rfl, rfl, rfl⟩
  · refine .inr ⟨cannot, ?_⟩
    simp only [request]
    exact unchanged

theorem closeBase_cases (c : Config) (e : Env) (s : TcpSocket) :
    s.canRequest c e ∧ Acknowledges c s (s.closeBase c e) ∨ HistoryOnly s (s.closeBase c e) := by
  unfold closeBase
  split_ifs with opened
  · rcases requestSendBufferTcp_cases c e s with ⟨can, b, s', request, wire, receiveBuffer⟩ | ⟨cannot, s', request, unchanged, _⟩
    · refine .inl ⟨can, ?_⟩
      rw [request]
      unfold Acknowledges
      rw [← wire, ← receiveBuffer]
      exact ⟨_, rfl, rfl, rfl⟩
    · rw [request]
      exact .inr (unchanged fun dead => by rcases opened with state | state <;> simp [killed, state] at dead)
  · exact .inr rfl

end TcpSocket

open TcpSocket

/-- An open connection that has taken a segment with data. -/
def Sample.acknowledging : TcpSocket :=
  (Sample.run (Sample.opening ++ (Sample.env, .receive [0, 0] (by decide)) :: Sample.receives (Sample.segment 1001 1 1000 [7]))).sock

/-- The functions that send a pending acknowledgement, alone or with a segment that is sent anyway. -/
inductive AckAttempt where
  | sendAck
  | processAck
  | sendSegment (len : BitVec 32)
  | close
deriving DecidableEq, Repr

namespace AckAttempt

variable {c : Config} {e : Env} {s : TcpSocket} {a : AckAttempt}

def run (c : Config) (e : Env) (s : TcpSocket) : AckAttempt → TcpSocket
  | .sendAck => (s.sendAck c e).2
  | .processAck => s.processAck c e
  | .sendSegment len => (s.sendSegment c e len).2
  | .close => s.closeBase c e

/-- What becomes of a pending acknowledgement: without a buffer or a slot it stays pending,
nothing else changes, and a later `processACK` sends it; it is cleared only when it is sent. -/
structure KeepsPending (c : Config) (e : Env) (s : TcpSocket) (a : AckAttempt) : Prop where
  pending : ¬s.canRequest c e → (a.run c e s).ackTriggered = true
  unchanged : ¬s.canRequest c e → HistoryOnly s (a.run c e s)
  later : ¬s.canRequest c e → ∀ e', (a.run c e s).canRequest c e' → Acknowledges c (a.run c e s) ((a.run c e s).processAck c e')
  cleared : (a.run c e s).ackTriggered = false → Acknowledges c s (a.run c e s)

/-- There is a buffer and a slot, or the attempt does not clear the flag. -/
def keepsPendingWhen (c : Config) (e : Env) (s : TcpSocket) : AckAttempt → Prop
  | .sendAck | .processAck => s.canRequest c e
  | .sendSegment _ => s.canRequest c e ∨ ¬s.killed c
  | .close => True

/-- An attempt that fails leaves the flag set, which is enough for a later one. -/
theorem KeepsPending.of_unchanged (pending : s.ackTriggered = true) (only : HistoryOnly s (a.run c e s)) : KeepsPending c e s a := by
  have still : (a.run c e s).ackTriggered = true := by rw [only]; exact pending
  refine ⟨fun _ => still, fun _ => only, fun _ e' can => ?_, fun cleared => absurd (cleared.symm.trans still) Bool.false_ne_true⟩
  rcases processAck_cases c e' still with ⟨_, acknowledges⟩ | ⟨cannot, _⟩
  · exact acknowledges
  · exact absurd can cannot

theorem KeepsPending.of_sent (can : s.canRequest c e) (acknowledges : Acknowledges c s (a.run c e s)) : KeepsPending c e s a :=
  ⟨fun cannot => absurd can cannot, fun cannot => absurd can cannot, fun cannot => absurd can cannot, fun _ => acknowledges⟩

/-- An attempt that clears the flag unless it sends something. -/
theorem keepsPending_of_cases
    (cases' : s.canRequest c e ∧ Acknowledges c s (a.run c e s) ∨ ¬s.canRequest c e ∧ (a.run c e s).ackTriggered = false) :
    KeepsPending c e s a ↔ s.canRequest c e := by
  rcases cases' with ⟨can, acknowledges⟩ | ⟨cannot, cleared⟩
  · exact ⟨fun _ => can, fun _ => .of_sent can acknowledges⟩
  · exact ⟨fun keeps => absurd (cleared.symm.trans (keeps.pending cannot)) Bool.false_ne_true, fun can => absurd can cannot⟩

theorem keepsPending_iff (pending : s.ackTriggered = true) : KeepsPending c e s a ↔ keepsPendingWhen c e s a := by
  cases a with
  | sendAck => exact keepsPending_of_cases (a := .sendAck) (sendAck_cases c e s)
  | processAck => exact keepsPending_of_cases (a := .processAck) (processAck_cases c e pending)
  | sendSegment len =>
    unfold keepsPendingWhen
    rcases sendSegment_cases c e s len with ⟨can, acknowledges⟩ | ⟨cannot, unchanged, lost⟩
    · exact ⟨fun _ => .inl can, fun _ => .of_sent can acknowledges⟩
    · by_cases dead : s.killed c
      · refine ⟨fun keeps => absurd ((lost dead).symm.trans (keeps.pending cannot)) Bool.false_ne_true, ?_⟩
        rintro (can | alive)
        · exact absurd can cannot
        · exact absurd dead alive
      · exact ⟨fun _ => .inr dead, fun _ => .of_unchanged pending (unchanged dead)⟩
  | close =>
    refine ⟨fun _ => trivial, fun _ => ?_⟩
    rcases closeBase_cases c e s with ⟨can, acknowledges⟩ | only
    · exact .of_sent can acknowledges
    · exact .of_unchanged pending only

/-- A data segment for which there is no buffer keeps the acknowledgement pending. -/
theorem keepsPending_noBuffer :
    KeepsPending Sample.config { Sample.env with alloc := fun _ => .noMemory } Sample.acknowledging (.sendSegment 1) :=
  (keepsPending_iff (by decide +kernel)).mpr (.inr (by decide +kernel))

/-- Without a free block the acknowledgement of the data is never sent. -/
theorem failedAck_forgotten : ¬∀ (c : Config) (e : Env) (s : TcpSocket) (a : AckAttempt),
    s.ackTriggered = true → KeepsPending c e s a := by
  intro always
  have keeps := always Sample.config { Sample.env with alloc := fun _ => .noMemory } Sample.acknowledging .processAck (by decide +kernel)
  exact absurd (keeps.pending (by decide +kernel)) (by decide +kernel)

end AckAttempt

end IPStack
