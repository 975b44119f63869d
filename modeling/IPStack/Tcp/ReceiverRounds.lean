import IPStack.Tcp.CallFrames
import IPStack.Tcp.ReceiveRounds
import IPStack.Tcp.SenderRounds

/-! What a round of the state machine does to the receiving half of a socket: the receive buffer, the
peer's FIN, and the `receive` in progress. -/

namespace IPStack

/-- The receiving half of a socket. A `receive` in progress waits for `wanted` more bytes. -/
structure ReceiveView where
  state : TcpState
  receiveBuffer : TcpReceiveBuffer
  finReceived : Bool
  finSeqnum : SeqNum
  applicationRecv : List UInt8
  applicationRecvLen : BitVec 32
  wanted : BitVec 32
  receiving : Bool
  waiting : Bool
  packetbuffer : List ReceiveBuffer

def TcpSocket.receiveView (s : TcpSocket) : ReceiveView where
  state := s.state
  receiveBuffer := s.receiveBuffer
  finReceived := s.finReceived
  finSeqnum := s.finSeqnum
  applicationRecv := s.applicationRecv
  applicationRecvLen := s.applicationRecvLen
  wanted := if s.receiving then s.applicationBuflen else 0
  receiving := s.receiving
  waiting := s.waiting
  packetbuffer := s.packetbuffer

namespace ReceiveView

/-- Behind `abort`. -/
def aborted (v : ReceiveView) : ReceiveView :=
  { v with state := .closed, finReceived := false, wanted := 0, receiving := false, waiting := false, packetbuffer := [] }

/-- The application takes `len` bytes, and waits for more unless it has enough. -/
def reads (c : Config) (v : ReceiveView) (len : BitVec 32) (enough : Bool) : ReceiveView :=
  { v with
    receiveBuffer := (v.receiveBuffer.copyData c len).2.2
    applicationRecv := v.applicationRecv ++ (v.receiveBuffer.copyData c len).1
    applicationRecvLen := v.applicationRecvLen + len
    wanted := if enough then 0 else v.wanted - len
    receiving := !enough, waiting := if enough then false else v.waiting }

/-- The data and the FIN of a segment are taken. -/
def takes (c : Config) (v : ReceiveView) (r : ReceiveBuffer) : ReceiveView :=
  let new : Bool := r.segment.fin ∧ v.finReceived = false
  { v with
    finSeqnum := if new then r.segment.seqnum + r.payloadLen else v.finSeqnum
    finReceived := new || v.finReceived
    receiveBuffer :=
      if 0 < r.payloadLen then (v.receiveBuffer.insert c r r.segment.seqnum r.payloadLen).getD v.receiveBuffer
      else v.receiveBuffer }

/-- Everything in front of the peer's FIN was received. -/
def complete (c : Config) (v : ReceiveView) : Prop := v.finReceived = true ∧ v.receiveBuffer.getAckNum c = v.finSeqnum

/-- What a round without a segment can do. -/
inductive Passes (c : Config) (v : ReceiveView) : ReceiveView → Prop
  | rests : Passes c v v
  | returns (quiet : v.receiving = false ∨ v.state = .closed) : Passes c v { v with waiting := false }
  | moves {next : TcpState} (late : v.state.stage = .late) (next_late : next.stage = .late) :
      Passes c v { v with state := next }
  | aborts {next : TcpState} (dies : next = .closed ∨ v.state.stage = .late ∧ next.stage = .late) :
      Passes c v { v.aborted with state := next }
  | reads {len : BitVec 32} {enough : Bool} (state : v.state = .established) (receiving : v.receiving = true)
      (available : 0 < v.receiveBuffer.getRecvBytes c)
      (amount : len = if v.wanted < v.receiveBuffer.getRecvBytes c then v.wanted else v.receiveBuffer.getRecvBytes c)
      (all : v.wanted = len → enough = true) : Passes c v (v.reads c len enough)
  | readsRest {len : BitVec 32} (state : v.state = .closewait) (receiving : v.receiving = true)
      (amount : len = if v.receiveBuffer.getRecvBytes c < v.wanted then v.receiveBuffer.getRecvBytes c else v.wanted) :
      Passes c v (v.reads c len true)

/-- What a round with a segment can do. -/
inductive Takes (c : Config) (v : ReceiveView) (r : ReceiveBuffer) : ReceiveView → Prop
  | ignores : Takes c v r v
  | returns (closed : v.state = .closed) : Takes c v r { v with waiting := false }
  | aborts : Takes c v r v.aborted
  | starts {next : TcpState} (state : v.state = .listen) (noRst : r.segment.rst = false)
      (leads : next = .listen ∨ next = .synrcvd) :
      Takes c v r { v with receiveBuffer := v.receiveBuffer.setFirstSeqNum (r.segment.seqnum + 1), state := next }
  | opens (state : v.state = .synrcvd) : Takes c v r { v with state := .established, waiting := false }
  | stores (takes : v.state = .established ∨ v.state.stage = .late) (plain : r.segment.plain) : Takes c v r (v.takes c r)
  | completes {next : TcpState} (plain : r.segment.plain) (complete : (v.takes c r).complete c)
      (leads : v.state = .established ∧ next = .closewait ∨ v.state.stage = .late ∧ next.stage = .late) :
      Takes c v r { v.takes c r with state := next }

variable {c : Config} {v v' : ReceiveView} {r : ReceiveBuffer}

theorem Passes.packetbuffer (passes : Passes c v v') : v'.packetbuffer <:+ v.packetbuffer := by
  cases passes with
  | aborts => exact List.nil_suffix
  | rests | returns | moves | reads | readsRest => exact List.suffix_rfl

theorem Takes.packetbuffer (takes : Takes c v r v') : v'.packetbuffer <:+ v.packetbuffer := by
  cases takes with
  | aborts => exact List.nil_suffix
  | ignores | returns | starts | opens | stores | completes => exact List.suffix_rfl

end ReceiveView

namespace TcpSocket

open ReceiveView

variable {c : Config} {e : Env} {s s' : TcpSocket} {r : ReceiveBuffer}

/-! ### Frames -/

theorem HistoryOnly.receiveView (only : HistoryOnly s s') : s'.receiveView = s.receiveView := by
  unfold HistoryOnly at only
  rw [only]
  rfl

theorem Updated.receiveView (updated : Updated s s') : s'.receiveView = s.receiveView := by
  unfold Updated at updated
  rw [updated]
  rfl

theorem Replied.receiveView (replied : Replied s s') : s'.receiveView = s.receiveView := by
  unfold Replied at replied
  rw [replied]
  rfl

theorem abort_receiveView (s : TcpSocket) : s.abort.receiveView = s.receiveView.aborted := rfl

/-- Only the retransmission counter touches the receiving half in `updateHistory`. -/
theorem updateHistory_receiveView (c : Config) (e : Env) (s : TcpSocket) (doRetransmit : Bool) :
    (s.updateHistory c e doRetransmit).receiveView = s.receiveView ∨
      ∃ s₁ : TcpSocket, s.updateHistory c e doRetransmit = s₁.abort ∧ s₁.receiveView.aborted = s.receiveView.aborted := by
  rw [updateHistory_eq]
  cases interface : e.interface with
  | false =>
    have body : s.updateHistoryBody c e doRetransmit = s.clearHistory := by simp [updateHistoryBody, interface]
    rw [body]
    split
    · exact .inr ⟨_, rfl, rfl⟩
    · exact .inl rfl
  | true =>
    have updated := updateHistoryBody_updated (c := c) interface s doRetransmit
    split
    · refine .inr ⟨_, rfl, ?_⟩
      rw [updated.frame]
      rfl
    · rename_i unkilled
      have state : (s.updateHistoryBody c e doRetransmit).state = s.state := by
        rcases updated.state with same | ⟨closed, -, record, -, -, -, counted, -⟩
        · exact same
        · exact absurd ⟨counted, closed⟩ unkilled
      refine .inl ?_
      rw [updated.frame, state]
      rfl

theorem requestSendBufferTcp_receiveView (c : Config) (e : Env) (s : TcpSocket) :
    (s.requestSendBufferTcp c e).2.receiveView = s.receiveView ∨
      (s.requestSendBufferTcp c e).2.receiveView = s.receiveView.aborted := by
  have updated : (s.updateHistory c e false).receiveView = s.receiveView ∨
      (s.updateHistory c e false).receiveView = s.receiveView.aborted := by
    rcases updateHistory_receiveView c e s false with same | ⟨s₁, killed, same⟩
    · exact .inl same
    · rw [killed]
      exact .inr same
  unfold requestSendBufferTcp
  dsimp only
  split_ifs
  · exact updated
  · rwa [(requestSendBuffer_historyOnly e _).receiveView]
  · exact .inl (requestSendBuffer_historyOnly e s).receiveView

theorem processAck_receiveView_of_any (c : Config) (e : Env) (s : TcpSocket) :
    (s.processAck c e).receiveView = s.receiveView ∨ (s.processAck c e).receiveView = s.receiveView.aborted := by
  unfold processAck sendAck sendAckNum
  split_ifs
  · have requested := requestSendBufferTcp_receiveView c e { s with ackTriggered := false }
    dsimp only
    generalize TcpSocket.requestSendBufferTcp c e { s with ackTriggered := false } = result at requested ⊢
    obtain ⟨block, s₁⟩ := result
    cases block with
    | none => exact requested
    | some b => exact requested
  · exact .inl rfl

theorem processAck_receiveView (c : Config) (e : Env) (alive : s.state ≠ .closed) :
    (s.processAck c e).receiveView = s.receiveView := by
  unfold processAck
  split_ifs
  · exact (sendAck_replied c e alive).receiveView
  · rfl

theorem sendSegmentIn_receiveView (c : Config) (e : Env) (quiet : s.receiving = false) (block : Nat) (len : BitVec 32) :
    (s.sendSegmentIn c e block len).receiveView = s.receiveView := by
  unfold sendSegmentIn lowerSendWindow TcpSocket.receiveView
  dsimp only
  split_ifs <;> simp_all [transmit, send, historyAdd]

theorem Sends.receiveView {l : List SendAttempt} (sends : Sends c e s l s') (alive : s.state ≠ .closed)
    (quiet : s.receiving = false) : s'.receiveView = s.receiveView := by
  induction sends with
  | done => rfl
  | @refused s len due refused => exact (sendSegment_refused alive refused).receiveView
  | @sent s s' len l due sent _ ih =>
    obtain ⟨s₁, block, only, eq⟩ := sendSegment_in alive sent
    have first : (s.sendSegment c e len).2.receiveView = s.receiveView := by
      rw [eq, sendSegmentIn_receiveView c e, only.receiveView]
      exact (congrArg ReceiveView.receiving only.receiveView).trans quiet
    refine (ih ?_ ?_).trans first
    · rwa [show (s.sendSegment c e len).2.state = s.state from congrArg ReceiveView.state first]
    · exact (congrArg ReceiveView.receiving first).trans quiet

theorem processSendData_receiveView (c : Config) (e : Env) (alive : s.state ≠ .closed) (quiet : s.receiving = false) :
    (s.processSendData c e).receiveView = s.receiveView := (processSendData_sends c e s).receiveView alive quiet

/-! ### Rounds without a segment -/

theorem finishSending_passes (quiet : s.receiving = false) : Passes c s.receiveView s.finishSending.receiveView := by
  unfold finishSending
  split_ifs
  · exact .returns (.inl quiet)
  · exact .rests

theorem establishedReceive_passes (c : Config) (e : Env) (state : s.state = .established) (receiving : s.receiving = true) :
    Passes c s.receiveView (s.establishedReceive c e).receiveView := by
  have alive : s.state ≠ .closed := by simp [state]
  have wanted : s.receiveView.wanted = s.applicationBuflen := if_pos receiving
  have read : ∀ len, (s.readToApplication c len).receiveView = s.receiveView.reads c len false := by
    intro len
    unfold TcpSocket.receiveView readToApplication copyToApplication ReceiveView.reads
    simp [receiving]
  unfold establishedReceive
  dsimp only
  generalize amount : (if s.applicationBuflen < s.receiveBuffer.getRecvBytes c then s.applicationBuflen
    else s.receiveBuffer.getRecvBytes c) = len
  have acked := (processAck_receiveView (s := s.readToApplication c len) c e alive).trans (read len)
  generalize (s.readToApplication c len).processAck c e = s' at acked ⊢
  split_ifs with available enough
  · have ended : { s' with receiving := false, waiting := false }.receiveView =
        { s'.receiveView with wanted := 0, receiving := false, waiting := false } := rfl
    rw [ended, acked]
    exact .reads state receiving available (by rw [wanted]; exact amount.symm) fun _ => rfl
  · rw [acked]
    refine .reads state receiving available (by rw [wanted]; exact amount.symm) fun all => absurd ?_ enough
    have receiving' : s'.receiving = true := congrArg ReceiveView.receiving acked
    have left := congrArg ReceiveView.wanted acked
    change (if s'.receiving then _ else _) = s.receiveView.wanted - len at left
    rw [if_pos receiving', all, BitVec.sub_self] at left
    exact .inl left
  · rw [processAck_receiveView c e alive]
    exact .rests

theorem establishedIdle_passes (c : Config) (e : Env) (state : s.state = .established) :
    Passes c s.receiveView (s.establishedIdle c e).receiveView := by
  have alive : s.state ≠ .closed := by simp [state]
  unfold establishedIdle
  dsimp only
  rcases updateHistory_receiveView c e s true with view | ⟨s₁, killed, same⟩
  · have alive' : (s.updateHistory c e true).state ≠ .closed := fun closed =>
      alive ((congrArg ReceiveView.state view).symm.trans closed)
    have state' : (s.updateHistory c e true).state = .established := (congrArg ReceiveView.state view).trans state
    generalize s.updateHistory c e true = s' at view alive' state'
    rw [← view]
    split_ifs with receiving
    · exact establishedReceive_passes c e state' receiving
    · have quiet := Bool.not_eq_true _ ▸ receiving
      have acked := processAck_receiveView c e alive'
      have alive'' : (s'.processAck c e).state ≠ .closed := fun closed =>
        alive' ((congrArg ReceiveView.state acked).symm.trans closed)
      have quiet' : (s'.processAck c e).receiving = false := (congrArg ReceiveView.receiving acked).trans quiet
      have sent := (processSendData_receiveView c e alive'' quiet').trans acked
      rw [← sent]
      exact finishSending_passes ((congrArg ReceiveView.receiving sent).trans quiet)
    · exact .rests
  · rw [killed]
    change Passes c s.receiveView s₁.abort.receiveView
    rw [abort_receiveView, same]
    exact .aborts (.inl rfl)

theorem closewaitReceive_passes (c : Config) (state : s.state = .closewait) (receiving : s.receiving = true) :
    Passes c s.receiveView (s.closewaitReceive c).receiveView := by
  have wanted : s.receiveView.wanted = s.applicationBuflen := if_pos receiving
  have read : (s.closewaitReceive c).receiveView = s.receiveView.reads c
      (if s.receiveBuffer.getRecvBytes c < s.applicationBuflen then s.receiveBuffer.getRecvBytes c else s.applicationBuflen)
      true := by
    unfold closewaitReceive
    dsimp only
    split_ifs <;> rfl
  rw [read]
  exact .readsRest state receiving (by rw [wanted]; rfl)

theorem closewaitIdle_passes (c : Config) (e : Env) (state : s.state = .closewait) :
    Passes c s.receiveView (s.closewaitIdle c e).receiveView := by
  have alive : s.state ≠ .closed := by simp [state]
  unfold closewaitIdle
  dsimp only
  rcases updateHistory_receiveView c e s true with view | ⟨s₁, killed, same⟩
  · have alive' : (s.updateHistory c e true).state ≠ .closed := fun closed =>
      alive ((congrArg ReceiveView.state view).symm.trans closed)
    have state' : (s.updateHistory c e true).state = .closewait := (congrArg ReceiveView.state view).trans state
    generalize s.updateHistory c e true = s' at view alive' state'
    rw [← view]
    split_ifs with receiving
    · exact closewaitReceive_passes c state' receiving
    · have quiet := Bool.not_eq_true _ ▸ receiving
      have sent := processSendData_receiveView c e alive' quiet
      rw [← sent]
      exact finishSending_passes ((congrArg ReceiveView.receiving sent).trans quiet)
    · exact .rests
  · rw [killed]
    change Passes c s.receiveView s₁.abort.receiveView
    rw [abort_receiveView, same]
    exact .aborts (.inl rfl)

theorem update_receiveView (c : Config) (e : Env) (s : TcpSocket) :
    (s.updateHistory c e true).receiveView = s.receiveView ∨ (s.updateHistory c e true).receiveView = s.receiveView.aborted := by
  rcases updateHistory_receiveView c e s true with same | ⟨s₁, killed, same⟩
  · exact .inl same
  · rw [killed]
    exact .inr same

/-- `updateHistory` with the acknowledgement behind it. -/
theorem updateAck_receiveView (c : Config) (e : Env) (s : TcpSocket) :
    ((s.updateHistory c e true).processAck c e).receiveView = s.receiveView ∨
      ((s.updateHistory c e true).processAck c e).receiveView = s.receiveView.aborted := by
  rcases processAck_receiveView_of_any c e (s.updateHistory c e true) with acked | acked <;> rw [acked]
  · exact update_receiveView c e s
  · refine .inr ?_
    rcases update_receiveView c e s with same | aborted
    · rw [same]
    · rw [aborted]
      rfl

theorem passes_of_view (view : s'.receiveView = s.receiveView ∨ s'.receiveView = s.receiveView.aborted) :
    Passes c s.receiveView s'.receiveView := by
  rcases view with same | aborted
  · rw [same]
    exact .rests
  · rw [aborted]
    exact .aborts (.inl rfl)

/-- The last step of a round behind `close`. -/
theorem passes_of_late {next : TcpState} (view : s'.receiveView = s.receiveView ∨ s'.receiveView = s.receiveView.aborted)
    (late : s.state.stage = .late) (next_late : next.stage = .late) :
    Passes c s.receiveView { s' with state := next }.receiveView := by
  have moved : { s' with state := next }.receiveView = { s'.receiveView with state := next } := rfl
  rw [moved]
  rcases view with same | aborted
  · rw [same]
    exact .moves late next_late
  · rw [aborted]
    exact .aborts (.inr ⟨late, next_late⟩)

theorem input_passes (c : Config) (e : Env) (s : TcpSocket) : Passes c s.receiveView (s.input c e none).receiveView := by
  unfold input
  cases state : s.state with
  | closed => exact .returns (.inr state)
  | listen => exact .rests
  | synsent => exact passes_of_view (update_receiveView c e s)
  | synrcvd => exact passes_of_view (update_receiveView c e s)
  | established => exact establishedIdle_passes c e state
  | finwait1 =>
    have view := updateAck_receiveView c e s
    change Passes c s.receiveView (s.finwait1Idle c e).receiveView
    unfold finwait1Idle
    dsimp only
    split_ifs
    · exact passes_of_late view (by rw [state]; rfl) rfl
    · exact passes_of_view view
  | finwait2 => exact passes_of_view (updateAck_receiveView c e s)
  | closewait => exact closewaitIdle_passes c e state
  | lastack =>
    have view := update_receiveView c e s
    change Passes c s.receiveView (s.lastackIdle c e).receiveView
    unfold lastackIdle
    dsimp only
    split_ifs
    · refine passes_of_view (.inr ?_)
      rw [abort_receiveView]
      rcases view with same | aborted
      · rw [same]
      · rw [aborted]
        rfl
    · exact passes_of_view view
  | closing =>
    have view := update_receiveView c e s
    change Passes c s.receiveView (s.closingIdle c e).receiveView
    unfold closingIdle
    dsimp only
    split_ifs
    · exact passes_of_late view (by rw [state]; rfl) rfl
    · exact passes_of_view view
  | timewait =>
    have view := update_receiveView c e s
    change Passes c s.receiveView (s.timewaitIdle c e).receiveView
    unfold timewaitIdle
    dsimp only
    split_ifs
    · refine passes_of_view (.inr ?_)
      rw [abort_receiveView]
      rcases view with same | aborted
      · rw [same]
      · rw [aborted]
        rfl
    · exact passes_of_view view

/-! ### Rounds with a segment -/

theorem handleFin_receiveView (s : TcpSocket) (segment : TcpSegment) (seqnum : SeqNum) (len : BitVec 32) :
    (s.handleFin segment seqnum len).receiveView = { s.receiveView with
      finSeqnum := if segment.fin = true ∧ s.finReceived = false then seqnum + len else s.finSeqnum
      finReceived := decide (segment.fin = true ∧ s.finReceived = false) || s.finReceived } := by
  unfold handleFin
  by_cases new : segment.fin = true ∧ s.finReceived = false
  · rw [if_pos new, if_pos new, decide_eq_true new]
    rfl
  · rw [if_neg new, if_neg new, decide_eq_false new]
    rfl

theorem handleData_receiveView (c : Config) (s : TcpSocket) (r : ReceiveBuffer) (seqnum : SeqNum) (len : BitVec 32) :
    (s.handleData c r seqnum len).2.receiveView = { s.receiveView with
      receiveBuffer := if 0 < len then (s.receiveBuffer.insert c r seqnum len).getD s.receiveBuffer else s.receiveBuffer } := by
  unfold handleData
  by_cases some : 0 < len
  · rw [if_pos some, if_pos some]
    cases s.receiveBuffer.insert c r seqnum len <;> rfl
  · rw [if_neg some, if_neg some]
    rfl

theorem dataTaken_receiveView (takes : s.takesData) : (s.dataTaken c r).receiveView = s.receiveView.takes c r := by
  have fin := handleFin_receiveView s r.segment r.segment.seqnum r.payloadLen
  have buffer : (s.handleFin r.segment r.segment.seqnum r.payloadLen).receiveBuffer = s.receiveBuffer := by rw [handleFin_eq]
  unfold dataTaken
  rw [if_pos takes, handleData_receiveView, buffer, fin]
  simp [ReceiveView.takes, TcpSocket.receiveView]

theorem dataTaken_complete (takes : s.takesData) : s.completesFin c r ↔ (s.receiveView.takes c r).complete c := by
  rw [← dataTaken_receiveView takes]
  unfold completesFin dataTaken
  rw [if_pos takes]
  rfl

/-- The view behind a handler that looks at data. -/
theorem Processed.receiveView (processed : Processed c e s r s') :
    s'.receiveView = { (s.dataTaken c r).receiveView with state := s'.state } := by
  have touched := processed.touched
  have received := processed.received
  have frame : (s.dataTaken c r).receiveView = { s.receiveView with
      receiveBuffer := (s.dataTaken c r).receiveBuffer, finReceived := (s.dataTaken c r).finReceived
      finSeqnum := (s.dataTaken c r).finSeqnum } := by
    unfold dataTaken
    split_ifs
    · rw [handleData_eq, handleFin_eq]
      rfl
    · rfl
  rw [frame]
  unfold Touched at touched
  unfold TcpSocket.receiveView
  dsimp only
  rw [← received.receiveBuffer, ← received.finReceived, ← received.finSeqnum, touched]

theorem input_synchronized_takes (c : Config) (e : Env) (behind : s.synchronized) (r : ReceiveBuffer) :
    Takes c s.receiveView r (s.input c e (some r)).receiveView := by
  cases rst : r.segment.rst with
  | true =>
    rw [input_rst c e behind rst]
    exact .aborts
  | false =>
    cases syn : r.segment.syn with
    | true =>
      rw [(input_syn c e behind rst syn).receiveView]
      exact .ignores
    | false =>
      have plain : r.segment.plain := ⟨rst, syn⟩
      obtain ⟨processed, state⟩ := input_processed c e behind plain
      rw [processed.receiveView]
      by_cases takes : s.takesData
      · rw [dataTaken_receiveView takes]
        have taking : s.receiveView.state = .established ∨ s.receiveView.state.stage = .late := by
          rcases takes with state | state | state
          · exact .inl state
          · exact .inr (congrArg TcpState.stage state)
          · exact .inr (congrArg TcpState.stage state)
        by_cases complete : (s.receiveView.takes c r).complete c
        · refine .completes plain complete ?_
          have moves : (s.input c e (some r)).state ≠ s.state := fun same =>
            state.mp same ⟨takes, (dataTaken_complete takes).mpr complete⟩
          rcases takes with before | before | before
          · have eq : s.input c e (some r) = s.establishedSegment c e r := by simp only [input, established, before]
            refine .inl ⟨before, ?_⟩
            rw [eq] at moves ⊢
            exact (establishedSegment_state c e before plain).resolve_left fun same => moves (same.trans before.symm)
          · have eq : s.input c e (some r) = s.finwait1Segment c e r := by simp only [input, finwait1, before]
            refine .inr ⟨congrArg TcpState.stage before, ?_⟩
            rw [eq]
            rcases finwait1Segment_state c e before plain with next | next | next <;> rw [next] <;> rfl
          · have eq : s.input c e (some r) = s.finwait2Segment c e r := by simp only [input, finwait2, before]
            refine .inr ⟨congrArg TcpState.stage before, ?_⟩
            rw [eq]
            rcases finwait2Segment_state c e before plain with next | next <;> rw [next] <;> rfl
        · have same := state.mpr fun both => complete ((dataTaken_complete takes).mp both.2)
          rw [same]
          exact .stores taking plain
      · have same := state.mpr fun both => takes both.1
        have untouched : s.dataTaken c r = s := if_neg takes
        rw [same, untouched]
        exact .ignores

theorem adoptMss_receiveView (c : Config) (s : TcpSocket) (segment : TcpSegment) :
    (s.adoptMss c segment).receiveView = s.receiveView := by
  unfold adoptMss setMss initSlowStart
  dsimp only
  split_ifs <;> rfl

theorem listenSegment_takes (c : Config) (e : Env) (state : s.state = .listen) (r : ReceiveBuffer) :
    Takes c s.receiveView r (s.listenSegment c e r).receiveView := by
  unfold listenSegment
  cases rst : r.segment.rst with
  | true => exact .aborts
  | false =>
    rw [if_neg Bool.false_ne_true]
    dsimp only
    have adopted :=
      adoptMss_receiveView c { s with receiveBuffer := s.receiveBuffer.setFirstSeqNum (r.segment.seqnum + 1) } r.segment
    generalize adoptMss c { s with receiveBuffer := s.receiveBuffer.setFirstSeqNum (r.segment.seqnum + 1) } r.segment = s'
      at adopted ⊢
    have state' : s'.state = .listen := (congrArg ReceiveView.state adopted).trans state
    have alive : (s'.freeReceivedSegment r).state ≠ .closed := by
      change s'.state ≠ .closed
      simp [state']
    have only := (requestSendBufferTcp_spec c e (s'.freeReceivedSegment r)).historyOnly fun dead => alive dead.2.1
    have view : ((s'.freeReceivedSegment r).requestSendBufferTcp c e).2.receiveView =
        { s.receiveView with receiveBuffer := s.receiveBuffer.setFirstSeqNum (r.segment.seqnum + 1) } :=
      only.receiveView.trans adopted
    generalize (s'.freeReceivedSegment r).requestSendBufferTcp c e = result at view ⊢
    obtain ⟨block, s₁⟩ := result
    cases block with
    | none =>
      have same : s₁.receiveView = { s.receiveView with
          receiveBuffer := s.receiveBuffer.setFirstSeqNum (r.segment.seqnum + 1), state := .listen } := by
        rw [← state]
        exact view
      dsimp only
      rw [same]
      exact .starts state rst (.inl rfl)
    | some b =>
      have same : (s₁.listenIn c e b).receiveView = { s.receiveView with
          receiveBuffer := s.receiveBuffer.setFirstSeqNum (r.segment.seqnum + 1), state := .synrcvd } := by
        have moved : (s₁.listenIn c e b).receiveView = { s₁.receiveView with state := .synrcvd } := rfl
        rw [moved]
        exact congrArg (fun v : ReceiveView => { v with state := .synrcvd }) view
      dsimp only
      rw [same]
      exact .starts state rst (.inr rfl)

theorem synrcvdSegment_takes (c : Config) (e : Env) (state : s.state = .synrcvd) (r : ReceiveBuffer) :
    Takes c s.receiveView r (s.synrcvdSegment c e r).receiveView := by
  have resent : s.resendFirst.receiveView = s.receiveView := by
    rw [resendFirst_eq]
    rfl
  unfold synrcvdSegment
  dsimp only
  split_ifs
  · exact .aborts
  · change Takes c s.receiveView r (s.synrcvdAck c e r.segment).receiveView
    unfold synrcvdAck
    dsimp only
    have acked : (s.handleAck c e r.segment.acknum).receiveView = s.receiveView := by
      rw [handleAck_eq]
      rfl
    generalize s.handleAck c e r.segment.acknum = s' at acked ⊢
    split_ifs
    · have opened : { ({ s' with state := .established }.initSendWindow r.segment.window r.segment.seqnum
          r.segment.acknum).clearHistory with waiting := false }.receiveView =
            { s'.receiveView with state := .established, waiting := false } := rfl
      rw [opened, acked]
      exact .opens state
    · rw [acked]
      exact .ignores
  · change Takes c s.receiveView r s.resendFirst.receiveView
    rw [resent]
    exact .ignores
  · exact .ignores

theorem input_takes (c : Config) (e : Env) (passive : s.state ≠ .synsent) (r : ReceiveBuffer) :
    Takes c s.receiveView r (s.input c e (some r)).receiveView := by
  by_cases behind : s.synchronized
  · exact input_synchronized_takes c e behind r
  · unfold input
    cases state : s.state with
    | closed => exact .returns state
    | listen => exact listenSegment_takes c e state r
    | synsent => exact absurd state passive
    | synrcvd => exact synrcvdSegment_takes c e state r
    | established | finwait1 | finwait2 | closewait | lastack | closing | timewait =>
      exact absurd (by simp [synchronized, state]) behind

/-! ### Calls -/

theorem genInitialSeqnum_receiveView (c : Config) (e : Env) (s : TcpSocket) :
    (s.genInitialSeqnum c e).receiveView = s.receiveView := by
  unfold genInitialSeqnum
  dsimp only
  split_ifs <;> rfl

theorem listenBase_receiveView (c : Config) (e : Env) (s : TcpSocket) : (s.listenBase c e).receiveView = s.receiveView ∨
    s.state = .closed ∧ (s.listenBase c e).receiveView = { s.receiveView with state := .listen, waiting := true } := by
  unfold listenBase
  split_ifs with closed
  · have same := genInitialSeqnum_receiveView c e s
    refine .inr ⟨closed, ?_⟩
    rw [← same]
    rfl
  · exact .inl rfl

theorem closeBase_receiveView (c : Config) (e : Env) (s : TcpSocket) : (s.closeBase c e).receiveView = s.receiveView ∨
    (s.closeBase c e).receiveView = s.receiveView.aborted ∨
      s.isOpen ∧ ∃ next, next.stage = .late ∧
        ((s.closeBase c e).receiveView = { s.receiveView with state := next, waiting := true } ∨
          (s.closeBase c e).receiveView = { s.receiveView.aborted with state := next, waiting := true }) := by
  have requested := requestSendBufferTcp_receiveView c e s
  unfold closeBase
  split_ifs with opened
  · generalize s.requestSendBufferTcp c e = result at requested ⊢
    obtain ⟨block, s₁⟩ := result
    cases block with
    | none => exact requested.imp_right .inl
    | some b =>
      refine .inr (.inr ⟨opened.symm, if s₁.state = .closewait then .lastack else .finwait1, by split_ifs <;> rfl, ?_⟩)
      have view : (s₁.closeIn c e b).receiveView = { s₁.receiveView with
          state := if s₁.state = .closewait then .lastack else .finwait1, waiting := true } := rfl
      dsimp only at requested ⊢
      rw [view]
      exact requested.imp (fun same => by rw [same]) (fun aborted => by rw [aborted])
  · exact .inl rfl

theorem addToReceiveQueue_receiveView (c : Config) (e : Env) (s : TcpSocket) (segment : TcpSegment) (size : BitVec 16) :
    (s.addToReceiveQueue c e segment size).receiveView = s.receiveView ∨
      ∃ block, (s.addToReceiveQueue c e segment size).receiveView =
        { s.receiveView with packetbuffer := s.packetbuffer ++ [⟨block, size, segment⟩] } := by
  unfold addToReceiveQueue
  dsimp only
  split_ifs
  · exact .inl rfl
  · cases e.alloc s.mempool.requests with
    | ok => exact .inr ⟨_, rfl⟩
    | noMemory | invalid => exact .inl rfl

end TcpSocket

end IPStack
