import IPStack.Tcp.CallFrames
import IPStack.Tcp.EmittedRounds

/-! How connections begin, go on and end, and what they acknowledge on the way. -/

namespace IPStack

open Serial Transition

namespace TcpSocket

variable {c : Config} {e : Env} {s s' : TcpSocket} {r : ReceiveBuffer}

/-- Behind the handshake of a connection that is not aborted. -/
def connected (s : TcpSocket) : Prop := s.synchronized ∧ s.trace.aborted = false

instance (s : TcpSocket) : Decidable s.connected := inferInstanceAs (Decidable (_ ∧ _))

/-! ### The handshake -/

/-- What a segment can begin in LISTEN and SYNSENT. -/
structure Opens (c : Config) (e : Env) (s : TcpSocket) (r : ReceiveBuffer) (s' : TcpSocket) : Prop where
  wire : Hands (fun segment => segment.ack = true → segment.acknum = s'.receiveBuffer.getAckNum c) s s'
  starts : s'.synchronized ∨ s'.state = .synrcvd → s.startsStream c e r.segment
  takesData : s'.synchronized → s'.takesData
  unfinished : s.finReceived = false → s'.finReceived = false

theorem adoptMss_frame (c : Config) (s : TcpSocket) (segment : TcpSegment) :
    (s.adoptMss c segment).state = s.state ∧ (s.adoptMss c segment).finReceived = s.finReceived ∧
      (s.adoptMss c segment).trace.wire = s.trace.wire := by
  unfold adoptMss setMss initSlowStart
  dsimp only
  split_ifs <;> exact ⟨rfl, rfl, rfl⟩

/-- A segment after which the socket is still unconnected. -/
theorem Opens.of_unopened (wire : s'.trace.wire = s.trace.wire) (early : ¬s'.synchronized ∧ s'.state ≠ .synrcvd)
    (unfinished : s.finReceived = false → s'.finReceived = false) : Opens c e s r s' where
  wire := ⟨[], wire, nofun⟩
  starts opened := (opened.elim early.1 early.2).elim
  takesData behind := absurd behind early.1
  unfinished := unfinished

theorem listenSegment_opens (c : Config) (e : Env) (state : s.state = .listen) (r : ReceiveBuffer) :
    Opens c e s r (s.listenSegment c e r) := by
  unfold listenSegment
  by_cases rst : r.segment.rst = true
  · rw [if_pos rst]
    exact .of_unopened rfl ⟨fun behind => behind.1 rfl, nofun⟩ fun _ => rfl
  · have starts : s.startsStream c e r.segment := .inl ⟨state, by simpa using rst⟩
    rw [if_neg rst]
    dsimp only
    obtain ⟨state', unfinished, wire⟩ :=
      adoptMss_frame c { s with receiveBuffer := s.receiveBuffer.setFirstSeqNum (r.segment.seqnum + 1) } r.segment
    generalize adoptMss c { s with receiveBuffer := s.receiveBuffer.setFirstSeqNum (r.segment.seqnum + 1) } r.segment = s₁
      at state' unfinished wire ⊢
    have listening : (s₁.freeReceivedSegment r).state = .listen := state'.trans state
    have only := (requestSendBufferTcp_spec c e (s₁.freeReceivedSegment r)).historyOnly
      fun dead => absurd (listening.symm.trans dead.2.1) nofun
    generalize TcpSocket.requestSendBufferTcp c e (s₁.freeReceivedSegment r) = result at only ⊢
    obtain ⟨block, s₂⟩ := result
    have finished : s₂.finReceived = s.finReceived := (congrArg TcpSocket.finReceived only).trans unfinished
    have sent : s₂.trace.wire = s.trace.wire := (congrArg (·.trace.wire) only).trans wire
    cases block with
    | none =>
      have same : s₂.state = .listen := (congrArg TcpSocket.state only).trans listening
      refine .of_unopened sent ⟨fun behind => behind.2.1 same, fun other => absurd (same.symm.trans other) nofun⟩ ?_
      exact finished.trans
    | some b =>
      refine ⟨?_, fun _ => starts, fun behind => absurd rfl behind.2.2.2, finished.trans⟩
      have answered : ∃ segment : TcpSegment, (s₂.listenIn c e b).trace.wire = segment :: s₂.trace.wire ∧
          segment.acknum = s₂.receiveBuffer.getAckNum c := by
        refine ⟨_, rfl, ?_⟩
        unfold setSyn
        split <;> rfl
      obtain ⟨segment, more, number⟩ := answered
      refine ⟨[segment], more.trans (by rw [sent]; rfl), fun other member _ => ?_⟩
      rw [List.mem_singleton.mp member]
      exact number

theorem synsentReset_opens (c : Config) (e : Env) (state : s.state = .synsent) (r : ReceiveBuffer) (acknum : SeqNum) :
    Opens c e s r (s.synsentReset c e acknum) := by
  have only := (requestSendBufferTcp_spec c e s).historyOnly fun dead => absurd (state.symm.trans dead.2.1) nofun
  unfold synsentReset
  generalize s.requestSendBufferTcp c e = result at only ⊢
  obtain ⟨block, s₁⟩ := result
  have same : s₁.state = .synsent := (congrArg TcpSocket.state only).trans state
  have early : ¬s₁.synchronized ∧ s₁.state ≠ .synrcvd :=
    ⟨fun behind => behind.2.2.1 same, fun other => absurd (same.symm.trans other) nofun⟩
  have wire : s₁.trace.wire = s.trace.wire := congrArg (·.trace.wire) only
  have finished : s₁.finReceived = s.finReceived := congrArg (·.finReceived) only
  cases block with
  | none => exact .of_unopened wire early finished.trans
  | some b =>
    refine ⟨⟨[{ s₁.writeHeader c with seqnum := acknum, rst := true }], by rw [← wire]; rfl, fun segment member ack => ?_⟩,
      fun opened => (opened.elim early.1 early.2).elim, fun behind => absurd behind early.1, finished.trans⟩
    rw [List.mem_singleton.mp member] at ack
    exact absurd ack Bool.false_ne_true

theorem synsentEstablish_opens (c : Config) (e : Env) (s : TcpSocket) (r : ReceiveBuffer) {t : TcpSocket}
    (starts : t.startsStream c e r.segment) (wire : s.trace.wire = t.trace.wire) (finished : s.finReceived = t.finReceived) :
    Opens c e t r (s.synsentEstablish c e r.segment) := by
  unfold synsentEstablish
  dsimp only
  generalize opened : TcpSocket.clearHistory _ = s₁
  have before : s₁.state = .established ∧ s₁.trace.wire = s.trace.wire ∧ s₁.finReceived = s.finReceived := by
    rw [← opened]
    exact ⟨rfl, rfl, rfl⟩
  have alive : s₁.state ≠ .closed := by simp [before.1]
  have replied := sendAck_replied c e alive
  have established : (s₁.sendAck c e).2.state = .established := replied.state.trans before.1
  have unfinished : (s₁.sendAck c e).2.finReceived = s₁.finReceived := congrArg (·.finReceived) replied
  have same := sendAck_receiveBuffer c e s₁
  obtain ⟨emitted, more, all⟩ := (sendAck_emits c e s₁).wire
  generalize s₁.sendAck c e = result at established unfinished same more all ⊢
  obtain ⟨sent, s₂⟩ := result
  have opens : Opens c e t r s₂ := by
    refine ⟨⟨emitted, by rw [more, before.2.1, wire], fun segment member _ => ?_⟩, fun _ => starts, fun _ => .inl established,
      fun none => (unfinished.trans (before.2.2.trans finished)).trans none⟩
    rw [same]
    exact (all segment member).2.2
  cases sent with
  | true => exact ⟨opens.wire, opens.starts, opens.takesData, opens.unfinished⟩
  | false => exact opens

theorem synsentSimultaneous_opens (c : Config) (e : Env) (s : TcpSocket) (r : ReceiveBuffer) {t : TcpSocket}
    (state : s.state = .synsent) (starts : t.startsStream c e r.segment) (wire : s.trace.wire = t.trace.wire)
    (finished : s.finReceived = t.finReceived) : Opens c e t r (s.synsentSimultaneous c e r.segment) := by
  rcases synsentSimultaneous_cases c e s r.segment with ⟨-, eq⟩ | ⟨-, eq⟩ <;> rw [eq]
  · refine ⟨?_, fun _ => starts, fun behind => absurd rfl behind.2.2.2, finished.trans⟩
    have answered : ∃ segment : TcpSegment, ((s.crossed r.segment).allocated.synsentSimultaneousIn c e s.mempool.nextBlock).trace.wire =
        segment :: s.trace.wire ∧ segment.acknum = (s.crossed r.segment).receiveBuffer.getAckNum c := by
      refine ⟨_, rfl, ?_⟩
      unfold setSyn
      split <;> rfl
    obtain ⟨segment, more, number⟩ := answered
    refine ⟨[segment], more.trans (by rw [wire]; rfl), fun other member _ => ?_⟩
    rw [List.mem_singleton.mp member]
    exact number
  · rw [requestSendBuffer_historyOnly e (s.crossed r.segment)]
    refine .of_unopened wire ⟨fun behind => behind.2.2.1 state, fun other => ?_⟩ finished.trans
    exact absurd (state.symm.trans other) nofun

theorem Opens.of_same {t : TcpSocket} (opens : Opens c e s r s') (wire : s.trace.wire = t.trace.wire)
    (starts : s.startsStream c e r.segment → t.startsStream c e r.segment) (finished : s.finReceived = t.finReceived) :
    Opens c e t r s' where
  wire := opens.wire.of_same wire rfl
  starts opened := starts (opens.starts opened)
  takesData := opens.takesData
  unfinished none := opens.unfinished (finished.trans none)

theorem synsentSegment_opens (c : Config) (e : Env) (state : s.state = .synsent) (r : ReceiveBuffer) :
    Opens c e s r (s.synsentSegment c e r) := by
  obtain ⟨state', unfinished, wire⟩ := adoptMss_frame c s r.segment
  have cases := synsentSegment_cases c e state r
  dsimp only at cases
  generalize taken : (s.adoptMss c r.segment).freeReceivedSegment r = s₁ at cases
  have frame : s₁.state = .synsent ∧ s₁.finReceived = s.finReceived ∧ s₁.trace.wire = s.trace.wire := by
    rw [← taken]
    exact ⟨state'.trans state, unfinished, wire⟩
  have acked : (s₁.handleAck c e r.segment.acknum).state = .synsent ∧
      (s₁.handleAck c e r.segment.acknum).finReceived = s.finReceived ∧
      (s₁.handleAck c e r.segment.acknum).trace.wire = s.trace.wire := by
    rw [handleAck_eq]
    exact frame
  rcases cases with ⟨starts, answered⟩ | ⟨-, refused⟩
  · rcases answered with eq | eq <;> rw [eq]
    · exact synsentEstablish_opens c e _ r starts acked.2.2 acked.2.1
    · exact synsentSimultaneous_opens c e _ r frame.1 starts frame.2.2 frame.2.1
  · have reset : ∀ t : TcpSocket, t.state = .synsent ∧ t.finReceived = s.finReceived ∧ t.trace.wire = s.trace.wire →
        Opens c e s r (t.synsentReset c e r.segment.acknum) := by
      intro t same
      have opens := synsentReset_opens c e same.1 r r.segment.acknum
      -- the reset leaves the socket in SYNSENT
      have only := (requestSendBufferTcp_spec c e t).historyOnly fun dead => absurd (same.1.symm.trans dead.2.1) nofun
      have kept : (t.synsentReset c e r.segment.acknum).state = .synsent := by
        unfold synsentReset
        generalize t.requestSendBufferTcp c e = result at only ⊢
        obtain ⟨block, s₂⟩ := result
        have still : s₂.state = .synsent := (congrArg (·.state) only).trans same.1
        cases block <;> exact still
      have early : ¬(t.synsentReset c e r.segment.acknum).synchronized := fun behind => behind.2.2.1 kept
      refine ⟨opens.wire.of_same same.2.2 rfl, fun opened => ?_, fun behind => absurd behind early,
        fun none => opens.unfinished (same.2.1.trans none)⟩
      rcases opened with behind | other
      · exact absurd behind early
      · exact absurd (kept.symm.trans other) nofun
    rcases refused with eq | eq | eq | eq <;> rw [eq]
    · exact .of_unopened frame.2.2 ⟨fun behind => behind.2.2.1 frame.1, fun other => absurd (frame.1.symm.trans other) nofun⟩
        frame.2.1.trans
    · exact .of_unopened frame.2.2 ⟨fun behind => behind.1 rfl, nofun⟩ fun _ => rfl
    · exact reset s₁ frame
    · exact reset _ acked

/-- The first record, if its buffer has not been sent. -/
def firstUnsent (s : TcpSocket) : List TcpRecord :=
  match s.history with
  | [] => []
  | record :: _ => if record.sendbuffer.state = .writing then [record] else []

/-- What a repeated SYN sends again. -/
def resentFor (s : TcpSocket) (segment : TcpSegment) : List TcpRecord :=
  if s.state = .synrcvd ∧ segment.rst = false ∧ segment.ack = false ∧ segment.syn = true then s.firstUnsent else []

/-- What a segment can do in SYNRCVD. -/
structure Answered (s : TcpSocket) (r : ReceiveBuffer) (s' : TcpSocket) : Prop where
  wire : Hands (· ∈ (s.resentFor r.segment).map TcpRecord.segment) s s'
  takesData : s'.synchronized → s'.takesData
  aborted : s'.trace.aborted = true ∨ s'.trace.aborted = s.trace.aborted
  unfinished : s.finReceived = false → s'.finReceived = false

theorem resendFirst_hands (s : TcpSocket) : Hands (· ∈ s.firstUnsent.map TcpRecord.segment) s s.resendFirst := by
  unfold resendFirst firstUnsent send
  cases s.history with
  | nil => exact ⟨[], rfl, nofun⟩
  | cons record rest =>
    dsimp only
    cases state : record.sendbuffer.state with
    | invalid => exact ⟨[], rfl, nofun⟩
    | transmitted => exact ⟨[], rfl, nofun⟩
    | writing => exact ⟨[record.segment], rfl, fun segment member => member⟩

theorem synrcvdSegment_answered (c : Config) (e : Env) (state : s.state = .synrcvd) (r : ReceiveBuffer) :
    Answered s r (s.synrcvdSegment c e r) := by
  have early : ∀ t : TcpSocket, t.state = .synrcvd → ¬t.synchronized := fun t same behind => behind.2.2.2 same
  unfold synrcvdSegment
  by_cases rst : r.segment.rst = true
  · rw [if_pos rst]
    exact ⟨⟨[], rfl, nofun⟩, fun behind => absurd rfl behind.1, .inl rfl, fun _ => rfl⟩
  · rw [if_neg rst]
    dsimp only
    split_ifs with ack syn
    · unfold synrcvdAck
      dsimp only
      rw [handleAck_eq]
      split_ifs
      · exact ⟨⟨[], rfl, nofun⟩, fun _ => .inl rfl, .inr rfl, id⟩
      · exact ⟨⟨[], rfl, nofun⟩, fun behind => absurd behind (early _ state), .inr rfl, id⟩
    · have same : s.resendFirst.state = s.state ∧ s.resendFirst.trace.aborted = s.trace.aborted ∧
          s.resendFirst.finReceived = s.finReceived := by
        rw [resendFirst_eq]
        exact ⟨rfl, rfl, rfl⟩
      have again : s.resentFor r.segment = s.firstUnsent :=
        if_pos ⟨state, Bool.not_eq_true _ ▸ rst, Bool.not_eq_true _ ▸ ack, syn⟩
      have hands := resendFirst_hands s
      rw [← again] at hands
      exact ⟨hands.of_same rfl rfl, fun behind => absurd behind (early _ (same.1.trans state)), .inr same.2.1, same.2.2.trans⟩
    · exact ⟨⟨[], rfl, nofun⟩, fun behind => absurd behind (early s state), .inr rfl, id⟩

/-! ### Segments behind the handshake -/

/-- The peer's last byte moves the socket to a state that takes no data. -/
theorem input_plain_state (c : Config) (e : Env) (behind : s.synchronized) (plain : r.segment.plain) :
    if s.takesData ∧ s.completesFin c r then (s.input c e (some r)).synchronized ∧ ¬(s.input c e (some r)).takesData
    else (s.input c e (some r)).state = s.state := by
  have unchanged := (input_processed c e behind plain).2
  split
  · rename_i done
    have moved : (s.input c e (some r)).state ≠ s.state := fun same => unchanged.mp same done
    have final : ∀ next, next = TcpState.closewait ∨ next = .closing ∨ next = .timewait →
        (s.input c e (some r)).state = next → (s.input c e (some r)).synchronized ∧ ¬(s.input c e (some r)).takesData := by
      rintro next (rfl | rfl | rfl) state <;> simp [synchronized, takesData, state]
    obtain ⟨takes, -⟩ := done
    rcases takes with state | state | state
    · have eq : s.input c e (some r) = s.establishedSegment c e r := by simp only [input, established, state]
      rcases establishedSegment_state c e state plain with same | next
      · exact absurd ((congrArg TcpSocket.state eq).trans (same.trans state.symm)) moved
      · exact final _ (.inl rfl) ((congrArg TcpSocket.state eq).trans next)
    · have eq : s.input c e (some r) = s.finwait1Segment c e r := by simp only [input, finwait1, state]
      rcases finwait1Segment_state c e state plain with same | next | next
      · exact absurd ((congrArg TcpSocket.state eq).trans (same.trans state.symm)) moved
      · exact final _ (.inr (.inl rfl)) ((congrArg TcpSocket.state eq).trans next)
      · exact final _ (.inr (.inr rfl)) ((congrArg TcpSocket.state eq).trans next)
    · have eq : s.input c e (some r) = s.finwait2Segment c e r := by simp only [input, finwait2, state]
      rcases finwait2Segment_state c e state plain with same | next
      · exact absurd ((congrArg TcpSocket.state eq).trans (same.trans state.symm)) moved
      · exact final _ (.inr (.inr rfl)) ((congrArg TcpSocket.state eq).trans next)
  · rename_i going
    exact unchanged.mpr going

/-- What becomes readable when the socket takes the segment. -/
def readable (c : Config) (s : TcpSocket) (r : ReceiveBuffer) : List TcpRecvElement :=
  if s.takesData ∧ r.segment.plain ∧ s.stores c r then s.receiveBuffer.joining c r r.segment.seqnum r.payloadLen else []

theorem dataTaken_counted (counted : s.receiveBuffer.Counted c) (plain : r.segment.plain) :
    (s.dataTaken c r).receiveBuffer.Counted c ∧
      (s.dataTaken c r).receiveBuffer.getRecvBytes c = s.receiveBuffer.getRecvBytes c + TcpReceiveBuffer.lengths (s.readable c r) ∧
      (s.dataTaken c r).receiveBuffer.getAckNum c = s.receiveBuffer.getAckNum c + TcpReceiveBuffer.lengths (s.readable c r) := by
  have refused : s.readable c r = [] → (s.dataTaken c r).receiveBuffer = s.receiveBuffer →
      (s.dataTaken c r).receiveBuffer.Counted c ∧ (s.dataTaken c r).receiveBuffer.getRecvBytes c =
        s.receiveBuffer.getRecvBytes c + TcpReceiveBuffer.lengths (s.readable c r) ∧
      (s.dataTaken c r).receiveBuffer.getAckNum c = s.receiveBuffer.getAckNum c + TcpReceiveBuffer.lengths (s.readable c r) := by
    intro nothing same
    rw [nothing, same]
    exact ⟨counted, (BitVec.add_zero _).symm, (BitVec.add_zero _).symm⟩
  by_cases takes : s.takesData
  · have same : (s.handleFin r.segment r.segment.seqnum r.payloadLen).receiveBuffer = s.receiveBuffer := by rw [handleFin_eq]
    by_cases stores : s.stores c r
    · obtain ⟨payload, stored⟩ := stores
      obtain ⟨b, inserted⟩ := Option.isSome_iff_exists.mp stored
      have after : (s.dataTaken c r).receiveBuffer = b := by
        rw [dataTaken, if_pos takes, handleData, if_pos payload, same, inserted]
        rfl
      rw [after, readable, if_pos ⟨takes, plain, payload, stored⟩]
      exact counted.insert inserted
    · refine refused (if_neg fun all => stores all.2.2) ?_
      rw [dataTaken, if_pos takes]
      have unstored : ¬(s.handleFin r.segment r.segment.seqnum r.payloadLen).stores c r := by rwa [TcpSocket.stores, same]
      exact ((handleData_same c _ r).mpr unstored).trans same
  · exact refused (if_neg fun all => takes all.1) (by rw [dataTaken, if_neg takes])

/-! ### The counters of a connection -/

/-- The receive buffer counts what it holds, nothing is known of a FIN before the handshake, and
behind it a complete stream has left the states that take data. -/
structure Accounted (c : Config) (s : TcpSocket) : Prop where
  counted : s.receiveBuffer.Counted c
  unfinished : ¬s.synchronized → s.finReceived = false
  completes : s.connected → (s.finComplete c ↔ ¬s.takesData)

/-- One connection before and after the elements of a list have become readable. -/
structure Advances (c : Config) (l : List TcpRecvElement) (s s' : TcpSocket) : Prop where
  max : s'.maxReceiveWindowBytes = s.maxReceiveWindowBytes
  number : s'.receiveBuffer.getAckNum c = s.receiveBuffer.getAckNum c + TcpReceiveBuffer.lengths l
  bytes : s'.receiveBuffer.getRecvBytes c = s.receiveBuffer.getRecvBytes c + TcpReceiveBuffer.lengths l ∨
    l = [] ∧ s'.receiveBuffer.getRecvBytes c ≤ s.receiveBuffer.getRecvBytes c
  finished : s.finComplete c → s'.finComplete c ∧ s'.finSeqnum = s.finSeqnum ∧ l = []

theorem lasting_opening (same : s'.lasting = s.lasting) : (s'.synchronized ↔ s.synchronized) ∧
    (¬s.synchronized → s'.state = s.state) := by
  have opening := congrArg Lasting.opening same
  unfold TcpSocket.lasting at opening
  dsimp only at opening
  split at opening <;> split at opening <;> simp_all

/-- A round in which the peer's stream stands still. -/
theorem Accounted.of_lasting (acc : s.Accounted c) (same : s'.lasting = s.lasting) (counted : s'.receiveBuffer.Counted c)
    (number : s'.receiveBuffer.getAckNum c = s.receiveBuffer.getAckNum c) : s'.Accounted c := by
  obtain ⟨behind, -⟩ := lasting_opening same
  have received : s'.finReceived = s.finReceived := congrArg Lasting.finReceived same
  have seqnum : s'.finSeqnum = s.finSeqnum := congrArg Lasting.finSeqnum same
  have aborted : s'.trace.aborted = s.trace.aborted := congrArg Lasting.aborted same
  have takes : s'.takesData ↔ s.takesData := decide_eq_decide.mp (congrArg Lasting.takesData same)
  refine ⟨counted, fun early => received.trans (acc.unfinished fun late => early (behind.mpr late)), fun conn => ?_⟩
  unfold finComplete
  rw [received, seqnum, number, takes]
  exact acc.completes ⟨behind.mp conn.1, aborted.symm.trans conn.2⟩

theorem Accounted.of_aborted (counted : s.receiveBuffer.Counted c) (aborted : s.trace.aborted = true)
    (unfinished : s.finReceived = false) : s.Accounted c :=
  ⟨counted, fun _ => unfinished, fun conn => absurd (aborted.symm.trans conn.2) (Ne.symm Bool.false_ne_true)⟩

theorem Accounted.emits {kind : TcpSegment → Prop} {sent : List TcpSegment} (acc : s.Accounted c)
    (emits : EmitsBehind kind sent s s')
    (counted : s'.receiveBuffer.Counted c) (number : s'.receiveBuffer.getAckNum c = s.receiveBuffer.getAckNum c) :
    s'.Accounted c := by
  rcases emits.lasting with ⟨aborted, unfinished⟩ | same
  · exact .of_aborted counted aborted unfinished
  · exact acc.of_lasting same counted number

theorem Advances.of_emits {kind : TcpSegment → Prop} {sent : List TcpSegment} (emits : EmitsBehind kind sent s s') (alive : s'.trace.aborted = false)
    (number : s'.receiveBuffer.getAckNum c = s.receiveBuffer.getAckNum c)
    (bytes : s'.receiveBuffer.getRecvBytes c ≤ s.receiveBuffer.getRecvBytes c) :
    s'.lasting = s.lasting ∧ Advances c [] s s' := by
  rcases emits.lasting with aborted | same
  · exact absurd (aborted.1.symm.trans alive) (Ne.symm Bool.false_ne_true)
  · have received : s'.finReceived = s.finReceived := congrArg Lasting.finReceived same
    have seqnum : s'.finSeqnum = s.finSeqnum := congrArg Lasting.finSeqnum same
    refine ⟨same, congrArg Lasting.maxReceiveWindowBytes same, number.trans (BitVec.add_zero _).symm, .inr ⟨rfl, bytes⟩,
      fun complete => ⟨?_, seqnum, rfl⟩⟩
    rwa [finComplete, received, seqnum, number]

/-- Behind the handshake only a segment without RST and SYN brings data. -/
theorem input_receiveBuffer_of_synchronized (c : Config) (e : Env) (behind : s.synchronized) (r : ReceiveBuffer) :
    (s.input c e (some r)).receiveBuffer =
      if s.takesData ∧ r.segment.plain then (s.dataTaken c r).receiveBuffer else s.receiveBuffer := by
  have unstarted : ¬s.startsStream c e r.segment := by
    rintro (listening | sent)
    · exact behind.2.1 listening.1
    · exact behind.2.2.1 sent.1
  have buffer := input_segment_receiveBuffer c e s r
  rwa [receiveBufferTaking, if_neg unstarted] at buffer

/-- A segment behind the handshake. -/
theorem Accounted.input_synchronized (acc : s.Accounted c) (e : Env) (behind : s.synchronized) (r : ReceiveBuffer) :
    (s.input c e (some r)).Accounted c ∧ ((s.input c e (some r)).trace.aborted = false →
      (s.input c e (some r)).synchronized ∧ s.connected ∧ Advances c (s.readable c r) s (s.input c e (some r))) := by
  have buffer := input_receiveBuffer_of_synchronized c e behind r
  have silent : ∀ {kind : TcpSegment → Prop}, ¬r.segment.plain → Emits kind s (s.input c e (some r)) →
      (s.input c e (some r)).Accounted c ∧ ((s.input c e (some r)).trace.aborted = false →
        (s.input c e (some r)).synchronized ∧ s.connected ∧ Advances c (s.readable c r) s (s.input c e (some r))) := by
    intro kind other emits
    rw [if_neg fun both => other both.2] at buffer
    have nothing : s.readable c r = [] := if_neg fun all => other all.2.1
    refine ⟨acc.emits emits (buffer ▸ acc.counted) (by rw [buffer]), fun alive => ?_⟩
    obtain ⟨same, advances⟩ := Advances.of_emits emits alive (by rw [buffer]) (by rw [buffer]; exact BitVec.le_refl _)
    rw [nothing]
    exact ⟨(lasting_opening same).1.mpr behind, ⟨behind, (congrArg Lasting.aborted same).symm.trans alive⟩, advances⟩
  cases rst : r.segment.rst with
  | true =>
    have other : ¬r.segment.plain := fun plain => absurd (plain.1.symm.trans rst) Bool.false_ne_true
    have emits : Emits (fun _ => False) s (s.input c e (some r)) := by
      rw [input_rst c e behind rst]
      exact handleRst_emits s r
    exact silent other emits
  | false =>
    cases syn : r.segment.syn with
    | true =>
      have other : ¬r.segment.plain := fun plain => absurd (plain.2.symm.trans syn) Bool.false_ne_true
      exact silent other (input_syn_emits c e behind rst syn)
    | false =>
      have plain : r.segment.plain := ⟨rst, syn⟩
      have taken : (s.input c e (some r)).receiveBuffer = (s.dataTaken c r).receiveBuffer := by
        rw [buffer]
        by_cases takes : s.takesData
        · rw [if_pos ⟨takes, plain⟩]
        · rw [if_neg fun both => takes both.1, dataTaken, if_neg takes]
      obtain ⟨counted, bytes, number⟩ := dataTaken_counted acc.counted plain
      rw [← taken] at counted bytes number
      obtain ⟨processed, -⟩ := input_processed c e behind plain
      have moved := input_plain_state c e behind plain
      have complete : (s.input c e (some r)).finComplete c ↔ (s.dataTaken c r).finComplete c := processed.received.finComplete
      have touched := processed.touched
      have seqnum := processed.received.finSeqnum
      have aborted : (s.input c e (some r)).trace.aborted = s.trace.aborted := by
        unfold Touched at touched
        rw [touched]
      have max : (s.input c e (some r)).maxReceiveWindowBytes = s.maxReceiveWindowBytes := by
        unfold Touched at touched
        rw [touched]
      generalize s.input c e (some r) = s' at *
      have sync : s'.synchronized := by
        split at moved
        · exact moved.1
        · rwa [synchronized, moved]
      have before : s'.trace.aborted = false → s.connected := fun alive => ⟨behind, aborted.symm.trans alive⟩
      refine ⟨⟨counted, fun early => absurd sync early, fun conn => ?_⟩,
        fun alive => ⟨sync, before alive, max, number, .inl bytes, ?_⟩⟩
      · rw [complete]
        by_cases takes : s.takesData
        · have done : (s.dataTaken c r).finComplete c ↔ s.completesFin c r := by
            rw [dataTaken, if_pos takes]
            rfl
          split at moved
          · rename_i both
            exact iff_of_true (done.mpr both.2) moved.2
          · rename_i going
            refine iff_of_false (fun finished => going ⟨takes, done.mp finished⟩) (not_not_intro ?_)
            rwa [takesData, moved]
        · rw [if_neg fun both => takes both.1] at moved
          rw [dataTaken, if_neg takes, takesData, moved]
          exact acc.completes (before conn.2)
      · intro finished
        have final := (acc.completes (before alive)).mp finished
        have same : s.dataTaken c r = s := if_neg final
        rw [same] at complete seqnum
        exact ⟨complete.mpr finished, seqnum, if_neg fun all => final all.1⟩

/-- A segment before the end of the handshake. -/
theorem Accounted.input_unsynchronized (acc : s.Accounted c) (e : Env) (early : ¬s.synchronized) (r : ReceiveBuffer)
    (empty : s.startsStream c e r.segment → s.receiveBuffer.list = []) :
    (s.input c e (some r)).Accounted c ∧ (s.input c e (some r)).finReceived = false ∧
      ((s.input c e (some r)).synchronized ∨ (s.input c e (some r)).state = .synrcvd → s.startsStream c e r.segment ∨
        s.state = .synrcvd ∧ (s.input c e (some r)).receiveBuffer = s.receiveBuffer ∧
          ((s.input c e (some r)).trace.aborted = true ∨ (s.input c e (some r)).trace.aborted = s.trace.aborted)) := by
  have buffer := input_segment_receiveBuffer c e s r
  have unread : ¬(s.takesData ∧ r.segment.plain) := by
    rintro ⟨takes | takes | takes, -⟩ <;> exact early (by simp [synchronized, takes])
  rw [receiveBufferTaking, if_neg unread] at buffer
  have counted : (s.input c e (some r)).receiveBuffer.Counted c := by
    rw [buffer]
    split
    · rename_i starts
      exact acc.counted.setFirstSeqNum (empty starts) _
    · exact acc.counted
  have unfinished := acc.unfinished early
  have opened : ∀ s' : TcpSocket, s'.receiveBuffer.Counted c → (s'.synchronized → s'.takesData) → s'.finReceived = false →
      s'.Accounted c := fun s' counted takes none =>
    ⟨counted, fun _ => none, fun conn => iff_of_false
      (fun complete => absurd (none.symm.trans complete.1) Bool.false_ne_true) (not_not_intro (takes conn.1))⟩
  unfold input at buffer counted ⊢
  cases state : s.state with
  | closed =>
    have same : s.closed (some r) = { s.freeReceivedSegment r with waiting := false } := rfl
    rw [state] at counted
    refine ⟨opened _ counted (fun behind => absurd state behind.1) unfinished, unfinished, ?_⟩
    rintro (behind | other)
    · exact absurd state behind.1
    · exact absurd (state.symm.trans other) (by simp)
  | listen =>
    rw [state] at counted
    have opens := listenSegment_opens c e state r
    have none := opens.unfinished unfinished
    exact ⟨opened _ counted opens.takesData none, none, fun begins => .inl (opens.starts begins)⟩
  | synsent =>
    rw [state] at counted
    have opens := synsentSegment_opens c e state r
    have none := opens.unfinished unfinished
    exact ⟨opened _ counted opens.takesData none, none, fun begins => .inl (opens.starts begins)⟩
  | synrcvd =>
    rw [state] at counted
    have answered := synrcvdSegment_answered c e state r
    have none := answered.unfinished unfinished
    exact ⟨opened _ counted answered.takesData none, none, fun _ => .inr ⟨rfl, synrcvdSegment_receiveBuffer c e s r, answered.aborted⟩⟩
  | established | finwait1 | finwait2 | closewait | lastack | closing | timewait =>
    exact absurd (by simp [synchronized, state]) early

theorem idle_counted (counted : s.receiveBuffer.Counted c) (e : Env) :
    (s.receiveBufferIdle c e).Counted c ∧ (s.receiveBufferIdle c e).getAckNum c = s.receiveBuffer.getAckNum c ∧
      (s.receiveBufferIdle c e).getRecvBytes c ≤ s.receiveBuffer.getRecvBytes c := by
  unfold receiveBufferIdle
  split
  · exact ⟨counted, rfl, BitVec.le_refl _⟩
  · rename_i len call
    have held := (copyCall_le call).1
    obtain ⟨kept, bytes, number⟩ := counted.copyData held
    refine ⟨kept, number, ?_⟩
    rw [bytes]
    bv_omega

/-! ### Calls of the application -/

theorem requestSendBufferTcp_closed (c : Config) (e : Env) (closed : s.state = .closed) :
    (s.requestSendBufferTcp c e).2.state = .closed := by
  have granted : ∀ t : TcpSocket, t.state = .closed → (t.requestSendBuffer e).2.state = .closed := fun t same =>
    (congrArg (·.state) (requestSendBuffer_historyOnly e t)).trans same
  unfold requestSendBufferTcp
  split
  · rename_i full
    have updated : (s.updateHistory c e false).state = .closed := by
      rcases updateHistory_false_cases (e := e) full with ⟨-, eq⟩ | ⟨-, eq⟩ <;> rw [eq]
      · rfl
      · exact (congrArg (·.state) (updateHistoryBody_false_requests full).1).trans closed
    dsimp only
    split
    · exact updated
    · exact granted _ updated
  · exact granted s closed

/-- The state before a handshake, or the one it begins with. -/
def Unopened (s : TcpSocket) : Prop := s.state = .closed ∨ s.state = .listen ∨ s.state = .synsent

theorem Unopened.early (unopened : s.Unopened) : ¬s.synchronized ∧ s.state ≠ .synrcvd := by
  rcases unopened with state | state | state <;> simp [synchronized, state]

theorem connectBase_unopened (c : Config) (e : Env) (closed : s.state = .closed) :
    (s.connectBase c e).Unopened ∧ (s.finReceived = false → (s.connectBase c e).finReceived = false) := by
  obtain ⟨-, state, -⟩ := genInitialSeqnum_fresh c e s
  have received : (s.genInitialSeqnum c e).finReceived = s.finReceived := by
    unfold genInitialSeqnum
    dsimp only
    split <;> rfl
  have still := requestSendBufferTcp_closed (s := { s.genInitialSeqnum c e with sendWindow := 0 }) c e (state.trans closed)
  have requested : Emits (fun _ => False) { s.genInitialSeqnum c e with sendWindow := 0 } _ := requestSendBufferTcp_emits c e _
  have unfinished : s.finReceived = false →
      ({ s.genInitialSeqnum c e with sendWindow := 0 }.requestSendBufferTcp c e).2.finReceived = false := by
    intro none
    rcases requested.lasting with aborted | same
    · exact aborted.2
    · exact (congrArg Lasting.finReceived same).trans (received.trans none)
  unfold connectBase
  dsimp only
  generalize TcpSocket.requestSendBufferTcp c e _ = result at still unfinished ⊢
  obtain ⟨block, s₁⟩ := result
  cases block with
  | none => exact ⟨.inl still, unfinished⟩
  | some b => exact ⟨.inr (.inr rfl), unfinished⟩

theorem listenBase_cases (c : Config) (e : Env) (s : TcpSocket) :
    s.listenBase c e = s ∨ s.state = .closed ∧ (s.listenBase c e).Unopened ∧ (s.listenBase c e).finReceived = s.finReceived := by
  unfold listenBase
  split
  · rename_i closed
    refine .inr ⟨closed, .inr (.inl rfl), ?_⟩
    unfold genInitialSeqnum
    dsimp only
    split <;> rfl
  · exact .inl rfl

/-- The FIN of `close` gets a buffer. -/
def closes (c : Config) (e : Env) (s : TcpSocket) : Prop := s.isOpen ∧ (s.requestSendBufferTcp c e).1.isSome = true

instance (c : Config) (e : Env) (s : TcpSocket) : Decidable (s.closes c e) := inferInstanceAs (Decidable (_ ∧ _))

theorem closeBase_emits (c : Config) (e : Env) (s : TcpSocket) :
    Emits (fun segment => s.closes c e ∧ segment.acks (s.receiveBuffer.getAckNum c)) s (s.closeBase c e) := by
  unfold closeBase
  split
  · rename_i opened
    have alive : s.state ≠ .closed := by rcases opened with state | state <;> simp [state]
    have only := (requestSendBufferTcp_spec c e s).historyOnly fun dead => alive dead.2.1
    have requested : ∀ {kind}, Emits kind s (s.requestSendBufferTcp c e).2 := requestSendBufferTcp_emits c e s
    unfold closes
    generalize s.requestSendBufferTcp c e = result at only requested ⊢
    obtain ⟨block, s₁⟩ := result
    cases block with
    | none => exact requested
    | some b =>
      have state : s₁.state = s.state := congrArg (·.state) only
      have number : s₁.receiveBuffer.getAckNum c = s.receiveBuffer.getAckNum c := congrArg (·.receiveBuffer.getAckNum c) only
      have sent : Emits (fun segment => (s.isOpen ∧ (some b).isSome = true) ∧ segment.acks (s.receiveBuffer.getAckNum c)) s
          { s₁.closeIn c e b with state := s₁.state } :=
        requested.trans (.one ⟨⟨opened.symm, rfl⟩, rfl, number⟩ rfl rfl)
      refine sent.moves (by rcases opened with same | same <;> simp [synchronized, same]) ?_ ?_ <;>
        rcases opened with same | same <;> simp [synchronized, takesData, state, same]
  · exact .refl s

end TcpSocket

namespace Machine

open TcpSocket

variable {c : Config} {m : Machine}

/-- The records that a step sends again. -/
def resentBy (c : Config) (m : Machine) (a : Env × Event) : List TcpRecord :=
  match a.2, m.inputOf a.1 with
  | .tick, some (s, none) => s.resentIdle c a.1
  | .tick, some (s, some r) => s.resentFor r.segment
  | .tick, none => if m.call = some (.poll true) then m.sock.resent c a.1 else []
  | _, _ => []

/-- What has been sent behind the retransmissions of a step. -/
def resentWire (c : Config) (m : Machine) (a : Env × Event) : List TcpSegment :=
  ((m.resentBy c a).map TcpRecord.segment).reverse ++ m.sock.trace.wire

/-- The step sends a segment with the number of the receive buffer, also in a state that takes no
data any more: the end of `poll` with an acknowledgement pending, the FIN of `close`, and data. -/
def acksAnyway (c : Config) (m : Machine) (a : Env × Event) : Prop :=
  match a.2, m.inputOf a.1 with
  | .tick, some (s, none) => s.writesLate c a.1
  | .tick, none => m.call = some (.poll true) ∧ (m.sock.updateHistory c a.1 true).acksPending c a.1
  | .close, _ => m.call = none ∧ m.sock.closes c a.1
  | _, _ => False

instance (c : Config) (m : Machine) (a : Env × Event) : Decidable (m.acksAnyway c a) := by
  delta acksAnyway
  generalize m.inputOf a.1 = input
  rcases a with ⟨e, event⟩
  rcases event <;> rcases input with _ | ⟨s, _ | r⟩ <;> dsimp only <;> infer_instance

/-- The segments of a step that processes none, apart from retransmissions. -/
def Sent (c : Config) (m : Machine) (a : Env × Event) (segment : TcpSegment) : Prop :=
  (m.sock.takesData ∨ m.acksAnyway c a) ∧ segment.acks (m.sock.receiveBuffer.getAckNum c)

/-- A call that leaves a closed socket unconnected. -/
def StaysUnopened (s s' : TcpSocket) : Prop :=
  s.state = .closed ∧ s'.Unopened ∧ (s.finReceived = false → s'.finReceived = false)

theorem listenBase_emits {kind : TcpSegment → Prop} (c : Config) (e : Env) (s : TcpSocket) :
    Emits kind s (s.listenBase c e) ∨ StaysUnopened s (s.listenBase c e) := by
  rcases listenBase_cases c e s with same | ⟨closed, unopened, received⟩
  · exact .inl (same.symm ▸ .refl s)
  · exact .inr ⟨closed, unopened, received.trans⟩

theorem settle_emits {e : Env} (settles : m.inputOf e = none) :
    EmitsBehind (m.Sent c (e, .tick)) (m.resentWire c (e, .tick)) m.sock (m.settle c e).sock ∨
      StaysUnopened m.sock (m.settle c e).sock := by
  have silent : m.call ≠ some (.poll true) → m.resentWire c (e, .tick) = m.sock.trace.wire := by
    intro other
    have nothing : m.resentBy c (e, .tick) = [] := by
      unfold resentBy
      dsimp only
      rw [settles]
      exact if_neg other
    rw [resentWire, nothing]
    rfl
  have same : ∀ s', m.call ≠ some (.poll true) → s'.lasting = m.sock.lasting → s'.trace.wire = m.sock.trace.wire →
      EmitsBehind (m.Sent c (e, .tick)) (m.resentWire c (e, .tick)) m.sock s' := by
    intro s' other lasting wire
    rw [silent other]
    exact Emits.of_same lasting wire
  unfold settle
  split
  · rename_i call
    exact .inl (same _ (by rw [call]; nofun) rfl rfl)
  · rename_i call
    exact .inl (same _ (by rw [call]; nofun) rfl rfl)
  · rename_i processed call
    refine .inl ?_
    dsimp only
    split
    · rename_i done
      rw [done] at call
      have again : m.resentWire c (e, .tick) = m.sock.resentWire c e := by
        unfold resentWire resentBy
        dsimp only
        rw [settles]
        dsimp only
        rw [if_pos call]
        rfl
      have late : (m.sock.updateHistory c e true).acksPending c e → m.acksAnyway c (e, .tick) := by
        unfold acksAnyway
        dsimp only
        rw [settles]
        exact fun pending => ⟨call, pending⟩
      have updated : EmitsBehind (m.Sent c (e, .tick)) (m.resentWire c (e, .tick)) m.sock (m.sock.updateHistory c e true) :=
        again ▸ updateHistory_emits c e m.sock
      refine updated.trans ((processAck_emits c e _).mono fun segment sent => ⟨.inr (late sent.1), ?_⟩)
      rw [← updateHistory_receiveBuffer c e m.sock true]
      exact sent.2
    · rename_i unprocessed
      refine same _ ?_ rfl rfl
      rw [call]
      exact fun done => unprocessed (Call.poll.inj (Option.some.inj done))
  · rename_i call
    have other : m.call ≠ some (.poll true) := by rw [call]; nofun
    split
    · rename_i s r _ taken
      obtain ⟨rest, -, rfl⟩ := listenPacket_eq taken
      exact .inl (same _ other rfl rfl)
    · exact .inl (same _ other rfl rfl)
    · exact .inl (same _ other rfl rfl)
    · split_ifs
      · exact .inl (same _ other rfl rfl)
      · rw [silent other]
        exact listenBase_emits c e m.sock
  · rename_i notReceive notPoll notListen call
    exact .inl (same _ (by rw [call]; exact fun polls => notPoll true (Option.some.inj polls)) rfl rfl)

theorem begin_emits (c : Config) (e : Env) (idle : m.call = none) (event : Event) :
    Emits (m.Sent c (e, event)) m.sock (m.begin c e event).sock ∨ StaysUnopened m.sock (m.begin c e event).sock := by
  unfold begin
  cases event with
  | connect =>
    dsimp only
    split_ifs with valid
    · obtain ⟨unopened, unfinished⟩ := connectBase_unopened (s := { m.sock with sport := e.freePort }) c e valid.2
      exact .inr ⟨valid.2, unopened, unfinished⟩
    · exact .inl (Emits.refl _)
  | listen =>
    dsimp only
    split_ifs
    · exact .inl (Emits.refl _)
    · exact listenBase_emits c e m.sock
  | write | receive | poll =>
    dsimp only
    split_ifs
    · exact .inl (Emits.of_same rfl rfl)
    · exact .inl (Emits.refl _)
  | close => exact .inl ((closeBase_emits c e m.sock).mono fun _ sent => ⟨.inr ⟨idle, sent.1⟩, sent.2⟩)
  | setPorts | setMaxReceiveWindow => exact .inl (Emits.of_same rfl rfl)
  | arrive | tick => exact .inl (Emits.refl _)

/-- A step in which `input` gets no segment. -/
theorem step_unreceived (counted : m.sock.receiveBuffer.Counted c) (e : Env) (event : Event)
    (unreceived : event = .tick → ∀ s r, m.inputOf e ≠ some (s, some r)) :
    EmitsBehind (m.Sent c (e, event)) (m.resentWire c (e, event)) m.sock (m.step c (e, event)).sock ∨
      StaysUnopened m.sock (m.step c (e, event)).sock := by
  have begins : Emits (m.Sent c (e, event)) m.sock (if m.call = none then m.begin c e event else m).sock ∨
      StaysUnopened m.sock (if m.call = none then m.begin c e event else m).sock := by
    split_ifs with idle
    · exact begin_emits c e idle event
    · exact .inl (Emits.refl _)
  cases event with
  | tick =>
    change EmitsBehind _ _ m.sock (m.tick c e).sock ∨ StaysUnopened m.sock (m.tick c e).sock
    unfold tick
    cases calls : m.inputOf e with
    | none => exact settle_emits calls
    | some input =>
      obtain ⟨s, segment⟩ := input
      cases segment with
      | some r => exact absurd calls (unreceived rfl s r)
      | none =>
        obtain rfl := inputOf_none calls
        have again : m.resentWire c (e, .tick) =
            ((m.sock.resentIdle c e).map TcpRecord.segment).reverse ++ m.sock.trace.wire := by
          simp only [resentWire, resentBy, calls]
        have late : m.sock.writesLate c e → m.acksAnyway c (e, .tick) := by
          unfold acksAnyway
          dsimp only
          rw [calls]
          exact id
        rw [again]
        exact .inl ((input_idle_emits counted e).mono fun segment fresh => ⟨fresh.1.imp_right late, fresh.2⟩)
  | arrive segment size =>
    refine .inl ?_
    change Emits _ m.sock (m.sock.addToReceiveQueue c e segment size)
    unfold addToReceiveQueue
    split
    · exact Emits.refl _
    · dsimp only
      split
      · exact Emits.of_same rfl rfl
      · exact Emits.of_same rfl rfl
  | connect | listen | write | receive | close | poll | setPorts | setMaxReceiveWindow => exact begins

/-! ### Steps -/

/-- What becomes readable in a step. -/
def readableBy (c : Config) (m : Machine) (a : Env × Event) : List TcpRecvElement :=
  match a.2, m.inputOf a.1 with
  | .tick, some (s, some r) => s.readable c r
  | _, _ => []

/-- The SYN that begins the peer's stream finds an empty receive buffer. -/
def startsEmpty (c : Config) (m : Machine) (a : Env × Event) : Prop :=
  match a.2, m.inputOf a.1 with
  | .tick, some (s, some r) => s.startsStream c a.1 r.segment → s.receiveBuffer.list = []
  | _, _ => True

instance (c : Config) (m : Machine) (a : Env × Event) : Decidable (m.startsEmpty c a) := by
  delta startsEmpty
  generalize m.inputOf a.1 = input
  rcases a with ⟨e, event⟩
  rcases event <;> rcases input with _ | ⟨s, _ | r⟩ <;> dsimp only <;> infer_instance

/-- A step in which `input` gets a segment, or one in which it gets none. -/
theorem step_received_or (c : Config) (m : Machine) (a : Env × Event) :
    (∃ s r rest dport, a.2 = .tick ∧ m.inputOf a.1 = some (s, some r) ∧ s = taking m.sock rest dport ∧
        (m.step c a).sock = s.input c a.1 (some r)) ∨
      ((a.2 = .tick → ∀ s r, m.inputOf a.1 ≠ some (s, some r)) ∧ m.readableBy c a = []) := by
  obtain ⟨e, event⟩ := a
  cases event with
  | tick =>
    cases calls : m.inputOf e with
    | none => exact .inr ⟨fun _ _ _ => nofun, by simp only [readableBy, calls]⟩
    | some input =>
      obtain ⟨s, segment⟩ := input
      cases segment with
      | none => exact .inr ⟨fun _ _ _ => nofun, by simp only [readableBy, calls]⟩
      | some r =>
        obtain ⟨rest, dport, -, rfl⟩ := inputOf_some calls
        refine .inl ⟨_, r, rest, dport, rfl, rfl, rfl, ?_⟩
        change (m.tick c e).sock = _
        unfold tick
        rw [calls]
  | connect | listen | write | receive | close | poll | setPorts | setMaxReceiveWindow | arrive => exact .inr ⟨nofun, rfl⟩

/-- Without a segment the acknowledgement number stays, and the application reads. -/
theorem step_unreceived_buffer (counted : m.sock.receiveBuffer.Counted c) {a : Env × Event}
    (unreceived : a.2 = .tick → ∀ s r, m.inputOf a.1 ≠ some (s, some r)) :
    (m.step c a).sock.receiveBuffer.Counted c ∧
      (m.step c a).sock.receiveBuffer.getAckNum c = m.sock.receiveBuffer.getAckNum c ∧
      (m.step c a).sock.receiveBuffer.getRecvBytes c ≤ m.sock.receiveBuffer.getRecvBytes c := by
  obtain ⟨e, event⟩ := a
  have buffer := step_receiveBuffer c e m event
  have same : (m.step c (e, event)).sock.receiveBuffer = m.sock.receiveBuffer →
      (m.step c (e, event)).sock.receiveBuffer.Counted c ∧
      (m.step c (e, event)).sock.receiveBuffer.getAckNum c = m.sock.receiveBuffer.getAckNum c ∧
      (m.step c (e, event)).sock.receiveBuffer.getRecvBytes c ≤ m.sock.receiveBuffer.getRecvBytes c := by
    intro unchanged
    rw [unchanged]
    exact ⟨counted, rfl, BitVec.le_refl _⟩
  cases event with
  | tick =>
    cases calls : m.inputOf e with
    | none =>
      rw [calls] at buffer
      exact same buffer
    | some input =>
      obtain ⟨s, segment⟩ := input
      cases segment with
      | some r => exact absurd calls (unreceived rfl s r)
      | none =>
        rw [calls] at buffer
        obtain rfl := inputOf_none calls
        rw [buffer]
        exact idle_counted counted e
  | _ => exact same buffer

theorem step_accounted (acc : m.sock.Accounted c) {a : Env × Event} (empty : m.startsEmpty c a) :
    (m.step c a).sock.Accounted c := by
  rcases step_received_or c m a with ⟨s, r, rest, dport, tick, calls, taken, eq⟩ | ⟨unreceived, -⟩
  · have start : s.Accounted c := taken ▸ ⟨acc.counted, acc.unfinished, acc.completes⟩
    rw [eq]
    by_cases behind : s.synchronized
    · exact (start.input_synchronized a.1 behind r).1
    · unfold startsEmpty at empty
      rw [tick, calls] at empty
      exact (start.input_unsynchronized a.1 behind r empty).1
  · obtain ⟨counted, number, -⟩ := step_unreceived_buffer acc.counted unreceived
    rcases step_unreceived acc.counted a.1 a.2 unreceived with emits | ⟨closed, unopened, unfinished⟩
    · exact acc.emits emits counted number
    · have early := unopened.early.1
      exact ⟨counted, fun _ => unfinished (acc.unfinished fun behind => behind.1 closed), fun conn => absurd conn.1 early⟩

/-- A connection goes on unless the step aborts it. -/
theorem step_advances (acc : m.sock.Accounted c) (a : Env × Event) (behind : m.sock.synchronized)
    (alive : (m.step c a).sock.trace.aborted = false) :
    (m.step c a).sock.synchronized ∧ m.sock.connected ∧ Advances c (m.readableBy c a) m.sock (m.step c a).sock := by
  rcases step_received_or c m a with ⟨s, r, rest, dport, tick, calls, taken, eq⟩ | ⟨unreceived, nothing⟩
  · have start : s.Accounted c := taken ▸ ⟨acc.counted, acc.unfinished, acc.completes⟩
    have readable : m.readableBy c a = s.readable c r := by
      unfold readableBy
      rw [tick, calls]
    rw [eq] at alive ⊢
    rw [readable]
    subst taken
    obtain ⟨sync, conn, advances⟩ := (start.input_synchronized a.1 behind r).2 alive
    exact ⟨sync, conn, advances.max, advances.number, advances.bytes, advances.finished⟩
  · obtain ⟨-, number, bytes⟩ := step_unreceived_buffer acc.counted unreceived
    rcases step_unreceived acc.counted a.1 a.2 unreceived with emits | ⟨closed, -⟩
    · obtain ⟨same, advances⟩ := Advances.of_emits emits alive number bytes
      rw [nothing]
      exact ⟨(lasting_opening same).1.mpr behind, ⟨behind, (congrArg Lasting.aborted same).symm.trans alive⟩, advances⟩
    · exact absurd closed behind.1

/-- A connection begins with an empty receive buffer. -/
theorem step_begins (acc : m.sock.Accounted c) {a : Env × Event} (empty : m.startsEmpty c a) (early : ¬m.sock.synchronized)
    (alive : (m.step c a).sock.trace.aborted = false)
    (begun : (m.step c a).sock.synchronized ∨ (m.step c a).sock.state = .synrcvd) :
    (m.step c a).sock.receiveBuffer.getRecvBytes c = 0 ∧ m.sock.state ≠ .synrcvd ∨
      m.sock.state = .synrcvd ∧ m.sock.trace.aborted = false ∧
        (m.step c a).sock.receiveBuffer.getAckNum c = m.sock.receiveBuffer.getAckNum c ∧
        (m.step c a).sock.receiveBuffer.getRecvBytes c ≤ m.sock.receiveBuffer.getRecvBytes c := by
  rcases step_received_or c m a with ⟨s, r, rest, dport, tick, calls, taken, eq⟩ | ⟨unreceived, -⟩
  · have start : s.Accounted c := taken ▸ ⟨acc.counted, acc.unfinished, acc.completes⟩
    unfold startsEmpty at empty
    rw [tick, calls] at empty
    rw [eq] at alive begun ⊢
    subst taken
    obtain ⟨-, -, opened⟩ := start.input_unsynchronized a.1 early r empty
    rcases opened begun with starts | ⟨state, same, aborted⟩
    · refine .inl ⟨?_, fun state => ?_⟩
      · have counted := start.counted.setFirstSeqNum (empty starts) (r.segment.seqnum + 1)
        rw [input_segment_receiveBuffer, receiveBufferTaking, if_pos starts]
        exact counted.empty (empty starts)
      · rcases starts with listening | sent
        · exact absurd (state.symm.trans listening.1) nofun
        · exact absurd (state.symm.trans sent.1) nofun
    · refine .inr ⟨state, ?_, by rw [same]; rfl, by rw [same]; exact BitVec.le_refl _⟩
      rcases aborted with aborted | aborted
      · exact absurd (aborted.symm.trans alive) (Ne.symm Bool.false_ne_true)
      · exact aborted.symm.trans alive
  · obtain ⟨-, number, bytes⟩ := step_unreceived_buffer acc.counted unreceived
    rcases step_unreceived acc.counted a.1 a.2 unreceived with emits | ⟨-, unopened, -⟩
    · rcases emits.lasting with aborted | same
      · exact absurd (aborted.1.symm.trans alive) (Ne.symm Bool.false_ne_true)
      · obtain ⟨behind, state⟩ := lasting_opening same
        rcases begun with sync | synrcvd
        · exact absurd (behind.mp sync) early
        · exact .inr ⟨(state early).symm.trans synrcvd, (congrArg Lasting.aborted same).symm.trans alive, number, bytes⟩
    · exact (begun.elim unopened.early.1 unopened.early.2).elim

theorem construct_accounted (c : Config) (memory : TcpSocket) : (construct c memory).sock.Accounted c := by
  have fields := construct_eq c memory
  have list : (memory.construct c).receiveBuffer.list = [] := by
    rw [fields]
    rfl
  have counted : (memory.construct c).receiveBuffer.Counted c := by
    cases build : c.slidingWindowReceive with
    | true =>
      refine TcpReceiveBuffer.Tracked.counted ?_ build
      rw [fields]
      exact ⟨rfl, rfl, rfl⟩
    | false => exact (TcpReceiveBuffer.aligned_of_empty list).counted build
  have early : ¬(memory.construct c).synchronized := by
    intro behind
    rw [fields] at behind
    exact behind.1 rfl
  refine ⟨counted, fun _ => ?_, fun conn => absurd conn.1 early⟩
  change (memory.construct c).finReceived = false
  rw [fields]

end Machine

end IPStack
