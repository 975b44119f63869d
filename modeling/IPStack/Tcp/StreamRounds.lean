import IPStack.Tcp.CallRuns
import IPStack.Tcp.ReceiverRounds
import IPStack.Tcp.StreamReads

/-! What the receiving half of a socket has of a stream, over the rounds of the state machine. -/

namespace IPStack

open TcpSocket TcpReceiveBuffer Machine

namespace Stream

/-! ### The receiving half of the socket -/

/-- The buffer of a `receive` that waits is not full, and has as many bytes as were counted. -/
structure Fills (w : ReceiveView) : Prop where
  wanted : 0 < w.wanted.toNat
  counted : w.applicationRecvLen.toNat = w.applicationRecv.length
  bounded : w.wanted.toNat + w.applicationRecvLen.toNat < 2 ^ 31

/-- A FIN that was received is behind the last byte, within half the sequence space of the read position. -/
def Ends (v : Stream) (copied : List UInt8) (w : ReceiveView) : Prop :=
  w.finReceived = true → v.ended ∧ w.finSeqnum = BitVec.ofNat 32 v.top ∧ v.bytes.length ≤ copied.length + 2 ^ 31

/-- Nothing has been taken from the peer's stream. -/
structure Pristine (c : Config) (copied : List UInt8) (w : ReceiveView) : Prop where
  buffer : ∃ memory first, w.receiveBuffer = TcpReceiveBuffer.start c memory first
  copied : copied = []
  fin : w.finReceived = false
  state : w.state = .closed ∨ w.state = .listen ∨ w.state = .synrcvd ∨ w.state = .established ∧ w.waiting = false

/-- What a socket has received of a stream. -/
structure Receives (c : Config) (v : Stream) (call : Option Call) (listened : Bool) (copied : List UInt8) (w : ReceiveView) :
    Prop where
  passive : w.state ≠ .synsent
  unopened : listened = false → w.state = .closed ∧ call ≠ some .listen
  pristine : listened = false ∨ call = some .listen ∨ w.state = .listen → Pristine c copied w
  reads : w.state ≠ .closed → w.state ≠ .listen → v.Reads c copied w.receiveBuffer ∧ Ends v copied w
  complete : w.state = .closewait → v.ended ∧ copied.length + total w.receiveBuffer.continuous = v.bytes.length
  written : copied <+: v.bytes
  fills : call = some .receive → w.waiting = true → Fills w
  drained : call = some .receive → w.waiting = false → w.state = .closewait → w.applicationRecvLen = 0 → copied = v.bytes

/-- The `receive` in progress. -/
structure Reading (call : Option Call) (w : ReceiveView) : Prop where
  receives : w.receiving = true → call = some .receive ∧ w.waiting = true
  waits : call = some .receive → w.waiting = true → w.receiving = true ∧ (w.state = .established ∨ w.state = .closewait)

theorem reading_of_calls {m : Machine} (calls : CallInv m) : Reading m.call m.sock.receiveView where
  receives receiving := ⟨calls.receives receiving, calls.reading (calls.receives receiving) receiving⟩
  waits := calls.receive

variable {c : Config} {v v' : Stream} {call call' : Option Call} {listened : Bool} {copied copied' : List UInt8}
  {w w' : ReceiveView} {r : ReceiveBuffer}

theorem Ends.of_fin (ends : Ends v copied w) (fin : w'.finReceived = true → w.finReceived = true ∧ w'.finSeqnum = w.finSeqnum)
    (longer : copied.length ≤ copied'.length) : Ends v copied' w' := by
  intro received
  obtain ⟨before, same⟩ := fin received
  obtain ⟨ended, seqnum, near⟩ := ends before
  exact ⟨ended, same.trans seqnum, by omega⟩

namespace Receives

/-- The stream goes on while the receiver does nothing. -/
theorem goesOn (receives : Receives c v call listened copied w) (extends_ : v.Extends v') :
    Receives c v' call listened copied w where
  passive := receives.passive
  unopened := receives.unopened
  pristine := receives.pristine
  reads alive unheard := by
    obtain ⟨reads, ends⟩ := receives.reads alive unheard
    refine ⟨extends_.reads reads, fun finReceived => ?_⟩
    obtain ⟨ended, seqnum, near⟩ := ends finReceived
    obtain ⟨ended', same⟩ := extends_.ended ended
    refine ⟨ended', seqnum.trans ?_, by rw [same]; exact near⟩
    rw [Stream.top, Stream.top, extends_.first, same]
  complete closewait := by
    obtain ⟨ended, all⟩ := receives.complete closewait
    obtain ⟨ended', same⟩ := extends_.ended ended
    exact ⟨ended', by rw [same]; exact all⟩
  written := receives.written.trans extends_.bytes
  fills := receives.fills
  drained receive waiting closewait none := by
    rw [(extends_.ended (receives.complete closewait).1).2]
    exact receives.drained receive waiting closewait none

/-- The call ends or goes on, and the socket has taken nothing. -/
theorem quiet (receives : Receives c v call listened copied w) (buffer : w'.receiveBuffer = w.receiveBuffer)
    (fin : w'.finReceived = true → w.finReceived = true ∧ w'.finSeqnum = w.finSeqnum)
    (state : w'.state = w.state ∨ w'.state = .closed ∨
      (w.state ≠ .closed ∧ w.state ≠ .listen) ∧ (w'.state = .established ∧ w'.waiting = false ∨ w'.state.stage = .late))
    (opening : call' = some .listen → call = some .listen)
    (late : w'.state.stage = .late → w.state.stage = .late ∨ call' ≠ some .listen)
    (waiting : w'.state = .established → w.waiting = false → w'.waiting = false ∨ listened = true ∧ call' ≠ some .listen)
    (fills : call' = some .receive → w'.waiting = true → Fills w')
    (drained : call' = some .receive → w'.waiting = false → w'.state = .closewait → w'.applicationRecvLen = 0 →
      copied = v.bytes) :
    Receives c v call' listened copied w' where
  passive := by
    rcases state with same | closed | ⟨-, ⟨opened, -⟩ | late⟩
    · rw [same]
      exact receives.passive
    · simp [closed]
    · simp [opened]
    · intro synsent
      rw [synsent] at late
      cases late
  unopened fresh := by
    obtain ⟨closed, other⟩ := receives.unopened fresh
    refine ⟨?_, fun listens => other (opening listens)⟩
    rcases state with same | closed' | ⟨⟨alive, -⟩, -⟩
    · exact same.trans closed
    · exact closed'
    · exact absurd closed alive
  pristine begins := by
    have before : listened = false ∨ call = some .listen ∨ w.state = .listen := by
      rcases begins with fresh | listens | listening
      · exact .inl fresh
      · exact .inr (.inl (opening listens))
      · rcases state with same | closed | ⟨-, ⟨opened, -⟩ | late⟩
        · exact .inr (.inr (same.symm.trans listening))
        · cases closed.symm.trans listening
        · cases opened.symm.trans listening
        · rw [listening] at late
          cases late
    have pristine := receives.pristine before
    refine ⟨by rw [buffer]; exact pristine.buffer, pristine.copied, ?_, ?_⟩
    · cases finReceived : w'.finReceived with
      | false => rfl
      | true => exact absurd (pristine.fin.symm.trans (fin finReceived).1) Bool.false_ne_true
    · rcases state with same | closed | ⟨unheard, ⟨opened, done⟩ | late'⟩
      · rw [same]
        rcases pristine.state with closed | listening | synrcvd | ⟨opened, done⟩
        · exact .inl closed
        · exact .inr (.inl listening)
        · exact .inr (.inr (.inl synrcvd))
        · rcases waiting (same.trans opened) done with done' | ⟨heard, other⟩
          · exact .inr (.inr (.inr ⟨opened, done'⟩))
          · rcases begins with fresh | listens | listening
            · exact absurd (heard.symm.trans fresh) Bool.true_eq_false.mp
            · exact absurd listens other
            · cases opened.symm.trans (same.symm.trans listening)
      · exact .inl closed
      · exact .inr (.inr (.inr ⟨opened, done⟩))
      · rcases late late' with late | other
        · rcases pristine.state with closed | listening | synrcvd | ⟨opened, -⟩
          · exact absurd closed unheard.1
          · exact absurd listening unheard.2
          · cases (congrArg TcpState.stage synrcvd).symm.trans late
          · cases (congrArg TcpState.stage opened).symm.trans late
        · rcases begins with fresh | listens | listening
          · exact absurd (receives.unopened fresh).1 unheard.1
          · exact absurd listens other
          · rw [listening] at late'
            cases late'
  reads alive unheard := by
    have before : w.state ≠ .closed ∧ w.state ≠ .listen := by
      rcases state with same | closed | ⟨before, -⟩
      · rw [← same]
        exact ⟨alive, unheard⟩
      · exact absurd closed alive
      · exact before
    obtain ⟨reads, ends⟩ := receives.reads before.1 before.2
    rw [buffer]
    exact ⟨reads, ends.of_fin fin (le_refl _)⟩
  complete closewait := by
    rw [buffer]
    rcases state with same | closed | ⟨-, ⟨opened, -⟩ | late⟩
    · exact receives.complete (same.symm.trans closewait)
    · cases closed.symm.trans closewait
    · cases opened.symm.trans closewait
    · rw [closewait] at late
      cases late
  written := receives.written
  fills := fills
  drained := drained

/-- Only these two calls matter. -/
theorem again (receives : Receives c v call listened copied w) (receive : call' = some .receive ↔ call = some .receive)
    (listen : call' = some .listen ↔ call = some .listen) : Receives c v call' listened copied w where
  passive := receives.passive
  unopened fresh := (receives.unopened fresh).imp_right (mt listen.mp)
  pristine begins := receives.pristine (begins.imp_right (Or.imp_left listen.mp))
  reads := receives.reads
  complete := receives.complete
  written := receives.written
  fills := receives.fills ∘ receive.mp
  drained := receives.drained ∘ receive.mp

/-- Other packets wait. -/
theorem packets (receives : Receives c v call listened copied w) (l : List ReceiveBuffer) :
    Receives c v call listened copied { w with packetbuffer := l } :=
  receives.quiet rfl (fun received => ⟨received, rfl⟩) (.inl rfl) id .inl (fun _ => .inl) (fun receive waiting => by
    have fills := receives.fills receive waiting
    exact ⟨fills.wanted, fills.counted, fills.bounded⟩) receives.drained

/-- A call that is not `receive`, or none, with the same socket. -/
theorem calls (receives : Receives c v call listened copied w) (other : call' ≠ some .receive)
    (opening : call' = some .listen → call = some .listen) : Receives c v call' listened copied w :=
  receives.quiet rfl (fun received => ⟨received, rfl⟩) (.inl rfl) opening .inl (fun _ => .inl)
    (fun receive => absurd receive other) fun receive => absurd receive other

/-- The connection is aborted. -/
theorem aborts (receives : Receives c v call listened copied w) (opening : call' = some .listen → call = some .listen) :
    Receives c v call' listened copied w.aborted :=
  receives.quiet rfl nofun (.inr (.inl rfl)) opening nofun nofun nofun nofun

/-- The socket is as it was, or aborted, and no `receive` is in progress. -/
theorem same_or_aborted (receives : Receives c v call listened copied w) (other : call' ≠ some .receive)
    (opening : call' = some .listen → call = some .listen) (view : w' = w ∨ w' = w.aborted) :
    w'.packetbuffer <:+ w.packetbuffer ∧ Receives c v call' listened copied w' := by
  rcases view with rfl | rfl
  · exact ⟨List.suffix_rfl, receives.calls other opening⟩
  · exact ⟨List.nil_suffix, receives.aborts opening⟩

/-- A call that waits while the connection is open. -/
theorem opened (receives : Receives c v call listened copied w) (opened : w.state = .established ∨ w.state = .closewait)
    (opening : call' ≠ some .listen) (fills : call' = some .receive → Fills w') (same : w' = { w with
      waiting := true, receiving := w'.receiving, wanted := w'.wanted, applicationRecv := w'.applicationRecv
      applicationRecvLen := w'.applicationRecvLen }) : Receives c v call' listened copied w' := by
  have heard : listened = true := by
    cases fresh : listened with
    | true => rfl
    | false =>
      have closed := (receives.unopened fresh).1
      rcases opened with state | state <;> cases closed.symm.trans state
  have waits : w'.waiting = true := by rw [same]
  refine receives.quiet (by rw [same]) (fun received => ?_) (.inl (by rw [same])) (fun listens => absurd listens opening)
    (fun _ => .inr opening) (fun _ _ => .inr ⟨heard, opening⟩) (fun receive _ => fills receive)
    fun _ done => absurd (done.symm.trans waits) Bool.false_ne_true
  rw [same] at received ⊢
  exact ⟨received, rfl⟩

/-- `close` sends the FIN. -/
theorem closes (receives : Receives c v call listened copied w) (other : call' ≠ some .receive) (opening : call' ≠ some .listen)
    (opened : w.state = .established ∨ w.state = .closewait) {next : TcpState} (late : next.stage = .late)
    (view : w' = { w with state := next, waiting := true } ∨ w' = { w.aborted with state := next, waiting := true }) :
    w'.packetbuffer <:+ w.packetbuffer ∧ Receives c v call' listened copied w' := by
  have alive : w.state ≠ .closed ∧ w.state ≠ .listen := by rcases opened with state | state <;> simp [state]
  have shut : next ≠ .established := by
    rintro rfl
    cases late
  rcases view with rfl | rfl
  · exact ⟨List.suffix_rfl, receives.quiet rfl (fun received => ⟨received, rfl⟩) (.inr (.inr ⟨alive, .inr late⟩))
      (fun listens => absurd listens opening) (fun _ => .inr opening) (fun state => absurd state shut)
      (fun receive => absurd receive other) fun receive => absurd receive other⟩
  · exact ⟨List.nil_suffix, receives.quiet rfl nofun (.inr (.inr ⟨alive, .inr late⟩))
      (fun listens => absurd listens opening) (fun _ => .inr opening) (fun state => absurd state shut)
      (fun receive => absurd receive other) fun receive => absurd receive other⟩

theorem heard (receives : Receives c v call listened copied w) : Receives c v call true copied w where
  passive := receives.passive
  unopened := nofun
  pristine begins := receives.pristine (.inr (begins.resolve_left nofun))
  reads := receives.reads
  complete := receives.complete
  written := receives.written
  fills := receives.fills
  drained := receives.drained

/-- The call of `listen`. -/
theorem listens (receives : Receives c v call listened copied w) (begins : listened = false ∨ call = some .listen)
    (view : w' = w ∨ w.state = .closed ∧ w' = { w with state := .listen, waiting := true }) :
    Receives c v (some .listen) true copied w' := by
  have pristine := receives.pristine (begins.imp_right .inl)
  rcases view with rfl | ⟨-, rfl⟩
  · exact ⟨receives.passive, nofun, fun _ => pristine, receives.reads, receives.complete, receives.written, nofun, nofun⟩
  · exact ⟨nofun, nofun, fun _ => ⟨pristine.buffer, pristine.copied, pristine.fin, .inr (.inl rfl)⟩,
      fun _ unheard => absurd rfl unheard, nofun, receives.written, nofun, nofun⟩

/-! ### Rounds -/

/-- The `receive` in progress takes bytes from the receive buffer. -/
theorem readsBytes (receives : Receives c v call listened copied w) (reading : Reading call w)
    (sliding : c.slidingWindowReceive = true) (sound : v.Sound) {len : BitVec 32} {enough : Bool}
    (state : w.state = .established ∨ w.state = .closewait) (receiving : w.receiving = true)
    (available : len ≤ w.receiveBuffer.getRecvBytes c) (fits : len ≤ w.wanted) (all : w.wanted = len → enough = true)
    (ends : w.state = .closewait → len = w.receiveBuffer.getRecvBytes c ∨ len = w.wanted) :
    Receives c v call listened (copied ++ (w.receiveBuffer.copyData c len).1) (w.reads c len enough) := by
  obtain ⟨receive, waiting⟩ := reading.receives receiving
  have fills := receives.fills receive waiting
  have alive : w.state ≠ .closed ∧ w.state ≠ .listen ∧ w.state ≠ .synsent := by
    rcases state with state | state <;> simp [state]
  obtain ⟨reads, finEnds⟩ := receives.reads alive.1 alive.2.1
  obtain ⟨length, written, later, left⟩ := reads.copyData sliding sound receives.written available
  have short := BitVec.le_def.mp fits
  have bounded := fills.bounded
  have counted : (w.applicationRecvLen + len).toNat = w.applicationRecvLen.toNat + len.toNat := by
    rw [BitVec.toNat_add]
    exact Nat.mod_eq_of_lt (by omega)
  refine ⟨alive.2.2, fun fresh => absurd (receives.unopened fresh).1 alive.1, fun begins => ?_, fun _ _ => ⟨later,
    finEnds.of_fin (fun received => ⟨received, rfl⟩) (by simp)⟩, fun closewait => ?_, written, fun _ goesOn => ?_,
    fun _ done closewait none => ?_⟩
  · rcases begins with fresh | listens | listening
    · exact absurd (receives.unopened fresh).1 alive.1
    · cases receive.symm.trans listens
    · exact absurd listening alive.2.1
  · obtain ⟨ended, whole⟩ := receives.complete closewait
    refine ⟨ended, ?_⟩
    change (copied ++ (w.receiveBuffer.copyData c len).1).length + total (w.receiveBuffer.copyData c len).2.2.continuous = _
    rw [List.length_append, length]
    omega
  · have more : enough = false := by
      cases enough with
      | false => rfl
      | true => exact absurd goesOn Bool.false_ne_true
    have different : w.wanted ≠ len := fun same => Bool.false_ne_true (more.symm.trans (all same))
    have less : len.toNat ≠ w.wanted.toNat := fun same => different (BitVec.eq_of_toNat_eq same.symm)
    have rest : (w.wanted - len).toNat = w.wanted.toNat - len.toNat := BitVec.toNat_sub_of_le fits
    subst more
    refine ⟨?_, ?_, ?_⟩
    · change 0 < (w.wanted - len).toNat
      omega
    · change (w.applicationRecvLen + len).toNat = (w.applicationRecv ++ (w.receiveBuffer.copyData c len).1).length
      rw [counted, fills.counted, List.length_append, length]
    · change (w.wanted - len).toNat + (w.applicationRecvLen + len).toNat < 2 ^ 31
      omega
  · change w.applicationRecvLen + len = 0 at none
    have zero : len.toNat = 0 := by
      have := congrArg BitVec.toNat none
      rw [counted] at this
      simp only [BitVec.ofNat_eq_ofNat, BitVec.toNat_ofNat] at this
      omega
    have empty : len = w.receiveBuffer.getRecvBytes c := by
      refine (ends closewait).resolve_right fun same => ?_
      have := fills.wanted
      rw [← same] at this
      omega
    have nothing := (reads.represents sliding).recvBytes
    rw [← empty, zero] at nothing
    have whole := (receives.complete closewait).2
    have bytes : (w.receiveBuffer.copyData c len).1 = [] := List.eq_nil_of_length_eq_zero (length.trans zero)
    rw [bytes, List.append_nil]
    exact receives.written.eq_of_length (by omega)

/-- A round without a segment: what it copies follows the bytes that were copied before. -/
theorem passes (receives : Receives c v call listened copied w) (reading : Reading call w)
    (sliding : c.slidingWindowReceive = true) (sound : v.Sound) (passes : ReceiveView.Passes c w w') :
    ∃ more, w'.applicationRecv = w.applicationRecv ++ more ∧ (call ≠ some .receive → more = []) ∧
      Receives c v call listened (copied ++ more) w' := by
  have still : w'.applicationRecv = w.applicationRecv → Receives c v call listened copied w' →
      ∃ more, w'.applicationRecv = w.applicationRecv ++ more ∧ (call ≠ some .receive → more = []) ∧
        Receives c v call listened (copied ++ more) w' := by
    intro same next
    exact ⟨[], same.trans (List.append_nil _).symm, fun _ => rfl, by rwa [List.append_nil]⟩
  cases passes with
  | rests => exact still rfl receives
  | returns quiet =>
    refine still rfl (receives.quiet rfl (fun received => ⟨received, rfl⟩) (.inl rfl) id .inl (fun _ _ => .inl rfl) nofun
      fun receive _ closewait none => ?_)
    cases waiting : w.waiting with
    | false => exact receives.drained receive waiting closewait none
    | true =>
      obtain ⟨receiving, opened⟩ := reading.waits receive waiting
      rcases quiet with quiet | closed
      · exact absurd (quiet.symm.trans receiving) Bool.false_ne_true
      · cases closed.symm.trans closewait
  | @moves next late next_late =>
    have alive : w.state ≠ .closed ∧ w.state ≠ .listen := by
      constructor <;> intro state <;> rw [state] at late <;> cases late
    refine still rfl (receives.quiet rfl (fun received => ⟨received, rfl⟩) (.inr (.inr ⟨alive, .inr next_late⟩)) id
      (fun _ => .inl late) (fun _ => .inl) (fun receive waiting => ?_) fun _ _ closewait => ?_)
    · have fills := receives.fills receive waiting
      exact ⟨fills.wanted, fills.counted, fills.bounded⟩
    · obtain rfl : next = .closewait := closewait
      cases next_late
  | @aborts next dies =>
    have ended : next = .closed ∨ (w.state ≠ .closed ∧ w.state ≠ .listen) ∧ w.state.stage = .late ∧ next.stage = .late := by
      refine dies.imp_right fun both => ⟨?_, both⟩
      constructor <;> intro state <;> rw [state] at both <;> cases both.1
    refine still rfl (receives.quiet rfl nofun ?_ id (fun late => ?_) (fun _ _ => .inl rfl) nofun fun _ _ closewait => ?_)
    · rcases ended with closed | ⟨alive, -, late⟩
      · exact .inr (.inl closed)
      · exact .inr (.inr ⟨alive, .inr late⟩)
    · rcases ended with rfl | ⟨-, late, -⟩
      · cases late
      · exact .inl late
    · obtain rfl : next = .closewait := closewait
      rcases ended with closed | ⟨-, -, late⟩
      · cases closed
      · cases late
  | @reads len enough state receiving available amount all =>
    have bounds : len ≤ w.receiveBuffer.getRecvBytes c ∧ len ≤ w.wanted := by
      rw [amount]
      split_ifs <;> constructor <;> bv_omega
    obtain ⟨receive, -⟩ := reading.receives receiving
    exact ⟨_, rfl, fun other => absurd receive other, receives.readsBytes reading sliding sound (.inl state) receiving bounds.1
      bounds.2 all fun closewait => by cases state.symm.trans closewait⟩
  | @readsRest len state receiving amount =>
    have bounds : len ≤ w.receiveBuffer.getRecvBytes c ∧ len ≤ w.wanted := by
      rw [amount]
      split_ifs <;> constructor <;> bv_omega
    obtain ⟨receive, -⟩ := reading.receives receiving
    refine ⟨_, rfl, fun other => absurd receive other, receives.readsBytes reading sliding sound (.inr state) receiving bounds.1
      bounds.2 (fun _ => rfl) fun _ => ?_⟩
    rw [amount]
    split_ifs
    · exact .inl rfl
    · exact .inr rfl

/-- Data and a FIN of the stream are taken. -/
theorem takesData (receives : Receives c v call listened copied w) (sliding : c.slidingWindowReceive = true) {position : Nat}
    (queues : v.Queues r position)
    (near : r.segment.seqLen = 0 ∨
      1 + copied.length ≤ position + 2 ^ 31 ∧ position + r.segment.seqLen ≤ 1 + copied.length + 2 ^ 31)
    (taking : w.state ≠ .closed ∧ w.state ≠ .listen) (plain : r.segment.plain) :
    v.Reads c copied (w.takes c r).receiveBuffer ∧ Ends v copied (w.takes c r) := by
  obtain ⟨reads, ends⟩ := receives.reads taking.1 taking.2
  have payload : r.payloadLen.toNat = r.segment.data.length := by
    have short := queues.short
    rw [queues.payloadLen, BitVec.toNat_ofNat, Nat.mod_eq_of_lt (by omega)]
  constructor
  · change v.Reads c copied (if 0 < r.payloadLen then _ else _)
    split_ifs with some
    · have nonempty : 0 < r.segment.data.length := payload ▸ BitVec.lt_def.mp some
      have near' : 1 + copied.length ≤ position + 2 ^ 31 ∧ position + r.segment.data.length ≤ 1 + copied.length + 2 ^ 31 := by
        unfold TcpSegment.seqLen at near
        omega
      cases inserted : w.receiveBuffer.insert c r r.segment.seqnum r.payloadLen with
      | none => exact reads
      | some b => exact reads.insert sliding queues nonempty near' inserted
    · exact reads
  · by_cases new : r.segment.fin = true ∧ w.finReceived = false
    · intro _
      cases queues.1 with
      | bare bare => exact absurd bare (by unfold TcpSegment.seqLen; rw [new.1, Bool.toNat_true]; dsimp only; omega)
      | syn _ _ fin _ _ => exact absurd (fin.symm.trans new.1) Bool.false_ne_true
      | data _ _ fin _ _ => exact absurd (fin.symm.trans new.1) Bool.false_ne_true
      | fin ended at_ syn fin data seqnum =>
        dsimp only at at_ fin data seqnum
        have length : r.segment.seqLen = 1 := by simp [TcpSegment.seqLen, plain.2, fin, data]
        refine ⟨ended, ?_, ?_⟩
        · change (if _ then _ else _) = _
          rw [if_pos (decide_eq_true new), queues.payloadLen, data, seqnum, at_, v.number, Stream.top, Nat.add_assoc]
          exact BitVec.add_zero _
        · omega
    · refine ends.of_fin (fun received => ?_) (le_refl _)
      have old : (decide (r.segment.fin = true ∧ w.finReceived = false)) = false := decide_eq_false new
      change (_ || w.finReceived) = true at received
      rw [old, Bool.false_or] at received
      refine ⟨received, ?_⟩
      change (if _ then _ else _) = _
      rw [if_neg (by rw [old]; exact Bool.false_ne_true)]

/-- A round with a segment of the stream. -/
theorem takes (receives : Receives c v call listened copied w) (sliding : c.slidingWindowReceive = true) (sound : v.Sound)
    {position : Nat} (queues : v.Queues r position)
    (near : r.segment.seqLen = 0 ∨
      1 + copied.length ≤ position + 2 ^ 31 ∧ position + r.segment.seqLen ≤ 1 + copied.length + 2 ^ 31)
    (first : w.state = .listen → r.segment.syn = true ∨ r.segment.rst = true)
    (listens : call = some .listen → w.state = .listen ∨ w.waiting = true) (waits : call = some .receive → w.waiting = true)
    (takes : ReceiveView.Takes c w r w') :
    w'.applicationRecv = w.applicationRecv ∧ Receives c v call listened copied w' := by
  have unopened : w.state = .established ∨ w.state.stage = .late →
      ¬(listened = false ∨ call = some .listen ∨ w.state = .listen) := by
    intro taking begins
    rcases (receives.pristine begins).state with closed | listening | synrcvd | ⟨opened, done⟩
    · rcases taking with state | late
      · cases closed.symm.trans state
      · cases (congrArg TcpState.stage closed).symm.trans late
    · rcases taking with state | late
      · cases listening.symm.trans state
      · cases (congrArg TcpState.stage listening).symm.trans late
    · rcases taking with state | late
      · cases synrcvd.symm.trans state
      · cases (congrArg TcpState.stage synrcvd).symm.trans late
    · rcases begins with fresh | listens' | listening
      · cases opened.symm.trans (receives.unopened fresh).1
      · rcases listens listens' with listening | waiting
        · cases opened.symm.trans listening
        · exact absurd (done.symm.trans waiting) Bool.false_ne_true
      · cases opened.symm.trans listening
  have alive : w.state = .established ∨ w.state.stage = .late → w.state ≠ .closed ∧ w.state ≠ .listen ∧ w.state ≠ .closewait := by
    intro taking
    refine ⟨?_, ?_, ?_⟩ <;> intro state <;> rw [state] at taking <;> rcases taking with same | same <;> cases same
  cases takes with
  | ignores => exact ⟨rfl, receives⟩
  | returns closed =>
    exact ⟨rfl, receives.quiet rfl (fun received => ⟨received, rfl⟩) (.inl rfl) id .inl (fun _ _ => .inl rfl) nofun
      fun _ _ closewait => by cases closed.symm.trans closewait⟩
  | aborts => exact ⟨rfl, receives.aborts id⟩
  | opens state =>
    exact ⟨rfl, receives.quiet rfl (fun received => ⟨received, rfl⟩)
      (.inr (.inr ⟨by simp [state], .inl ⟨rfl, rfl⟩⟩)) id nofun (fun _ _ => .inl rfl) nofun nofun⟩
  | @starts next state noRst leads =>
    have pristine := receives.pristine (.inr (.inr state))
    obtain ⟨memory, number, buffer⟩ := pristine.buffer
    have syn := (first state).resolve_right fun rst => Bool.false_ne_true (noRst.symm.trans rst)
    have seqnum : r.segment.seqnum = v.first := by
      cases queues.1 with
      | bare bare => exact absurd bare (by unfold TcpSegment.seqLen; rw [syn, Bool.toNat_true]; dsimp only; omega)
      | syn _ _ _ _ seqnum => exact seqnum
      | data _ other _ _ _ => exact absurd (other.symm.trans syn) Bool.false_ne_true
      | fin _ _ other _ _ _ => exact absurd (other.symm.trans syn) Bool.false_ne_true
    have buffer' : w.receiveBuffer.setFirstSeqNum (r.segment.seqnum + 1) = TcpReceiveBuffer.start c memory (v.first + 1) := by
      rw [buffer, seqnum]
      rfl
    have unread : next ≠ .synsent ∧ next ≠ .closewait ∧ (next = .listen ∨ next = .synrcvd) := by
      rcases leads with rfl | rfl <;> simp
    refine ⟨rfl, ⟨unread.1, fun fresh => ?_, fun begins => ⟨⟨memory, _, buffer'⟩, pristine.copied, pristine.fin, ?_⟩,
      fun _ _ => ?_, fun closewait => absurd closewait unread.2.1, receives.written, fun receive waiting => ?_,
      fun _ _ closewait => absurd closewait unread.2.1⟩⟩
    · cases state.symm.trans (receives.unopened fresh).1
    · exact unread.2.2.elim (fun listening => .inr (.inl listening)) fun synrcvd => .inr (.inr (.inl synrcvd))
    · refine ⟨?_, fun received => absurd (pristine.fin.symm.trans received) Bool.false_ne_true⟩
      change v.Reads c copied (w.receiveBuffer.setFirstSeqNum (r.segment.seqnum + 1))
      rw [buffer', pristine.copied]
      exact .start c v memory
    · have fills := receives.fills receive waiting
      exact ⟨fills.wanted, fills.counted, fills.bounded⟩
  | stores taking plain =>
    obtain ⟨open_, unheard, uncompleted⟩ := alive taking
    refine ⟨rfl, ⟨receives.passive, fun fresh => absurd (.inl fresh) (unopened taking),
      fun begins => absurd begins (unopened taking), fun _ _ => receives.takesData sliding queues near ⟨open_, unheard⟩ plain,
      fun closewait => absurd closewait uncompleted,
      receives.written, fun receive waiting => ?_, fun _ _ closewait => absurd closewait uncompleted⟩⟩
    have fills := receives.fills receive waiting
    exact ⟨fills.wanted, fills.counted, fills.bounded⟩
  | @completes next plain complete leads =>
    have taking : w.state = .established ∨ w.state.stage = .late := leads.imp And.left And.left
    obtain ⟨open_, unheard, -⟩ := alive taking
    obtain ⟨reads, ends⟩ := receives.takesData sliding queues near ⟨open_, unheard⟩ plain
    have next_passive : next ≠ .synsent ∧ next ≠ .listen := by
      constructor <;> rintro rfl <;> rcases leads with both | both <;> cases both.2
    have all : copied.length + total (w.takes c r).receiveBuffer.continuous = v.bytes.length ∧ v.ended := by
      obtain ⟨received, acknowledged⟩ := complete
      obtain ⟨ended, seqnum, near_top⟩ := ends received
      have represents := reads.represents sliding
      have stored := reads.stored_le sound receives.written
      rw [represents.ackNum, represents.recvBytes, seqnum] at acknowledged
      have same := Serial.ofNat_inj acknowledged (by unfold Stream.top; omega) (by unfold Stream.top; omega)
      unfold Stream.top at same
      exact ⟨by omega, ended⟩
    refine ⟨rfl, ⟨next_passive.1, fun fresh => absurd (.inl fresh) (unopened taking), fun begins => ?_, fun _ _ => ⟨reads, ends⟩,
      fun _ => ⟨all.2, all.1⟩, receives.written, fun receive waiting => ?_,
      fun receive done => absurd (done.symm.trans (waits receive)) Bool.false_ne_true⟩⟩
    · rcases begins with fresh | listens' | listening
      · exact absurd (.inl fresh) (unopened taking)
      · exact absurd (.inr (.inl listens')) (unopened taking)
      · exact absurd listening next_passive.2
    · have fills := receives.fills receive waiting
      exact ⟨fills.wanted, fills.counted, fills.bounded⟩

end Receives

end Stream

end IPStack
