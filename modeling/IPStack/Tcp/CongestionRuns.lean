import IPStack.Tcp.RetentionSteps
import IPStack.Tcp.WriteRuns

/-! The counter of the slow start over whole runs: when it counts all the bytes in flight. -/

namespace IPStack

open Serial TcpSocket Transition

/-- What the advice around `retransmit` adds to `outstanding_bytes`. -/
def TcpRecord.countedLen (r : TcpRecord) : BitVec 16 :=
  r.segment.headerLen.setWidth 16 * 4 + BitVec.ofNat 16 r.segment.data.length - r.segment.headerLen.setWidth 16

/-- A record that `updateHistory` keeps and whose timeout is over. -/
def TcpRecord.expired (e : Env) (unacked : SeqNum) (r : TcpRecord) : Prop :=
  ¬r.released e unacked ∧ r.isTimedOut e.now = true

instance (e : Env) (unacked : SeqNum) (r : TcpRecord) : Decidable (r.expired e unacked) := inferInstanceAs (Decidable (_ ∧ _))

namespace SlowStart

/-- The advice around the `retransmit` of a record. -/
def countAgain (w : SlowStart) (unacked : SeqNum) (r : TcpRecord) : SlowStart :=
  if r.segment.seqnum = unacked ∨ w.cwndOpened then { w with outstandingBytes := w.outstandingBytes + r.countedLen } else w

/-- The counter takes the retransmission of these records without wrapping. -/
def Takes (unacked : SeqNum) : SlowStart → List TcpRecord → Prop
  | _, [] => True
  | w, r :: rest =>
    (r.segment.seqnum = unacked ∨ w.cwndOpened → w.outstandingBytes.toNat + r.countedLen.toNat < 2 ^ 16) ∧
      Takes unacked (w.countAgain unacked r) rest

instance Takes.decidable (unacked : SeqNum) : (w : SlowStart) → (l : List TcpRecord) → Decidable (Takes unacked w l)
  | _, [] => inferInstanceAs (Decidable True)
  | w, r :: rest => @instDecidableAnd _ _ _ (Takes.decidable unacked (w.countAgain unacked r) rest)

theorem countAgain_outstanding {w : SlowStart} {unacked : SeqNum} {r : TcpRecord}
    (fits : r.segment.seqnum = unacked ∨ w.cwndOpened → w.outstandingBytes.toNat + r.countedLen.toNat < 2 ^ 16) :
    w.outstandingBytes.toNat ≤ (w.countAgain unacked r).outstandingBytes.toNat := by
  unfold countAgain
  split_ifs with counted
  · dsimp only
    rw [BitVec.toNat_add, Nat.mod_eq_of_lt (fits counted)]
    exact Nat.le_add_right _ _
  · exact Nat.le_refl _

end SlowStart

/-- The part of a socket that the bytes in flight and their counter are. -/
structure FlightView where
  state : TcpState
  seqnumNext : SeqNum
  seqnumUnacked : SeqNum
  outstandingBytes : BitVec 16
  retransmitting : Bool

namespace FlightView

def isOpen (v : FlightView) : Prop := v.state = .established ∨ v.state = .closewait

/-- The bytes between the first unacknowledged and the next sequence number. -/
def flight (v : FlightView) : Nat := gap v.seqnumUnacked v.seqnumNext

/-- In an open connection the counter has room for the bytes in flight, and outside of a
retransmission it counts them all. -/
structure Counted (v : FlightView) : Prop where
  listening : v.state = .listen → v.seqnumUnacked = v.seqnumNext
  opening : v.state = .synsent ∨ v.state = .synrcvd → v.flight = 1
  small : v.isOpen → v.flight < 2 ^ 16
  outstanding : v.isOpen → v.retransmitting = false → v.flight ≤ v.outstandingBytes.toNat

/-- In the other states nothing is asked. -/
theorem Counted.of_late {v : FlightView} (late : ¬v.isOpen) (quiet : v.state ≠ .listen ∧ v.state ≠ .synsent ∧ v.state ≠ .synrcvd) :
    v.Counted where
  listening listening := absurd listening quiet.1
  opening opening := opening.elim (fun sent => absurd sent quiet.2.1) (fun received => absurd received quiet.2.2)
  small opened := absurd opened late
  outstanding opened := absurd opened late

end FlightView

namespace TcpSocket

def flightView (s : TcpSocket) : FlightView where
  state := s.state
  seqnumNext := s.seqnumNext
  seqnumUnacked := s.seqnumUnacked
  outstandingBytes := s.slowStart.outstandingBytes
  retransmitting := s.retransmitting

/-- The records that the next `updateHistory` calls `retransmit` for. -/
def expiredRecords (e : Env) (s : TcpSocket) : List TcpRecord := s.history.filter (·.expired e s.seqnumUnacked)

/-- The first unacknowledged segment is retransmitted. -/
def recovers (c : Config) (e : Env) (s : TcpSocket) : Prop :=
  c.retransmissionTracker = true ∧ ∃ r ∈ s.expiredRecords e, r.segment.seqnum = s.seqnumUnacked

instance (c : Config) (e : Env) (s : TcpSocket) : Decidable (s.recovers c e) := inferInstanceAs (Decidable (_ ∧ _))

/-- The retransmissions of an open connection leave no byte in flight uncounted: the counter
is cleared only when everything is acknowledged, and unless the retransmission begins it
does not wrap. -/
def RecountsFlight (c : Config) (e : Env) (s : TcpSocket) : Prop :=
  s.isOpen → (c.retransmissionTracker = true ∧ s.history = [] → s.seqnumUnacked = s.seqnumNext) ∧
    (s.retransmitting = true ∨ s.recovers c e ∨ s.slowStart.Takes s.seqnumUnacked (s.expiredRecords e))

instance (c : Config) (e : Env) (s : TcpSocket) : Decidable (s.RecountsFlight c e) := inferInstanceAs (Decidable (_ → _))

variable {c : Config} {e : Env} {s s' : TcpSocket}

/-! ### Retransmissions -/

theorem setRetransmitting_retransmitting (c : Config) (s : TcpSocket) : (s.setRetransmitting c).retransmitting = true := rfl

theorem retransmitCounted_keeps (c : Config) (e : Env) (s : TcpSocket) (record : TcpRecord) :
    (s.retransmitCounted c e record).1.slowStart = s.slowStart ∧
      (s.retransmitCounted c e record).1.retransmitting = s.retransmitting := by
  unfold retransmitCounted retransmitBuffer send
  split_ifs <;> exact ⟨rfl, rfl⟩

theorem retransmitSlowStart_counts (slowStart : c.slowStart = true) (e : Env) (s : TcpSocket) (record : TcpRecord) :
    (s.retransmitSlowStart c e record).1.retransmitting = s.retransmitting ∧
      (s.retransmitSlowStart c e record).1.slowStart = s.slowStart.countAgain s.seqnumUnacked record := by
  unfold retransmitSlowStart SlowStart.countAgain
  rw [if_pos slowStart]
  split_ifs
  · have keeps := retransmitCounted_keeps c e
      { s with slowStart := { s.slowStart with outstandingBytes := s.slowStart.outstandingBytes + record.countedLen } } record
    exact ⟨keeps.2, keeps.1⟩
  · exact ⟨rfl, rfl⟩

/-- Either the retransmission begins, or the bytes of the record are counted again. -/
theorem retransmit_counts (slowStart : c.slowStart = true) (e : Env) (s : TcpSocket) (record : TcpRecord) :
    if c.retransmissionTracker ∧ record.segment.seqnum = s.seqnumUnacked then
      (s.retransmit c e record).1.retransmitting = true
    else
      (s.retransmit c e record).1.retransmitting = s.retransmitting ∧
        (s.retransmit c e record).1.slowStart = s.slowStart.countAgain s.seqnumUnacked record := by
  unfold retransmit
  split_ifs with first
  · exact (retransmitSlowStart_counts slowStart e _ record).1.trans (setRetransmitting_retransmitting c s)
  · exact retransmitSlowStart_counts slowStart e s record

/-- What every `retransmit` keeps, and the one of the first unacknowledged segment brings about,
holds behind the loop of `updateHistory`. -/
theorem updateRecords_recovers {P : TcpSocket → Prop} (frees : ∀ s m, P s → P { s with mempool := m })
    (keeps : ∀ s record, P s → P (s.retransmit c e record).1)
    (begins : ∀ (s : TcpSocket) (record : TcpRecord), record.segment.seqnum = s.seqnumUnacked → P (s.retransmit c e record).1)
    (s : TcpSocket) (h : TcpHistory)
    (again : P s ∨ ∃ r ∈ h.filter (·.expired e s.seqnumUnacked), r.segment.seqnum = s.seqnumUnacked) :
    P (updateRecords c e true s h).1 := by
  induction h generalizing s with
  | nil => simpa [updateRecords] using again
  | cons record rest ih =>
    unfold updateRecords
    split_ifs with released timedOut
    · refine ih _ (again.imp (frees s _) fun first => ?_)
      rwa [List.filter_cons_of_neg (by simp [TcpRecord.expired, released])] at first
    · have unacked := (retransmit_spec c e s record).frame.seqnumUnacked
      have due : record.expired e s.seqnumUnacked := ⟨released, timedOut.2⟩
      rw [List.filter_cons_of_pos (by simpa using due)] at again
      refine ih _ ?_
      rw [unacked]
      rcases again with holds | ⟨r, member, atUnacked⟩
      · exact .inl (keeps s record holds)
      · rcases List.mem_cons.mp member with rfl | later
        · exact .inl (begins s r atUnacked)
        · exact .inr ⟨r, later, atUnacked⟩
    · have kept : ¬record.expired e s.seqnumUnacked := fun due => timedOut ⟨rfl, due.2⟩
      rw [List.filter_cons_of_neg (by simpa using kept)] at again
      exact ih _ again

/-- A retransmission does not end in the loop of `updateHistory`. -/
theorem updateRecords_retransmitting (slowStart : c.slowStart = true) (e : Env) (s : TcpSocket) (h : TcpHistory)
    (again : s.retransmitting = true ∨
      c.retransmissionTracker = true ∧ ∃ r ∈ h.filter (·.expired e s.seqnumUnacked), r.segment.seqnum = s.seqnumUnacked) :
    (updateRecords c e true s h).1.retransmitting = true := by
  have keeps : ∀ (s : TcpSocket) record, s.retransmitting = true → (s.retransmit c e record).1.retransmitting = true := by
    intro s record holds
    have counts := retransmit_counts slowStart e s record
    split_ifs at counts
    · exact counts
    · exact counts.1.trans holds
  cases tracks : c.retransmissionTracker with
  | false =>
    have was : s.retransmitting = true := again.resolve_right fun first => absurd (tracks.symm.trans first.1) Bool.false_ne_true
    exact updateRecords_keeps (fun _ _ => id) keeps s h was
  | true =>
    refine updateRecords_recovers (fun _ _ => id) keeps (fun s record first => ?_) s h (again.imp_right And.right)
    have counts := retransmit_counts slowStart e s record
    rwa [if_pos ⟨tracks, first⟩] at counts

/-- Without a wrap the counter does not fall while the records are retransmitted. -/
theorem updateRecords_outstanding (slowStart : c.slowStart = true) (e : Env) (s : TcpSocket) (h : TcpHistory)
    (takes : s.slowStart.Takes s.seqnumUnacked (h.filter (·.expired e s.seqnumUnacked))) :
    (updateRecords c e true s h).1.retransmitting = true ∨
      s.slowStart.outstandingBytes ≤ (updateRecords c e true s h).1.slowStart.outstandingBytes := by
  induction h generalizing s with
  | nil => exact .inr (Nat.le_refl _)
  | cons record rest ih =>
    unfold updateRecords
    split_ifs with released timedOut
    · rw [List.filter_cons_of_neg (by simp [TcpRecord.expired, released])] at takes
      exact ih { s with mempool := s.mempool.free record.block } takes
    · have counts := retransmit_counts slowStart e s record
      have unacked := (retransmit_spec c e s record).frame.seqnumUnacked
      have due : record.expired e s.seqnumUnacked := ⟨released, timedOut.2⟩
      rw [List.filter_cons_of_pos (by simpa using due)] at takes
      obtain ⟨fits, later⟩ := takes
      split_ifs at counts with first
      · exact .inl (updateRecords_retransmitting slowStart e _ rest (.inl counts))
      · rw [← counts.2, ← unacked] at later
        refine (ih (s.retransmit c e record).1 later).imp_right fun more => Nat.le_trans ?_ more
        rw [counts.2]
        exact SlowStart.countAgain_outstanding fits
    · have kept : ¬record.expired e s.seqnumUnacked := fun due => timedOut ⟨rfl, due.2⟩
      rw [List.filter_cons_of_neg (by simpa using kept)] at takes
      exact ih s takes

/-- Where nothing is cleared, a retransmission goes on or begins, or the counter does not fall. -/
theorem updateHistoryBody_outstanding (slowStart : c.slowStart = true) (interface : e.interface = true)
    (kept : ¬(c.retransmissionTracker = true ∧ s.history = []))
    (takes : s.retransmitting = true ∨ s.recovers c e ∨ s.slowStart.Takes s.seqnumUnacked (s.expiredRecords e)) :
    (s.updateHistoryBody c e true).retransmitting = true ∨ s.retransmitting = false ∧
      s.slowStart.outstandingBytes ≤ (s.updateHistoryBody c e true).slowStart.outstandingBytes := by
  unfold updateHistoryBody
  simp only [interface, if_true, kept, if_false]
  cases was : s.retransmitting with
  | true => exact .inl (updateRecords_retransmitting slowStart e s s.history (.inl was))
  | false =>
    rcases takes with again | recovers | takes
    · exact absurd (was.symm.trans again) Bool.false_ne_true
    · exact .inl (updateRecords_retransmitting slowStart e s s.history (.inr recovers))
    · exact (updateRecords_outstanding slowStart e s s.history takes).imp_right fun more => ⟨rfl, more⟩

/-! ### Acknowledgements -/

theorem setSeqnumUnacked_slowStart (slowStart : c.slowStart = true) (e : Env) (s : TcpSocket) (acknum : SeqNum) :
    (s.setSeqnumUnacked c e acknum).slowStart = s.slowStart.acknowledge s.mss acknum s.seqnumUnacked := by
  unfold setSeqnumUnacked
  rw [if_pos slowStart]
  dsimp only
  split_ifs <;> rfl

/-- An acknowledgement takes the acknowledged bytes off the counter, which stops at zero. -/
theorem acknowledge_outstanding {w : SlowStart} {mss : BitVec 32} {acknum unacked : SeqNum}
    (small : gap unacked acknum < 2 ^ 16) :
    (w.acknowledge mss acknum unacked).outstandingBytes.toNat = w.outstandingBytes.toNat - gap unacked acknum := by
  have acked : ((acknum - unacked).setWidth 16).toNat = gap unacked acknum := by
    rw [BitVec.toNat_setWidth]
    exact Nat.mod_eq_of_lt small
  have next : (w.acknowledge mss acknum unacked).outstandingBytes =
      if (acknum - unacked).setWidth 16 < w.outstandingBytes then w.outstandingBytes - (acknum - unacked).setWidth 16 else 0 := rfl
  rw [next]
  split_ifs with less
  · rw [BitVec.toNat_sub_of_le (Nat.le_of_lt less), acked]
  · rw [BitVec.lt_def, acked] at less
    exact (Nat.sub_eq_zero_of_le (Nat.le_of_not_lt less)).symm

theorem handleAck_outstanding (slowStart : c.slowStart = true) (e : Env) (acknum : SeqNum)
    (small : gap s.seqnumUnacked s.seqnumNext < 2 ^ 16) :
    s.handleAck c e acknum = s ∨ (s.handleAck c e acknum).seqnumUnacked = acknum ∧
      gap acknum s.seqnumNext < gap s.seqnumUnacked s.seqnumNext ∧
      (s.handleAck c e acknum).slowStart.outstandingBytes.toNat =
        s.slowStart.outstandingBytes.toNat - (gap s.seqnumUnacked s.seqnumNext - gap acknum s.seqnumNext) := by
  rcases handleAck_cases c e s acknum (by omega) with same | ⟨acked, closer⟩
  · exact .inl same
  · refine .inr ⟨acked, closer, ?_⟩
    have taken : s.handleAck c e acknum = s.setSeqnumUnacked c e acknum := by
      unfold handleAck at acked ⊢
      split_ifs at acked ⊢
      · rw [acked] at closer
        exact absurd closer (Nat.lt_irrefl _)
      · rw [acked] at closer
        exact absurd closer (Nat.lt_irrefl _)
      · rfl
    have between := gap_of_le s.seqnumUnacked acknum s.seqnumNext (Nat.le_of_lt closer)
    rw [taken, setSeqnumUnacked_slowStart slowStart, acknowledge_outstanding (by omega), between]

end TcpSocket

namespace FlightView.Counted

variable {c : Config} {d : Round} {e : Env} {s : TcpSocket}

/-! ### Actions -/

theorem update (counted : s.flightView.Counted) (slowStart : c.slowStart = true) (interface : e.interface = true)
    (alive : (s.updateHistoryBody c e true).state = s.state) (recounts : s.RecountsFlight c e) :
    (s.updateHistoryBody c e true).flightView.Counted := by
  have updated := updateHistoryBody_updated (c := c) interface s true
  have next : (s.updateHistoryBody c e true).seqnumNext = s.seqnumNext := by rw [updated.frame]
  have unacked : (s.updateHistoryBody c e true).seqnumUnacked = s.seqnumUnacked := by rw [updated.frame]
  have flight : (s.updateHistoryBody c e true).flightView.flight = s.flightView.flight := by
    simp only [FlightView.flight, flightView, next, unacked]
  constructor
  case listening =>
    intro listening
    change (s.updateHistoryBody c e true).seqnumUnacked = (s.updateHistoryBody c e true).seqnumNext
    rw [next, unacked]
    exact counted.listening (alive.symm.trans listening)
  case opening =>
    intro opening
    rw [flight]
    refine counted.opening ?_
    change s.state = .synsent ∨ s.state = .synrcvd
    rwa [← alive]
  case small =>
    intro opened
    rw [flight]
    refine counted.small ?_
    change s.state = .established ∨ s.state = .closewait
    rwa [← alive]
  case outstanding =>
    intro opened quiet
    have open' : s.isOpen := by
      unfold TcpSocket.isOpen
      rwa [← alive]
    obtain ⟨cleared, takes⟩ := recounts open'
    rw [flight]
    by_cases clears : c.retransmissionTracker = true ∧ s.history = []
    · have nothing : s.flightView.flight = 0 := gap_eq_zero.mpr (cleared clears)
      omega
    · rcases updateHistoryBody_outstanding slowStart interface clears takes with again | ⟨was, more⟩
      · exact absurd (quiet.symm.trans again) Bool.false_ne_true
      · exact Nat.le_trans (counted.outstanding open' was) more

theorem ack (counted : s.flightView.Counted) (slowStart : c.slowStart = true) (opened : s.isOpen) (acknum : SeqNum) :
    (s.handleAck c e acknum).flightView.Counted := by
  have view : (s.handleAck c e acknum).flightView = { s.flightView with
      seqnumUnacked := (s.handleAck c e acknum).seqnumUnacked
      outstandingBytes := (s.handleAck c e acknum).slowStart.outstandingBytes } := by
    conv_lhs => rw [handleAck_eq]
    rfl
  rcases handleAck_outstanding slowStart e acknum (counted.small opened) with same | ⟨acked, closer, outstanding⟩
  · exact same.symm ▸ counted
  · rw [view, acked]
    constructor
    case listening => exact fun listening => by rcases opened with state | state <;> simp_all [flightView]
    case opening => exact fun opening => by rcases opened with state | state <;> simp_all [flightView]
    case small => exact fun _ => Nat.lt_trans closer (counted.small opened)
    case outstanding =>
      intro _ quiet
      have before := counted.outstanding opened quiet
      change gap acknum s.seqnumNext ≤ (s.handleAck c e acknum).slowStart.outstandingBytes.toNat
      change gap s.seqnumUnacked s.seqnumNext ≤ s.slowStart.outstandingBytes.toNat at before
      omega

/-- The socket that a round without a SYN starts from. -/
theorem acked (counted : s.flightView.Counted) (slowStart : c.slowStart = true) (segment : TcpSegment) :
    (s.ackedBy c e segment).flightView.Counted := by
  unfold ackedBy
  split_ifs with accepts
  · by_cases opened : s.isOpen
    · exact counted.ack slowStart opened segment.acknum
    · have state : (s.handleAck c e segment.acknum).state = s.state := by rw [handleAck_eq]
      have late := accepts.1.resolve_left opened
      refine .of_late ?_ ?_
      · change ¬((s.handleAck c e segment.acknum).state = .established ∨ (s.handleAck c e segment.acknum).state = .closewait)
        rwa [state]
      · change (s.handleAck c e segment.acknum).state ≠ .listen ∧ (s.handleAck c e segment.acknum).state ≠ .synsent ∧
          (s.handleAck c e segment.acknum).state ≠ .synrcvd
        rw [state]
        rcases late with late | late | late <;> simp [late]
  · exact counted

theorem of_closed {v : FlightView} (closed : v.state = .closed) : v.Counted :=
  .of_late (by simp [FlightView.isOpen, closed]) (by simp [closed])

/-- The states behind the handshake in which nothing new is sent. -/
theorem closing {v : FlightView} (state : v.state = .closing ∨ v.state = .timewait ∨ v.state = .finwait2 ∨
    v.state = .finwait1 ∨ v.state = .lastack) : v.Counted := by
  rcases state with state | state | state | state | state <;>
    exact .of_late (by simp [FlightView.isOpen, state]) (by simp [state])

theorem synchronizing {v : FlightView} (opening : v.state = .synsent ∨ v.state = .synrcvd) (one : v.flight = 1) : v.Counted where
  listening listening := by rcases opening with state | state <;> simp [state] at listening
  opening _ := one
  small _ := by omega
  outstanding opened := by rcases opening with state | state <;> simp [FlightView.isOpen, state] at opened

/-- A new connection with everything acknowledged. -/
theorem established {v : FlightView} (state : v.state = .established) (acked : v.seqnumUnacked = v.seqnumNext) : v.Counted := by
  have nothing : v.flight = 0 := gap_eq_zero.mpr acked
  constructor
  case listening => simp [state]
  case opening => simp [state]
  case small => exact fun _ => by omega
  case outstanding => exact fun _ _ => by omega

theorem send (counted : s.flightView.Counted) (slowStart : c.slowStart = true) (opened : s.isOpen)
    (quiet : s.retransmitting = false) (window : s.sendWindow ≠ 0) {len : BitVec 32}
    (fits : s.slowStart.outstandingBytes.toNat + len.toNat < 2 ^ 16) (block : Nat) :
    (s.sendSegmentIn c e block len).flightView.Counted := by
  have view : (s.sendSegmentIn c e block len).flightView = { s.flightView with
      seqnumNext := s.seqnumNext + len, outstandingBytes := s.slowStart.outstandingBytes + len.setWidth 16 } := by
    unfold sendSegmentIn lowerSendWindow
    dsimp only
    rw [if_pos window]
    split_ifs <;> rfl
  have before : gap s.seqnumUnacked s.seqnumNext ≤ s.slowStart.outstandingBytes.toNat := counted.outstanding opened quiet
  have flight : gap s.seqnumUnacked (s.seqnumNext + len) = gap s.seqnumUnacked s.seqnumNext + len.toNat := by
    have sum := gap_add_right s.seqnumUnacked s.seqnumNext (n := len.toNat) (by omega)
    rwa [BitVec.ofNat_toNat, BitVec.setWidth_eq] at sum
  have sum : (s.slowStart.outstandingBytes + len.setWidth 16).toNat = s.slowStart.outstandingBytes.toNat + len.toNat := by
    rw [BitVec.toNat_add, BitVec.toNat_setWidth, Nat.add_mod_mod]
    exact Nat.mod_eq_of_lt fits
  rw [view]
  constructor
  case listening => exact fun listening => by rcases opened with state | state <;> simp_all [flightView]
  case opening => exact fun opening => by rcases opened with state | state <;> simp_all [flightView]
  case small =>
    intro _
    change gap s.seqnumUnacked (s.seqnumNext + len) < 2 ^ 16
    omega
  case outstanding =>
    intro _ _
    change gap s.seqnumUnacked (s.seqnumNext + len) ≤ (s.slowStart.outstandingBytes + len.setWidth 16).toNat
    omega

end FlightView.Counted

/-- The segment is no zero window probe, and the counter takes its bytes without wrapping. -/
def SendAttempt.CountsFlight (a : SendAttempt) : Prop :=
  a.before.sendWindow ≠ 0 ∧ a.before.slowStart.outstandingBytes.toNat + a.len.toNat < 2 ^ 16

instance (a : SendAttempt) : Decidable a.CountsFlight := inferInstanceAs (Decidable (_ ∧ _))

structure Round.CountsFlight (c : Config) (d : Round) : Prop where
  sends : ∀ a, d.Attempts c a → a.sends c = true → a.CountsFlight
  recounts : d.again = true → d.env.interface = true → d.start.RecountsFlight c d.env

namespace FlightView.Counted

variable {c : Config} {d : Round} {s : TcpSocket}

theorem synrcvdAck (counted : s.flightView.Counted) (state : s.state = .synrcvd) (segment : TcpSegment) :
    (s.synrcvdAck c d.env segment).flightView.Counted := by
  have next : (s.handleAck c d.env segment.acknum).seqnumNext = s.seqnumNext := by rw [handleAck_eq]
  rcases synrcvdAck_cases c d.env (counted.opening (.inr state)) segment with same | ⟨all, acked⟩
  · exact same.symm ▸ counted
  · unfold TcpSocket.synrcvdAck
    dsimp only
    rw [if_pos (by rw [next, all])]
    exact established rfl (acked.trans next.symm)

theorem action (slowStart : c.slowStart = true) (round : d.CountsFlight c) {x y : Bool × TcpSocket} (action : Action c d x y)
    (counted : x.2.flightView.Counted) : y.2.flightView.Counted := by
  cases action with
  | abort reason => exact .of_closed rfl
  | @update h s doRetransmit runs interface alive first cleans =>
    cases doRetransmit with
    | true =>
      obtain ⟨again, rfl⟩ := first rfl
      exact counted.update slowStart interface alive (round.recounts again interface)
    | false =>
      dsimp only
      rw [updateHistoryBody_false interface (cleans rfl)]
      exact counted
  | kill runs interface aborts same overdue => exact .of_closed rfl
  | lose runs interface => exact counted
  | @refuse h s refused =>
    have view : (s.requestSendBuffer d.env).2.flightView = s.flightView := by
      rw [requestSendBuffer_historyOnly d.env s]
      rfl
    exact view.symm ▸ counted
  | @send h s len isOpen waiting sending left amount room granted attempt =>
    obtain ⟨a, attempts, rfl, sent, only, -⟩ := attempt
    have window : a.before.sendWindow = s.sendWindow := by rw [only]
    have outstanding : a.before.slowStart = s.slowStart := by rw [only]
    have fits := round.sends a attempts sent
    unfold SendAttempt.CountsFlight at fits
    rw [window, outstanding] at fits
    have quiet : s.retransmitting = false := by
      rcases amount with ⟨-, positive⟩ | ⟨-, zero, -⟩
      · unfold getSendWindow at positive
        rw [if_pos slowStart] at positive
        split_ifs at positive with open'
        · exact open'.2
        · exact absurd positive (by decide)
      · exact absurd zero fits.1
    exact send (s := s.allocated) counted slowStart isOpen quiet fits.1 fits.2 _
  | sendSyn closed fresh window rto room granted => exact .synchronizing (.inl rfl) (Retaining.gap_succ fresh.symm)
  | answerSyn listening room granted => exact .synchronizing (.inr rfl) (Retaining.gap_succ (counted.listening listening))
  | @sendFin h s isOpen room granted =>
    have late : (s.allocated.closeIn c d.env s.mempool.nextBlock).flightView.state = .lastack ∨
        (s.allocated.closeIn c d.env s.mempool.nextBlock).flightView.state = .finwait1 :=
      closeIn_late c d.env s.allocated s.mempool.nextBlock
    exact .closing (by rcases late with late | late <;> simp [late])
  | @resend h s r state input repeated waiting =>
    dsimp only
    rw [resendFirst_eq]
    exact counted
  | @setMss h s mss state =>
    dsimp only
    rw [setMss_eq]
    rcases state with state | state
    · exact ⟨counted.listening, counted.opening, fun opened => by simp [FlightView.isOpen, flightView, state] at opened,
        fun opened => by simp [FlightView.isOpen, flightView, state] at opened⟩
    · exact .synchronizing (.inl state) (counted.opening (.inl state))
  | @refuseSynAck h s r state input other =>
    rcases handleAck_opening (c := c) (e := d.env) (counted.opening (.inl state)) r.segment.acknum with same | ⟨-, acked⟩
    · exact same.symm ▸ counted
    · exact absurd acked other
  | @synAck h s r state input ack syn waiting acked =>
    refine established rfl (acked.trans ?_)
    change s.seqnumNext = (s.handleAck c d.env r.segment.acknum).seqnumNext
    rw [handleAck_eq]
  | @simultaneous h s r state input syn noAck waiting requests =>
    rcases synsentSimultaneous_cases c d.env s r.segment with ⟨-, eq⟩ | ⟨-, eq⟩ <;> dsimp only <;> rw [eq]
    · exact .synchronizing (.inr rfl) (counted.opening (.inl state))
    · rw [requestSendBuffer_historyOnly d.env (s.crossed r.segment)]
      exact counted
  | synrcvdAck state input accepted waiting => exact counted.synrcvdAck state _
  | @fin h s r input state plain =>
    dsimp only
    rw [handleFin_eq]
    exact counted
  | @window h s r input isOpen plain same =>
    dsimp only
    unfold updateSendWindow
    split_ifs <;> exact counted
  | @peerClosed h s state complete =>
    exact ⟨by simp [flightView], by simp [flightView], fun _ => counted.small (.inl state), fun _ => counted.outstanding (.inl state)⟩
  | bothClosed state complete => exact closing (.inl rfl)
  | lastClosed complete state => exact closing (.inr (.inl rfl))
  | finAcked empty state => exact closing (.inr (.inr (.inl rfl)))
  | closingAcked empty state => exact closing (.inr (.inl rfl))
  | @arrive h s segment size start arrival =>
    dsimp only
    unfold addToReceiveQueue
    split_ifs
    · exact counted
    · dsimp only
      split <;> exact counted
  | @listen h s closed =>
    dsimp only
    unfold listenBase
    rw [if_pos closed]
    obtain ⟨fresh, -, -⟩ := genInitialSeqnum_fresh c d.env s
    exact ⟨fun _ => fresh.symm, by simp [flightView], by simp [FlightView.isOpen, flightView], by simp [FlightView.isOpen, flightView]⟩
  | @initConnect h s closed =>
    exact .of_closed ((genInitialSeqnum_fresh c d.env s).2.1.trans closed)
  | @readRest h s state receiving =>
    dsimp only
    unfold closewaitReceive
    dsimp only
    split_ifs <;> exact counted
  | _ => exact counted

end FlightView.Counted

namespace TcpSocket

variable {c : Config} {e : Env} {s s' : TcpSocket}

/-! ### Sending -/

/-- A segment that the open window lets through starts within the congestion window. -/
theorem within_cwnd (slowStart : c.slowStart = true) (counted : s.flightView.Counted) (opened : s.isOpen)
    (window : 0 < s.getSendWindow c) : s.retransmitting = false ∧ gap s.seqnumUnacked s.seqnumNext < s.slowStart.cwnd.toNat := by
  unfold getSendWindow at window
  rw [if_pos slowStart] at window
  split_ifs at window with free
  · have below : s.slowStart.outstandingBytes.toNat < s.slowStart.cwnd.toNat := by
      have less := free.1
      unfold SlowStart.cwndOpened at less
      simp only [decide_eq_true_eq, BitVec.lt_def, BitVec.toNat_setWidth] at less
      have := s.slowStart.outstandingBytes.isLt
      omega
    exact ⟨free.2, Nat.lt_of_le_of_lt (counted.outstanding opened free.2) below⟩
  · exact absurd window (by decide)

/-- The attempts of one run of `processSendData`. -/
theorem Sends.within_cwnd {l : List SendAttempt} (slowStart : c.slowStart = true) (sends : Sends c e s l s') (opened : s.isOpen)
    (counted : s.flightView.Counted) (counts : ∀ a ∈ l, a.sends c = true → a.CountsFlight) : ∀ a ∈ l, a.sends c = true →
      gap a.before.seqnumUnacked a.before.seqnumNext < a.before.slowStart.cwnd.toNat := by
  induction sends with
  | done => simp
  | refused due refused =>
    intro a member sent
    rw [List.mem_singleton.mp member] at sent
    exact absurd (refused.symm.trans sent) Bool.false_ne_true
  | @sent s s' len l due sent rest ih =>
    have alive : s.state ≠ .closed := by rcases opened with state | state <;> simp [state]
    have first := counts ⟨e, s, len⟩ (List.mem_cons_self ..) sent
    have window : 0 < s.getSendWindow c := due.2.elim (·.2) fun probe => absurd probe.2 first.1
    obtain ⟨quiet, within⟩ := TcpSocket.within_cwnd slowStart counted opened window
    obtain ⟨s₁, block, only, next⟩ := sendSegment_in alive sent
    obtain ⟨segment, sending⟩ := sendSegment_sent alive sent
    unfold HistoryOnly at only
    have later : (s.sendSegment c e len).2.flightView.Counted := by
      rw [next, only]
      exact FlightView.Counted.send (s := { s with history := s₁.history, mempool := s₁.mempool }) counted slowStart opened quiet
        first.1 first.2 block
    intro a member sends
    rcases List.mem_cons.mp member with rfl | inRest
    · exact within
    · refine ih ?_ later (fun a member => counts a (List.mem_cons_of_mem _ member)) a inRest sends
      unfold TcpSocket.isOpen
      rwa [sending.state]

end TcpSocket

namespace Machine

variable {c : Config} {e : Env} {m : Machine} {memory : TcpSocket}

/-- The calls of `sendSegment` of a step. -/
theorem round_attempts {event : Event} {a : SendAttempt} :
    (m.round c e event).Attempts c a ↔ a ∈ event.sendAttempts c e m := by
  cases event with
  | tick =>
    unfold Event.sendAttempts Machine.sendAttempts Round.Attempts
    rw [round_env]
    cases calls : m.inputOf e with
    | none =>
      have round : (m.round c e .tick).idle = false := by simp only [Machine.round, calls]
      simp [round]
    | some input =>
      obtain ⟨s, segment⟩ := input
      cases segment with
      | some r =>
        have round : (m.round c e .tick).idle = false := by simp only [Machine.round, calls]
        simp [round]
      | none =>
        have round : (m.round c e .tick).idle = true ∧ (m.round c e .tick).start = s := by
          simp only [Machine.round, calls, and_self]
        rw [round.1, round.2]
        dsimp only
        cases s.sendingSocket c e <;> simp
  | _ => simp [Event.sendAttempts, Round.Attempts, Machine.round]

/-- Data is sent in the rounds of a waiting `write` only. -/
theorem sendAttempts_cases (c : Config) (e : Env) (m : Machine) (event : Event) : event.sendAttempts c e m = [] ∨
    event = .tick ∧ m.inputOf e = some (m.sock, none) ∧
      ∃ s₁, m.sock.sendingSocket c e = some s₁ ∧ event.sendAttempts c e m = s₁.sendAttempts c e := by
  cases event with
  | tick =>
    unfold Event.sendAttempts Machine.sendAttempts
    cases calls : m.inputOf e with
    | none => exact .inl rfl
    | some input =>
      obtain ⟨s, segment⟩ := input
      cases segment with
      | some r => exact .inl rfl
      | none =>
        obtain rfl := inputOf_none calls
        dsimp only
        cases sending : m.sock.sendingSocket c e with
        | none => exact .inl rfl
        | some s₁ => exact .inr ⟨rfl, rfl, s₁, rfl, rfl⟩
  | _ => exact .inl rfl

/-- Every new data segment starts within the congestion window. -/
def RespectsCwnd (c : Config) (m : Machine) (a : Env × Event) : Prop :=
  ∀ attempt ∈ a.2.sendAttempts c a.1 m, attempt.sends c = true →
    gap attempt.before.seqnumUnacked attempt.before.seqnumNext < attempt.before.slowStart.cwnd.toNat

/-- Outside of a retransmission `outstanding_bytes` counts all the bytes in flight. -/
def CountsOutstanding (m : Machine) : Prop :=
  m.sock.isOpen → m.sock.retransmitting = false →
    gap m.sock.seqnumUnacked m.sock.seqnumNext ≤ m.sock.slowStart.outstandingBytes.toNat

/-- The step counts the bytes it sends, and its retransmissions leave no byte uncounted. -/
def countsFlight (c : Config) (m : Machine) (a : Env × Event) : Prop :=
  (∀ attempt ∈ a.2.sendAttempts c a.1 m, attempt.sends c = true → attempt.CountsFlight) ∧
    ((m.round c a.1 a.2).again = true → a.1.interface = true → (m.round c a.1 a.2).start.RecountsFlight c a.1)

instance (c : Config) (m : Machine) (a : Env × Event) : Decidable (RespectsCwnd c m a) :=
  inferInstanceAs (Decidable (∀ _ ∈ _, _ → _))
instance (m : Machine) : Decidable m.CountsOutstanding := inferInstanceAs (Decidable (_ → _ → _))
instance (c : Config) (m : Machine) (a : Env × Event) : Decidable (countsFlight c m a) :=
  inferInstanceAs (Decidable (_ ∧ _))

theorem countsFlight_round {a : Env × Event} (counts : countsFlight c m a) : (m.round c a.1 a.2).CountsFlight c where
  sends attempt attempts := counts.1 attempt (round_attempts.mp attempts)
  recounts := by
    rw [round_env]
    exact counts.2

theorem step_counted (slowStart : c.slowStart = true) {a : Env × Event} (counted : m.sock.flightView.Counted)
    (counts : countsFlight c m a) : (m.step c a).sock.flightView.Counted := by
  obtain ⟨e, event⟩ := a
  refine step_keeps (P := fun x => x.2.flightView.Counted) (fun _ => counted) ?_
    (fun x y action => FlightView.Counted.action slowStart (countsFlight_round counts) action)
  intro r rest dport tick queued input start
  rw [start]
  exact FlightView.Counted.acked (s := taking m.sock rest dport) counted slowStart r.segment

theorem step_respectsCwnd (slowStart : c.slowStart = true) {a : Env × Event} (counted : m.sock.flightView.Counted)
    (counts : countsFlight c m a) : RespectsCwnd c m a := by
  obtain ⟨e, event⟩ := a
  intro attempt member
  rcases sendAttempts_cases c e m event with none | ⟨rfl, calls, s₁, sending, all⟩
  · exact absurd (none ▸ member) (List.not_mem_nil)
  · have attempts := counts.1
    rw [all] at member attempts
    have idles := round_idles (c := c) calls
    have round := countsFlight_round counts
    have calling : m.sock.sendingSocket c (m.round c e .tick).env = some s₁ := by rwa [round_env]
    have acted := idles.sendingSocket_actions calling
    have opened : s₁.isOpen := by
      unfold TcpSocket.isOpen
      rw [acted.2]
      exact (sendingSocket_waiting sending).1
    have counted₁ : s₁.flightView.Counted := by
      have follow : ∀ x y, Actions c (m.round c e .tick) x y → x.2.flightView.Counted → y.2.flightView.Counted := by
        intro x y actions holds
        induction actions with
        | refl => exact holds
        | tail _ action ih => exact .action slowStart round action ih
      exact follow _ _ acted.1 counted
    exact (processSendData_sends c e s₁).within_cwnd slowStart opened counted₁ attempts attempt member

/-- While every step counts its bytes, no new segment overruns the congestion window, and the
counter is never behind. -/
theorem respectsCwnd_run (slowStart : c.slowStart = true) (memory : TcpSocket) {inputs : List (Env × Event)}
    (follows : Follows (step c) (countsFlight c) (construct c memory) inputs) :
    Follows (step c) (RespectsCwnd c) (construct c memory) inputs ∧
      ∀ l, l <+: inputs → (l.foldl (step c) (construct c memory)).CountsOutstanding := by
  have start : (construct c memory).sock.flightView.Counted := .of_closed (by
    change (memory.construct c).state = .closed
    rw [construct_eq])
  have kept : ∀ (m : Machine) (a : Env × Event), m.sock.flightView.Counted → countsFlight c m a →
      RespectsCwnd c m a ∧ (m.step c a).sock.flightView.Counted :=
    fun m a counted counts => ⟨step_respectsCwnd slowStart counted counts, step_counted slowStart counted counts⟩
  obtain ⟨respects, counted⟩ := follows.forall_prefix_and kept start
  exact ⟨respects, fun l shorter => (counted l shorter).outstanding⟩

/-- A build with the slow start, the tracker of retransmissions and the MSS option. -/
def slowConfig : Config := { Sample.config with slowStart := true, retransmissionTracker := true, mssOption := true }

/-- The peer takes segments of one byte, and the application writes three bytes. -/
def writesThree (window : BitVec 16) : List (Env × Event) :=
  (Sample.env, .connect) :: Sample.receives { Sample.segment 1000 1 window [] with syn := true, optionMss := 1 } ++
    [(Sample.env, .tick), (Sample.env, .write [1, 2, 3] (by decide)), (Sample.env, .tick)]

/-- Two of the three bytes are sent and acknowledged, then the last one is sent. -/
theorem respectsCwnd_run_acknowledged : Follows (step slowConfig) (RespectsCwnd slowConfig) (construct slowConfig Sample.memory)
      (writesThree 1000 ++ Sample.receives (Sample.segment 1001 3 1000 []) ++ [(Sample.env, .tick)]) ∧
    ∀ l, l <+: writesThree 1000 ++ Sample.receives (Sample.segment 1001 3 1000 []) ++ [(Sample.env, .tick)] →
      (l.foldl (step slowConfig) (construct slowConfig Sample.memory)).CountsOutstanding :=
  respectsCwnd_run rfl Sample.memory (by decide +kernel)

/-- Behind a zero window probe the window opens: the byte of the probe is not counted, and the last
segment leaves with two bytes in flight, as many as the congestion window has. -/
theorem probed_overruns : ¬∀ (c : Config) (memory : TcpSocket) (inputs : List (Env × Event)), c.slowStart = true →
    Follows (step c) (RespectsCwnd c) (construct c memory) inputs := by
  intro always
  have run := always slowConfig Sample.memory
    (writesThree 0 ++ Sample.receives (Sample.segment 1001 1 1000 []) ++ [(Sample.env, .tick)]) rfl
  revert run
  decide +kernel

end Machine

end IPStack
