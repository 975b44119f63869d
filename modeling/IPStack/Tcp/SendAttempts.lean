import IPStack.Tcp.PendingAck
import IPStack.Tcp.SendWindow

/-! The calls of `sendSegment` in one run of `processSendData`: what each of them sends, and
what stays as it was when there is no buffer. -/

namespace IPStack

open TcpSocket

namespace SendAttempt

/-- The segment that was handed to the interface. -/
def segment (c : Config) (a : SendAttempt) : Option TcpSegment :=
  if a.sends c then (a.after c).trace.wire.head? else none

end SendAttempt

namespace TcpSocket

/-! ### The attempts of a run -/

/-- The payload length is one that `processSendData` asks for. -/
def Due (c : Config) (s : TcpSocket) (len : BitVec 32) : Prop :=
  0 < s.applicationBuflen ∧
    (len = min3 ((s.getSendWindow c).setWidth 32) s.applicationBuflen s.mss ∧ 0 < s.getSendWindow c ∨ len = 1 ∧ s.sendWindow = 0)

/-- Attempts one after the other, the last one of which may fail. -/
inductive Sends (c : Config) (e : Env) : TcpSocket → List SendAttempt → TcpSocket → Prop
  | done {s : TcpSocket} : Sends c e s [] s
  | refused {s : TcpSocket} {len : BitVec 32} (due : s.Due c len) (refused : (s.sendSegment c e len).1 = false) :
      Sends c e s [⟨e, s, len⟩] (s.sendSegment c e len).2
  | sent {s s' : TcpSocket} {len : BitVec 32} {l : List SendAttempt} (due : s.Due c len)
      (sent : (s.sendSegment c e len).1 = true) (rest : Sends c e (s.sendSegment c e len).2 l s') :
      Sends c e s (⟨e, s, len⟩ :: l) s'

variable {c : Config} {e : Env} {s s' : TcpSocket} {l : List SendAttempt}

theorem sendLoop_sends (c : Config) (e : Env) (fuel : Nat) (s : TcpSocket) :
    Sends c e s (loopAttempts c e fuel s) (sendLoop c e fuel s) := by
  induction fuel generalizing s with
  | zero => exact .done
  | succ fuel ih =>
    unfold loopAttempts sendLoop sendNextSegment
    dsimp only
    split_ifs with more sent
    · rw [show s.sendSegment c e (min3 ((s.getSendWindow c).setWidth 32) s.applicationBuflen s.mss) = (true, _) from
        Prod.ext sent rfl]
      exact .sent ⟨more.1, .inl ⟨rfl, more.2⟩⟩ sent (ih _)
    · rw [Bool.not_eq_true] at sent
      rw [show s.sendSegment c e (min3 ((s.getSendWindow c).setWidth 32) s.applicationBuflen s.mss) = (false, _) from
        Prod.ext sent rfl]
      exact .refused ⟨more.1, .inl ⟨rfl, more.2⟩⟩ sent
    · exact .done

theorem processSendData_sends (c : Config) (e : Env) (s : TcpSocket) :
    Sends c e s (s.sendAttempts c e) (s.processSendData c e) := by
  unfold sendAttempts processSendData
  split_ifs with nothing closed due
  · exact .done
  · have due : s.Due c 1 := ⟨by bv_omega, .inr ⟨rfl, closed⟩⟩
    cases sent : (s.sendSegment c e 1).1 with
    | true => exact .sent due sent .done
    | false => exact .refused due sent
  · exact .done
  · exact sendLoop_sends c e _ s

/-! ### One attempt -/

/-- What a segment with `len` bytes of application data leaves behind. -/
structure SentSegment (s s' : TcpSocket) (len : BitVec 32) (segment : TcpSegment) : Prop where
  wire : s'.trace.wire = segment :: s.trace.wire
  data : segment.data = s.applicationBuf.take len.toNat
  seqnum : segment.seqnum = s.seqnumNext
  applicationBuf : s'.applicationBuf = s.applicationBuf.drop len.toNat
  applicationBuflen : s'.applicationBuflen = s.applicationBuflen - len
  seqnumNext : s'.seqnumNext = s.seqnumNext + len
  sendWindow : s'.sendWindow = if s.sendWindow ≠ 0 then s.sendWindow - len.setWidth 16 else s.sendWindow
  mss : s'.mss = s.mss
  state : s'.state = s.state
  waiting : s'.waiting = s.waiting
  receiving : s'.receiving = s.receiving

theorem SentSegment.of_historyOnly {s₁ : TcpSocket} {len : BitVec 32} {segment : TcpSegment} (only : HistoryOnly s s₁)
    (sent : SentSegment s₁ s' len segment) : SentSegment s s' len segment := by
  unfold HistoryOnly at only
  constructor
  · rw [sent.wire, only]
  · rw [sent.data, only]
  · rw [sent.seqnum, only]
  · rw [sent.applicationBuf, only]
  · rw [sent.applicationBuflen, only]
  · rw [sent.seqnumNext, only]
  · rw [sent.sendWindow, only]
  · rw [sent.mss, only]
  · rw [sent.state, only]
  · rw [sent.waiting, only]
  · rw [sent.receiving, only]

theorem sendSegmentIn_segment (c : Config) (e : Env) (s : TcpSocket) (block : Nat) (len : BitVec 32) :
    ∃ segment, SentSegment s (s.sendSegmentIn c e block len) len segment := by
  have window := congrArg WindowView.sendWindow (sendSegmentIn_windowView c e s block len)
  change (s.sendSegmentIn c e block len).sendWindow = if s.sendWindow ≠ 0 then _ else _ at window
  generalize lowered : (if s.sendWindow ≠ 0 then s.sendWindow - len.setWidth 16 else s.sendWindow) = w at window
  revert window
  unfold sendSegmentIn lowerSendWindow
  dsimp only
  split_ifs <;> exact fun window => ⟨_, rfl, rfl, rfl, rfl, rfl, rfl, window.trans lowered.symm, rfl, rfl, rfl, rfl⟩

/-- A call that gets a buffer sends from the socket the request has left. -/
theorem sendSegment_in (alive : s.state ≠ .closed) {len : BitVec 32} (sent : (s.sendSegment c e len).1 = true) :
    ∃ s₁ block, HistoryOnly s s₁ ∧ (s.sendSegment c e len).2 = s₁.sendSegmentIn c e block len := by
  have only := (requestSendBufferTcp_spec c e s).historyOnly fun dead => alive dead.2.1
  unfold sendSegment at sent ⊢
  generalize s.requestSendBufferTcp c e = result at sent only ⊢
  obtain ⟨block, s₁⟩ := result
  cases block with
  | none => exact absurd sent Bool.false_ne_true
  | some b => exact ⟨s₁, b, only, rfl⟩

theorem sendSegment_sent (alive : s.state ≠ .closed) {len : BitVec 32} (sent : (s.sendSegment c e len).1 = true) :
    ∃ segment, SentSegment s (s.sendSegment c e len).2 len segment := by
  obtain ⟨s₁, block, only, eq⟩ := sendSegment_in alive sent
  obtain ⟨segment, sending⟩ := sendSegmentIn_segment c e s₁ block len
  exact ⟨segment, eq ▸ sending.of_historyOnly only⟩

theorem sendSegment_refused (alive : s.state ≠ .closed) {len : BitVec 32} (refused : (s.sendSegment c e len).1 = false) :
    HistoryOnly s (s.sendSegment c e len).2 := by
  have only := (requestSendBufferTcp_spec c e s).historyOnly fun dead => alive dead.2.1
  unfold sendSegment at refused ⊢
  generalize s.requestSendBufferTcp c e = result at refused only ⊢
  obtain ⟨block, s₁⟩ := result
  cases block with
  | none => exact only
  | some b => exact absurd refused.symm Bool.false_ne_true

/-! ### Where the application's data stands -/

/-- The sequence numbers of the segments follow each other. -/
def Contiguous : SeqNum → List TcpSegment → Prop
  | _, [] => True
  | next, segment :: rest => segment.seqnum = next ∧ Contiguous (next + BitVec.ofNat 32 segment.data.length) rest

def payload (segments : List TcpSegment) : List UInt8 := (segments.map (·.data)).flatten

theorem contiguous_append {first : SeqNum} {segments : List TcpSegment} (contiguous : Contiguous first segments)
    {segment : TcpSegment} (next : segment.seqnum = first + BitVec.ofNat 32 (payload segments).length) :
    Contiguous first (segments ++ [segment]) := by
  induction segments generalizing first with
  | nil =>
    refine ⟨?_, trivial⟩
    rw [next]
    exact BitVec.add_zero first
  | cons head rest ih =>
    refine ⟨contiguous.1, ih contiguous.2 ?_⟩
    rw [next, BitVec.add_assoc, ← BitVec.ofNat_add]
    congr 2
    simp [payload]

/-- The segments carry the data up to the cursor. -/
structure Cursor (data : List UInt8) (first : SeqNum) (segments : List TcpSegment) (s : TcpSocket) : Prop where
  sent : data = payload segments ++ s.applicationBuf
  left : s.applicationBuf.length = s.applicationBuflen.toNat
  next : s.seqnumNext = first + BitVec.ofNat 32 (payload segments).length
  contiguous : Contiguous first segments

end TcpSocket

/-- What the attempt sends is within the window and the segment size; an attempt without
buffer leaves the cursor as it is. -/
structure SendAttempt.Sound (c : Config) (a : SendAttempt) : Prop where
  bounds : ∀ segment, a.segment c = some segment → 0 < a.before.mss →
    1 ≤ segment.data.length ∧
      segment.data.length ≤ min (if a.before.sendWindow = 0 then 1 else a.before.sendWindow.toNat) a.before.mss.toNat
  window : ∀ segment, a.segment c = some segment →
    (a.after c).sendWindow.toNat + (if a.before.sendWindow = 0 then 0 else segment.data.length) = a.before.sendWindow.toNat
  refused : a.sends c = false →
    (a.after c).applicationBuf = a.before.applicationBuf ∧ (a.after c).applicationBuflen = a.before.applicationBuflen ∧
      (a.after c).seqnumNext = a.before.seqnumNext ∧ (a.after c).sendWindow = a.before.sendWindow

namespace TcpSocket

variable {c : Config} {e : Env} {s s' : TcpSocket} {data : List UInt8} {first : SeqNum} {segments : List TcpSegment}

theorem getSendWindow_le (c : Config) (s : TcpSocket) : s.getSendWindow c ≤ s.sendWindow := by
  unfold getSendWindow
  split_ifs
  · exact BitVec.le_refl _
  · bv_omega
  · exact BitVec.le_refl _

theorem min3_mem (a b c : BitVec 32) : min3 a b c ≤ a ∧ min3 a b c ≤ b ∧ min3 a b c ≤ c ∧
    (min3 a b c = a ∨ min3 a b c = b ∨ min3 a b c = c) := by
  unfold min3
  split_ifs <;> refine ⟨?_, ?_, ?_, ?_⟩ <;> first | bv_omega | simp

theorem Cursor.of_same (cursor : Cursor data first segments s) (buf : s'.applicationBuf = s.applicationBuf)
    (buflen : s'.applicationBuflen = s.applicationBuflen) (next : s'.seqnumNext = s.seqnumNext) :
    Cursor data first segments s' where
  sent := by rw [buf, ← cursor.sent]
  left := by rw [buf, buflen, cursor.left]
  next := by rw [next, cursor.next]
  contiguous := cursor.contiguous

/-- A payload length that is asked for fits into the window, the data and the segment. -/
structure Fits (s : TcpSocket) (len : BitVec 32) : Prop where
  data : len.toNat ≤ s.applicationBuflen.toNat
  window : s.sendWindow ≠ 0 → len.toNat ≤ s.sendWindow.toNat
  probe : s.sendWindow = 0 → len.toNat = 1
  mss : 0 < s.mss → 1 ≤ len.toNat ∧ len.toNat ≤ s.mss.toNat

theorem Due.fits {len : BitVec 32} (due : s.Due c len) : s.Fits len := by
  obtain ⟨some, ⟨rfl, opened⟩ | ⟨rfl, closed⟩⟩ := due
  · have below := getSendWindow_le c s
    obtain ⟨window, data, mss, which⟩ := min3_mem ((s.getSendWindow c).setWidth 32) s.applicationBuflen s.mss
    generalize min3 ((s.getSendWindow c).setWidth 32) s.applicationBuflen s.mss = len at *
    have within : len.toNat ≤ s.sendWindow.toNat := by bv_omega
    refine ⟨BitVec.le_def.mp data, fun _ => within, fun closed => ?_, fun positive => ⟨?_, BitVec.le_def.mp mss⟩⟩
    · bv_omega
    · rcases which with which | which | which <;> bv_omega
  · refine ⟨?_, fun opened => absurd closed opened, fun _ => rfl, fun positive => ⟨?_, ?_⟩⟩ <;> bv_omega

theorem Cursor.segment_length (cursor : Cursor data first segments s) {len : BitVec 32} {segment : TcpSegment}
    (fits : s.Fits len) (sent : SentSegment s s' len segment) : segment.data.length = len.toNat := by
  rw [sent.data, List.length_take, cursor.left]
  exact Nat.min_eq_left fits.data

theorem Cursor.sent_segment (cursor : Cursor data first segments s) {len : BitVec 32} {segment : TcpSegment}
    (fits : s.Fits len) (sent : SentSegment s s' len segment) : Cursor data first (segments ++ [segment]) s' := by
  have longer : payload (segments ++ [segment]) = payload segments ++ segment.data := by simp [payload]
  constructor
  case sent => rw [longer, sent.data, sent.applicationBuf, List.append_assoc, List.take_append_drop, ← cursor.sent]
  case left =>
    have data := fits.data
    rw [sent.applicationBuf, sent.applicationBuflen, List.length_drop, cursor.left]
    bv_omega
  case next =>
    rw [longer, List.length_append, cursor.segment_length fits sent, sent.seqnumNext, cursor.next, BitVec.ofNat_add,
      BitVec.ofNat_toNat, BitVec.setWidth_eq, BitVec.add_assoc]
  case contiguous => exact contiguous_append cursor.contiguous (sent.seqnum.trans cursor.next)

theorem SendAttempt.segment_sent {a : SendAttempt} {segment : TcpSegment} (sends : a.sends c = true)
    (sent : SentSegment a.before (a.after c) a.len segment) : a.segment c = some segment := by
  rw [SendAttempt.segment, if_pos sends, sent.wire, List.head?_cons]

theorem SendAttempt.segment_refused {a : SendAttempt} (refused : a.sends c = false) : a.segment c = none := by
  rw [SendAttempt.segment, refused]
  rfl

theorem Cursor.sound_sent {a : SendAttempt} (cursor : Cursor data first segments a.before) {segment : TcpSegment}
    (fits : a.before.Fits a.len) (sends : a.sends c = true) (sent : SentSegment a.before (a.after c) a.len segment) :
    a.Sound c := by
  have length := cursor.segment_length fits sent
  have same : ∀ segment', a.segment c = some segment' → segment'.data.length = a.len.toNat := by
    intro segment' other
    rw [SendAttempt.segment_sent sends sent, Option.some.injEq] at other
    rwa [← other]
  refine ⟨fun segment' other positive => ?_, fun segment' other => ?_, fun refused => ?_⟩
  · rw [same segment' other]
    obtain ⟨least, most⟩ := fits.mss positive
    refine ⟨least, Nat.le_min.mpr ⟨?_, most⟩⟩
    split_ifs with closed
    · exact Nat.le_of_eq (fits.probe closed)
    · exact fits.window closed
  · rw [same segment' other, sent.sendWindow]
    by_cases zero : a.before.sendWindow = 0
    · rw [if_neg (not_not_intro zero), if_pos zero, Nat.add_zero]
    · have within := fits.window zero
      rw [if_pos zero, if_neg zero]
      bv_omega
  · exact absurd (sends.symm.trans refused) Bool.noConfusion

theorem sound_refused {a : SendAttempt} (alive : a.before.state ≠ .closed) (refused : a.sends c = false) : a.Sound c := by
  have only : HistoryOnly a.before (a.after c) := sendSegment_refused alive refused
  have none := SendAttempt.segment_refused refused
  refine ⟨fun segment some => ?_, fun segment some => ?_, fun _ => ?_⟩
  · exact absurd (none.symm.trans some) (Option.some_ne_none _).symm
  · exact absurd (none.symm.trans some) (Option.some_ne_none _).symm
  · rw [only]
    exact ⟨rfl, rfl, rfl, rfl⟩

/-- Where a run of `processSendData` leaves the call in progress. -/
structure SentAll (c : Config) (l : List SendAttempt) (s s' : TcpSocket) : Prop where
  state : s'.state = s.state
  waiting : s'.waiting = s.waiting
  receiving : s'.receiving = s.receiving
  wire : s'.trace.wire = (l.filterMap (SendAttempt.segment c)).reverse ++ s.trace.wire

theorem Sends.sentAll {l : List SendAttempt} (sends : Sends c e s l s') (alive : s.state ≠ .closed) : SentAll c l s s' := by
  induction sends with
  | done => exact ⟨rfl, rfl, rfl, rfl⟩
  | @refused s len due refused =>
    have only := sendSegment_refused alive refused
    have none := SendAttempt.segment_refused (a := ⟨e, s, len⟩) refused
    refine ⟨?_, ?_, ?_, ?_⟩
    · rw [only]
    · rw [only]
    · rw [only]
    · rw [List.filterMap_cons_none none, only]
      rfl
  | @sent s s' len l due sent _ ih =>
    obtain ⟨segment, sending⟩ := sendSegment_sent alive sent
    have all := ih (by rwa [sending.state])
    have some := SendAttempt.segment_sent (a := ⟨e, s, len⟩) sent sending
    refine ⟨all.state.trans sending.state, all.waiting.trans sending.waiting, all.receiving.trans sending.receiving, ?_⟩
    rw [all.wire, sending.wire, List.filterMap_cons_some some, List.reverse_cons, List.append_assoc]
    rfl

theorem Sends.cursor {l : List SendAttempt} (sends : Sends c e s l s') (alive : s.state ≠ .closed)
    (cursor : Cursor data first segments s) :
    Cursor data first (segments ++ l.filterMap (SendAttempt.segment c)) s' ∧ ∀ a ∈ l, a.Sound c := by
  induction sends generalizing segments with
  | done => exact ⟨by simpa using cursor, by simp⟩
  | @refused s len due refused =>
    have only := sendSegment_refused alive refused
    have none := SendAttempt.segment_refused (a := ⟨e, s, len⟩) refused
    rw [List.filterMap_cons_none none, List.filterMap_nil, List.append_nil]
    refine ⟨cursor.of_same ?_ ?_ ?_, ?_⟩
    · rw [only]
    · rw [only]
    · rw [only]
    · rintro a member
      rw [List.mem_singleton.mp member]
      exact sound_refused alive refused
  | @sent s s' len l due sent _ ih =>
    obtain ⟨segment, sending⟩ := sendSegment_sent alive sent
    have fits := due.fits
    obtain ⟨behind, sound⟩ := ih (by rwa [sending.state]) (cursor.sent_segment fits sending)
    have some := SendAttempt.segment_sent (a := ⟨e, s, len⟩) sent sending
    rw [List.filterMap_cons_some some]
    refine ⟨?_, ?_⟩
    · rwa [List.append_assoc] at behind
    · rintro a member
      rcases List.mem_cons.mp member with rfl | member
      · exact cursor.sound_sent fits sent sending
      · exact sound a member

/-- With an MSS the rounds of the loop run out only when the data does. -/
theorem sendLoop_rounds {fuel fuel' : Nat} (alive : s.state ≠ .closed) (mss : 0 < s.mss)
    (enough : s.applicationBuflen.toNat < fuel) (enough' : s.applicationBuflen.toNat < fuel') :
    sendLoop c e fuel s = sendLoop c e fuel' s := by
  induction fuel generalizing fuel' s with
  | zero => omega
  | succ fuel ih =>
    obtain ⟨fuel', rfl⟩ := Nat.exists_eq_add_of_lt enough'
    unfold sendLoop sendNextSegment
    split_ifs with more
    · have fits := Due.fits (c := c) (s := s) ⟨more.1, .inl ⟨rfl, more.2⟩⟩
      generalize min3 ((s.getSendWindow c).setWidth 32) s.applicationBuflen s.mss = len at fits ⊢
      cases sent : (s.sendSegment c e len).1 with
      | false =>
        rw [show s.sendSegment c e len = (false, _) from Prod.ext sent rfl]
      | true =>
        obtain ⟨segment, sending⟩ := sendSegment_sent alive sent
        have data := fits.data
        have some := (fits.mss mss).1
        have shorter : (s.sendSegment c e len).2.applicationBuflen.toNat + len.toNat = s.applicationBuflen.toNat := by
          rw [sending.applicationBuflen]
          bv_omega
        rw [show s.sendSegment c e len = (true, (s.sendSegment c e len).2) from Prod.ext sent rfl]
        exact ih (by rwa [sending.state]) (by rwa [sending.mss]) (by omega) (by omega)
    · rfl

end TcpSocket

end IPStack
