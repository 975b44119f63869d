import IPStack.Tcp.Calls

/-! The timeout that a waiting socket blocks for. -/

namespace IPStack

variable {c : Config} {e : Env} {h : TcpHistory}

namespace TcpHistory

/-- The record whose retransmission is due first. -/
structure Earliest (h : TcpHistory) (r : TcpRecord) : Prop where
  listed : r ∈ h
  timed : r.timeout ≠ 0
  least : ∀ other ∈ h, other.timeout ≠ 0 → r.timeout ≤ other.timeout

theorem minRecord_untimed {min : TcpRecord} (untimed : min.timeout = 0) (h : TcpHistory) : minRecord min h = min := by
  induction h with
  | nil => rfl
  | cons current rest ih =>
    unfold minRecord
    rw [if_neg fun earlier => absurd earlier.2 (by rw [untimed]; exact BitVec.not_lt_zero), ih]

theorem minRecord_earliest {min : TcpRecord} (timed : min.timeout ≠ 0) (h : TcpHistory) :
    Earliest (min :: h) (minRecord min h) := by
  induction h generalizing min with
  | nil =>
    refine ⟨List.mem_singleton_self _, timed, fun other member _ => ?_⟩
    rw [List.mem_singleton.mp member]
    exact BitVec.le_refl _
  | cons current rest ih =>
    unfold minRecord
    split
    · rename_i earlier
      obtain ⟨listed, timed', least⟩ := ih earlier.1
      refine ⟨List.mem_cons_of_mem _ listed, timed', fun other member otherTimed => ?_⟩
      rcases List.mem_cons.mp member with rfl | later
      · exact BitVec.le_trans (least current List.mem_cons_self earlier.1) (BitVec.le_of_lt earlier.2)
      · exact least other later otherTimed
    · rename_i notEarlier
      obtain ⟨listed, timed', least⟩ := ih timed
      refine ⟨?_, timed', fun other member otherTimed => ?_⟩
      · rcases List.mem_cons.mp listed with same | later
        · exact List.mem_cons.mpr (.inl same)
        · exact List.mem_cons_of_mem _ (List.mem_cons_of_mem _ later)
      · rcases List.mem_cons.mp member with rfl | later
        · exact least other List.mem_cons_self otherTimed
        · rcases List.mem_cons.mp later with rfl | later
          · refine BitVec.le_trans (least min List.mem_cons_self timed) (BitVec.not_lt.mp fun lt => ?_)
            exact notEarlier ⟨otherTimed, lt⟩
          · exact least other (List.mem_cons_of_mem _ later) otherTimed

theorem exists_earliest {r : TcpRecord} (member : r ∈ h) (timed : r.timeout ≠ 0) : ∃ first, h.Earliest first := by
  induction h generalizing r with
  | nil => exact absurd member List.not_mem_nil
  | cons head rest ih =>
    by_cases headTimed : head.timeout = 0
    · have later : r ∈ rest := (List.mem_cons.mp member).resolve_left fun same => timed (same ▸ headTimed)
      obtain ⟨first, listed, firstTimed, least⟩ := ih later timed
      refine ⟨first, List.mem_cons_of_mem _ listed, firstTimed, fun other among otherTimed => ?_⟩
      exact least other ((List.mem_cons.mp among).resolve_left fun same => otherTimed (same ▸ headTimed)) otherTimed
    · exact ⟨_, minRecord_earliest headTimed rest⟩

theorem Earliest.remainingTime {r r' : TcpRecord} (first : h.Earliest r) (first' : h.Earliest r') :
    r.getRemainingTime c e.now = r'.getRemainingTime c e.now := by
  have same : r.timeout = r'.timeout :=
    BitVec.le_antisymm (first.least r' first'.listed first'.timed) (first'.least r first.listed first.timed)
  unfold TcpRecord.getRemainingTime
  rw [same]

end TcpHistory

theorem TcpRecord.isTimedOut_iff {r : TcpRecord} {now : BitVec 64} :
    r.isTimedOut now = true ↔ r.timeout ≠ 0 ∧ r.timeout < now := by
  unfold isTimedOut
  split
  · rename_i timed
    exact decide_eq_true_iff.trans (and_iff_right timed).symm
  · rename_i untimed
    exact ⟨nofun, fun timed => absurd timed.1 untimed⟩

/-! ### The probe -/

/-- `processSendData` sends a segment although the window is closed. -/
def TcpSocket.probesNow (c : Config) (e : Env) (s : TcpSocket) : Prop :=
  s.sendWindow = 0 ∧ ∃ segment, (s.processSendData c e).trace.wire = segment :: s.trace.wire

theorem TcpSocket.probesNow.timeout {s : TcpSocket} (probe : s.probesNow c e) : s.history.getNextTimeout c e.now = 0 := by
  obtain ⟨closed, segment, sent⟩ := probe
  by_contra waits
  have same : s.processSendData c e = s := by
    unfold processSendData
    rw [if_pos closed, if_neg waits, ite_self]
  rw [same] at sent
  exact List.cons_ne_self _ _ sent.symm

theorem TcpSocket.sendSegmentIn_wire (c : Config) (e : Env) (s : TcpSocket) (block : Nat) (len : BitVec 32) :
    ∃ segment, (s.sendSegmentIn c e block len).trace.wire = segment :: s.trace.wire := by
  unfold sendSegmentIn lowerSendWindow
  dsimp only
  split_ifs <;> exact ⟨_, rfl⟩

/-- A socket with the given history and a byte to send, whose window is closed. -/
def Sample.probing (h : TcpHistory) : TcpSocket :=
  { memory with state := .established, history := h, applicationBuf := [0], applicationBuflen := 1 }

/-- Without an interface even a full history makes room for the probe. -/
def Env.lost (e : Env) : Env := { e with interface := false, alloc := fun _ => .ok }

theorem Sample.probing_request (c : Config) (e : Env) (h : TcpHistory) :
    ∃ s, (probing h).requestSendBufferTcp c e.lost = (some 0, s) ∧ s.trace = memory.trace ∧ s.sendWindow = 0 := by
  unfold TcpSocket.requestSendBufferTcp
  by_cases full : h.isFull c = true
  · have cleared : (probing h).updateHistory c e.lost false = (probing h).clearHistory := by
      have body : (probing h).updateHistoryBody c e.lost false = (probing h).clearHistory := rfl
      unfold TcpSocket.updateHistory
      rw [body]
      exact if_neg fun closed => absurd closed.2 (by decide : TcpState.established ≠ .closed)
    have room : ¬(probing h).clearHistory.history.isFull c = true := by
      have := c.historyMaxPackets_pos
      simp [TcpSocket.clearHistory, TcpHistory.isFull]
      omega
    rw [if_pos (show (probing h).history.isFull c = true from full), cleared]
    dsimp only
    rw [if_neg room]
    exact ⟨_, rfl, rfl, rfl⟩
  · rw [if_neg (show ¬(probing h).history.isFull c = true from full)]
    exact ⟨_, rfl, rfl, rfl⟩

theorem Sample.probing_probes (zero : h.getNextTimeout c e.now = 0) : (probing h).probesNow c e.lost := by
  refine ⟨rfl, ?_⟩
  obtain ⟨s, request, trace, closed⟩ := probing_request c e h
  have sent : (probing h).processSendData c e.lost = s.sendSegmentIn c e.lost 0 1 := by
    have due : (probing h).history.getNextTimeout c e.lost.now = 0 := zero
    unfold TcpSocket.processSendData
    rw [if_neg (show (probing h).applicationBuflen ≠ 0 from (by decide : (1 : BitVec 32) ≠ 0)), 
      if_pos (show (probing h).sendWindow = 0 from rfl), if_pos due, TcpSocket.sendSegment, request]
  obtain ⟨segment, wire⟩ := TcpSocket.sendSegmentIn_wire c e.lost s 0 1
  exact ⟨segment, by rw [sent, wire, trace]; rfl⟩

/-! ### When the next timeout is right -/

/-- The result is the remaining time of the record that is due first. It is 0 only without such
a record or once that has expired, and a socket probes only when no record is waiting. -/
structure TimesNext (c : Config) (e : Env) (h : TcpHistory) : Prop where
  minimum : ∀ r, h.Earliest r → h.getNextTimeout c e.now = r.getRemainingTime c e.now
  untimed : (∀ r ∈ h, r.timeout = 0) → h.getNextTimeout c e.now = 0
  positive : h.getNextTimeout c e.now = 0 → (∀ r ∈ h, r.timeout = 0) ∨ ∃ r, h.Earliest r ∧ r.isTimedOut e.now = true
  probe : ∀ (s : TcpSocket) (e' : Env), e'.now = e.now → s.history = h → s.probesNow c e' →
    ∀ r ∈ h, r.timeout ≠ 0 → r.isTimedOut e.now = true

/-- No timed record is waiting; or all of them are, the newest record is one of them, and at
least a millisecond is left for the first. -/
def timesNextWhen (c : Config) (e : Env) (h : TcpHistory) : Prop :=
  (∀ r ∈ h, r.timeout ≠ 0 → r.timeout < e.now) ∨
    (∀ r ∈ h.head?, r.timeout ≠ 0) ∧
      ∀ r, h.Earliest r → e.now ≤ r.timeout ∧ c.clock.ticksToMs (r.timeout - e.now) ≠ 0

/-- An untimed record at the head ends the search at once. -/
theorem TcpHistory.getNextTimeout_untimed (zero : c.clock.ticksToMs 0 = 0) {head : TcpRecord} {rest : TcpHistory}
    (untimed : head.timeout = 0) : getNextTimeout c e.now (head :: rest) = 0 := by
  change (minRecord head rest).getRemainingTime c e.now = 0
  rw [minRecord_untimed untimed, TcpRecord.getRemainingTime, untimed]
  split
  · rfl
  · rename_i start
    have now : e.now = 0 := BitVec.eq_of_toNat_eq (by rw [BitVec.lt_def] at start; simp at start ⊢; omega)
    rw [now]
    exact zero

theorem TcpHistory.getNextTimeout_timed {head : TcpRecord} {rest : TcpHistory} (timed : head.timeout ≠ 0) {r : TcpRecord}
    (first : Earliest (head :: rest) r) : getNextTimeout c e.now (head :: rest) = r.getRemainingTime c e.now :=
  (minRecord_earliest timed rest).remainingTime first

theorem TcpRecord.getRemainingTime_ne_zero {r : TcpRecord} {now : BitVec 64} :
    r.getRemainingTime c now ≠ 0 ↔ now ≤ r.timeout ∧ c.clock.ticksToMs (r.timeout - now) ≠ 0 := by
  unfold getRemainingTime
  split
  · rename_i expired
    exact ⟨fun nonzero => absurd rfl nonzero, fun ⟨waits, _⟩ => absurd expired (BitVec.not_lt.mpr waits)⟩
  · rename_i waits
    exact (and_iff_right (BitVec.not_lt.mp waits)).symm

theorem TimesNext.of_expired (zero : c.clock.ticksToMs 0 = 0) (expired : ∀ r ∈ h, r.timeout ≠ 0 → r.timeout < e.now) :
    TimesNext c e h := by
  have none : ∀ r, h.Earliest r → r.getRemainingTime c e.now = 0 :=
    fun r first => if_pos (expired r first.listed first.timed)
  have result : h.getNextTimeout c e.now = 0 := by
    cases h with
    | nil => rfl
    | cons head rest =>
      by_cases timed : head.timeout = 0
      · exact TcpHistory.getNextTimeout_untimed zero timed
      · obtain ⟨first, earliest⟩ := TcpHistory.exists_earliest List.mem_cons_self timed
        rw [TcpHistory.getNextTimeout_timed timed earliest, none first earliest]
  refine ⟨fun r first => by rw [result, none r first], fun _ => result, fun _ => ?_, ?_⟩
  · by_cases some : ∃ r ∈ h, r.timeout ≠ 0
    · obtain ⟨r, member, timed⟩ := some
      obtain ⟨first, earliest⟩ := TcpHistory.exists_earliest member timed
      exact .inr ⟨first, earliest, TcpRecord.isTimedOut_iff.mpr ⟨earliest.timed, expired first earliest.listed earliest.timed⟩⟩
    · exact .inl fun r member => by_contra fun timed => some ⟨r, member, timed⟩
  · exact fun _ _ _ _ _ r member timed => TcpRecord.isTimedOut_iff.mpr ⟨timed, expired r member timed⟩

theorem TimesNext.of_timed {head : TcpRecord} {rest : TcpHistory} (timed : head.timeout ≠ 0)
    (left : ∀ r, TcpHistory.Earliest (head :: rest) r → r.getRemainingTime c e.now ≠ 0) : TimesNext c e (head :: rest) := by
  obtain ⟨first, earliest⟩ := TcpHistory.exists_earliest (h := head :: rest) List.mem_cons_self timed
  have nonzero : TcpHistory.getNextTimeout c e.now (head :: rest) ≠ 0 := by
    rw [TcpHistory.getNextTimeout_timed timed earliest]
    exact left first earliest
  refine ⟨fun r => TcpHistory.getNextTimeout_timed timed, fun untimed => absurd (untimed head List.mem_cons_self) timed,
    fun result => absurd result nonzero, fun s e' now history probe => ?_⟩
  have result := probe.timeout
  rw [now, history] at result
  exact absurd result nonzero

theorem timesNext_iff (zero : c.clock.ticksToMs 0 = 0) : TimesNext c e h ↔ timesNextWhen c e h := by
  constructor
  · intro times
    by_cases expired : ∀ r ∈ h, r.timeout ≠ 0 → r.timeout < e.now
    · exact .inl expired
    · have nonzero : h.getNextTimeout c e.now ≠ 0 := fun result => expired fun r member timed =>
        (TcpRecord.isTimedOut_iff.mp (times.probe (Sample.probing h) e.lost rfl rfl (Sample.probing_probes result) r member timed)).2
      refine .inr ⟨?_, fun r first => ?_⟩
      · cases h with
        | nil => exact nofun
        | cons head rest =>
          intro r same untimed
          obtain rfl := Option.some.inj same
          exact nonzero (TcpHistory.getNextTimeout_untimed zero untimed)
      · rw [times.minimum r first, TcpRecord.getRemainingTime_ne_zero] at nonzero
        exact nonzero
  · rintro (expired | ⟨headTimed, left⟩)
    · exact .of_expired zero expired
    · cases h with
      | nil => exact .of_expired zero fun _ member => absurd member List.not_mem_nil
      | cons head rest => exact .of_timed (headTimed head rfl) fun r first => TcpRecord.getRemainingTime_ne_zero.mpr (left r first)

/-- A record that is due at the time 100 or, for a timeout of 0, never. -/
def Sample.record (timeout : BitVec 64) : TcpRecord :=
  ⟨timeout, ⟨0, .transmitted, segment 0 0 0 []⟩, 0⟩

theorem timesNext_single : TimesNext Sample.config Sample.env [Sample.record 100] :=
  (timesNext_iff (by decide)).mpr (.inr ⟨by simp [Sample.record], fun r first => by
    obtain rfl := List.mem_singleton.mp first.listed
    decide⟩)

/-- Behind a pure acknowledgement a waiting record is not seen, and the window is probed. -/
theorem hiddenTimeout_probes : ¬∀ (c : Config) (e : Env) (h : TcpHistory), c.clock.ticksToMs 0 = 0 → TimesNext c e h := by
  intro always
  have times := always Sample.config Sample.env [Sample.record 0, Sample.record 100] (by decide)
  have probe := times.probe (Sample.probing [Sample.record 0, Sample.record 100]) Sample.env.lost rfl rfl
    (Sample.probing_probes (by decide)) (Sample.record 100) (by simp) (by decide)
  exact absurd probe (by decide)

end IPStack
