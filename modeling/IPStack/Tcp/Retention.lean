import IPStack.Lib.Ranges
import IPStack.Tcp.Steps

/-! The retransmission queue: what is not yet acknowledged can still be sent again. -/

namespace IPStack

open Serial TcpSocket

/-- The sequence numbers a record's segment occupies. -/
def TcpRecord.range (r : TcpRecord) : Range 32 := ⟨r.segment.seqnum, r.segment.seqLen⟩

/-- The ranges of the records that wait for an acknowledgement. -/
def TcpHistory.ranges (h : TcpHistory) : List (Range 32) := (h.filter (fun r => r.timeout ≠ 0)).map TcpRecord.range

/-- The part of a socket that sending and acknowledging is about. -/
structure SendView where
  state : TcpState
  history : TcpHistory
  seqnumNext : SeqNum
  seqnumUnacked : SeqNum
  rto : BitVec 32
  wire : List TcpSegment
  aborted : Bool
  applicationBuf : List UInt8
  applicationBuflen : BitVec 32
  ackTriggered : Bool

/-- The acknowledged position lies strictly inside a segment that waits for its
acknowledgement. -/
def SendView.ackedInside (v : SendView) : Prop :=
  ∃ r ∈ v.history, r.timeout ≠ 0 ∧ r.range.Splits v.seqnumUnacked

instance (v : SendView) : Decidable v.ackedInside := inferInstanceAs (Decidable (∃ r ∈ v.history, _))

namespace TcpSocket

def sendView (s : TcpSocket) : SendView where
  state := s.state
  history := s.history
  seqnumNext := s.seqnumNext
  seqnumUnacked := s.seqnumUnacked
  rto := s.rtt.rto
  wire := s.trace.wire
  aborted := s.trace.aborted
  applicationBuf := s.applicationBuf
  applicationBuflen := s.applicationBuflen
  ackTriggered := s.ackTriggered

end TcpSocket

/-- The connection has sent its FIN. -/
def TcpState.finSent : TcpState → Bool
  | .finwait1 | .finwait2 | .closing | .lastack | .timewait => true
  | _ => false

/-- The retransmission queue: its segments join up to the next sequence number, and what
is not acknowledged is no longer than the queue and `slack` together. -/
structure QueueInv (c : Config) (slack : Nat) (history : TcpHistory) (next unacked : SeqNum) : Prop where
  bounded : history.length ≤ c.historyMaxPackets
  small : ∀ r ∈ history, r.segment.seqLen ≤ 65535
  joined : Joined next history.ranges
  covered : gap unacked next ≤ total history.ranges + slack

/-- The invariant of the sending side. `slack` is how far the acknowledged position may
lie before the queue: nothing, or less than a segment. -/
structure SendInv (c : Config) (slack : Nat) (v : SendView) : Prop where
  slack_le : slack ≤ 65535
  queue : v.state ≠ .closed → QueueInv c slack v.history v.seqnumNext v.seqnumUnacked
  rto : v.state ≠ .closed → c.rttEstimation = true → v.rto ≠ 0
  closed : v.state = .closed → v.history = []
  quiet : v.state = .closed → v.ackTriggered = false
  listening : v.state = .listen → v.seqnumUnacked = v.seqnumNext
  opening : v.state = .synsent ∨ v.state = .synrcvd → gap v.seqnumUnacked v.seqnumNext = 1
  closing : v.state = .finwait1 ∨ v.state = .closing ∨ v.state = .lastack → v.seqnumUnacked = v.seqnumNext ∨
    ∃ r ∈ v.history, r.timeout ≠ 0 ∧ r.segment.seqnum + 1 = v.seqnumNext
  finished : v.state = .finwait2 ∨ v.state = .timewait → v.seqnumUnacked = v.seqnumNext
  fin : v.state.finSent = true → ∃ segment ∈ v.wire, segment.fin = true ∧ segment.seqnum + 1 = v.seqnumNext
  aborted : v.aborted = true → v.state = .closed
  buffer : v.applicationBuflen.toNat ≤ v.applicationBuf.length

namespace QueueInv

variable {c : Config} {slack : Nat} {h h' : TcpHistory} {next unacked : SeqNum} {e : Env} {r : TcpRecord}

theorem total_lt (q : QueueInv c slack h next unacked) : total h.ranges < 2 ^ 30 := by
  have bound := total_le h.ranges 65535 (by
    intro range member
    obtain ⟨r, inHistory, rfl⟩ := List.mem_map.mp member
    exact q.small r (List.mem_of_mem_filter inHistory))
  have length : h.ranges.length ≤ h.length := by
    unfold TcpHistory.ranges
    rw [List.length_map]
    exact List.length_filter_le _ _
  have := q.bounded
  have := c.historyMaxPackets_lt
  have : h.ranges.length * 65535 ≤ (2 ^ 14 - 1) * 65535 := Nat.mul_le_mul_right _ (by omega)
  omega

theorem flight_lt (q : QueueInv c slack h next unacked) (slack_le : slack ≤ 65535) : 2 * gap unacked next < 2 ^ 32 := by
  have := q.total_lt
  have := q.covered
  omega

/-- Every sequence number that is not acknowledged belongs to a segment that can still be
sent again. -/
theorem covers (q : QueueInv c 0 h next unacked) {x : SeqNum} (inside : gap unacked x < gap unacked next) :
    ∃ r ∈ h, r.timeout ≠ 0 ∧ r.range.Covers x := by
  have lt := q.total_lt
  have covered := q.covered
  have before := gap_split (Nat.le_of_lt inside)
  obtain ⟨range, member, covers⟩ := q.joined.covers (x := x) (by omega) (by omega) (by omega)
  obtain ⟨r, timed, rfl⟩ := List.mem_map.mp member
  obtain ⟨inHistory, timeout⟩ := List.mem_filter.mp timed
  exact ⟨r, inHistory, by simpa using timeout, covers⟩

theorem ranges_timed (timed : r.timeout ≠ 0) : TcpHistory.ranges (r :: h) = r.range :: h.ranges := by
  unfold TcpHistory.ranges
  rw [List.filter_cons_of_pos (by simpa using timed), List.map_cons]

theorem ranges_untimed (untimed : r.timeout = 0) : TcpHistory.ranges (r :: h) = h.ranges := by
  unfold TcpHistory.ranges
  rw [List.filter_cons_of_neg (by simpa using untimed)]

/-- A new segment with the next sequence numbers. -/
theorem push (q : QueueInv c slack h next unacked) (slack_le : slack ≤ 65535) (room : h.length < c.historyMaxPackets)
    (timed : r.timeout ≠ 0) (first : r.segment.seqnum = next) (small : r.segment.seqLen ≤ 65535) :
    QueueInv c slack (r :: h) (next + BitVec.ofNat 32 r.segment.seqLen) unacked where
  bounded := room
  small := List.forall_mem_cons.mpr ⟨small, q.small⟩
  joined := by
    rw [ranges_timed timed]
    have start : r.range.first = next := first
    exact ⟨by rw [start]; rfl, by rw [start]; exact q.joined⟩
  covered := by
    have flight := q.flight_lt slack_le
    have covered := q.covered
    rw [ranges_timed timed, total_cons, gap_add_right unacked next (by omega)]
    have len : r.range.len = r.segment.seqLen := rfl
    omega

/-- A new segment that is not sent again. -/
theorem push_untimed (q : QueueInv c slack h next unacked) (room : h.length < c.historyMaxPackets)
    (untimed : r.timeout = 0) (small : r.segment.seqLen ≤ 65535) : QueueInv c slack (r :: h) next unacked where
  bounded := room
  small := List.forall_mem_cons.mpr ⟨small, q.small⟩
  joined := by
    rw [ranges_untimed untimed]
    exact q.joined
  covered := by
    rw [ranges_untimed untimed]
    exact q.covered

theorem empty (next : SeqNum) : QueueInv c slack [] next next where
  bounded := Nat.zero_le _
  small := by simp
  joined := trivial
  covered := by simp

/-- The record is not released exactly if its segment does not start before the
acknowledged position. -/
theorem retained_iff (q : QueueInv c slack h next unacked) (slack_le : slack ≤ 65535) (member : r ∈ h)
    (timed : r.timeout ≠ 0) : ¬ r.released e unacked ↔ gap r.range.first next ≤ gap unacked next := by
  have lt := q.total_lt
  have flight := q.flight_lt slack_le
  have inRanges : r.range ∈ h.ranges :=
    List.mem_map.mpr ⟨r, List.mem_filter.mpr ⟨member, by simpa using timed⟩, rfl⟩
  have start := q.joined.gap_le_total next (by rw [gap_self]; omega) inRanges
  rw [gap_self] at start
  have order := lt_iff_of_below r.range.first unacked next (by omega) flight
  have sameFirst : r.range.first = r.segment.seqnum := rfl
  rw [sameFirst] at order ⊢
  simp only [TcpRecord.released, seqLt, order, timed, ne_eq, not_false_eq_true, true_and, false_and, or_false,
    Nat.not_lt]

/-- A record that is released is acknowledged to its end, unless the acknowledged position
splits its segment. -/
theorem released_whole_iff (q : QueueInv c slack h next unacked) (slack_le : slack ≤ 65535) (member : r ∈ h)
    (timed : r.timeout ≠ 0) :
    (r.released e unacked → seqLeq (r.segment.seqnum + BitVec.ofNat 32 r.segment.seqLen) unacked) ↔
      ¬ r.range.Splits unacked := by
  have lt := q.total_lt
  have flight := q.flight_lt slack_le
  have small := q.small r member
  have retained := q.retained_iff (e := e) slack_le member timed
  have inRanges : r.range ∈ h.ranges :=
    List.mem_map.mpr ⟨r, List.mem_filter.mpr ⟨member, by simpa using timed⟩, rfl⟩
  have fits : total h.ranges + gap next next < 2 ^ 32 := by rw [gap_self]; omega
  have start := q.joined.gap_le_total next fits inRanges
  have len := q.joined.len_le next fits inRanges
  rw [gap_self] at start
  have range : r.range = ⟨r.segment.seqnum, r.segment.seqLen⟩ := rfl
  rw [range] at start len retained ⊢
  dsimp only at start len retained
  have own : gap r.segment.seqnum (r.segment.seqnum + BitVec.ofNat 32 r.segment.seqLen) = r.segment.seqLen :=
    gap_add_ofNat _ (by omega)
  have split := gap_split (a := r.segment.seqnum) (x := r.segment.seqnum + BitVec.ofNat 32 r.segment.seqLen) (b := next)
    (by omega)
  rw [own] at split
  have order := le_iff_of_below (r.segment.seqnum + BitVec.ofNat 32 r.segment.seqLen) unacked next
    (by omega) flight
  rw [seqLeq, order]
  simp only [Range.Splits]
  by_cases before : gap r.segment.seqnum next ≤ gap unacked next
  · have apart := gap_of_le unacked r.segment.seqnum next before
    have := gap_eq unacked r.segment.seqnum
    have := gap_eq r.segment.seqnum unacked
    have := unacked.isLt
    have := r.segment.seqnum.isLt
    have kept := retained.mpr before
    refine iff_of_true (fun released => absurd released kept) ?_
    rintro ⟨positive, inside⟩
    split_ifs at * <;> omega
  · have released : r.released e unacked := Classical.byContradiction (fun kept => before (retained.mp kept))
    have inside := gap_of_le r.segment.seqnum unacked next (by omega)
    constructor
    · intro whole splits
      have := whole released
      omega
    · intro outside _
      omega

theorem ranges_retained (q : QueueInv c slack h next unacked) (slack_le : slack ≤ 65535) :
    TcpHistory.ranges (h.filter (¬ ·.released e unacked)) =
      h.ranges.filter (fun r => gap r.first next ≤ gap unacked next) := by
  have same : ∀ r ∈ h.filter (fun r => r.timeout ≠ 0), (!decide (r.released e unacked)) =
      decide (gap r.range.first next ≤ gap unacked next) := by
    intro r member
    obtain ⟨inHistory, timed⟩ := List.mem_filter.mp member
    have retained := q.retained_iff (e := e) slack_le inHistory (by simpa using timed)
    rw [← decide_not]
    exact decide_eq_decide.mpr retained
  have swap : (h.filter (¬ ·.released e unacked)).filter (fun r => r.timeout ≠ 0) =
      (h.filter (fun r => r.timeout ≠ 0)).filter (fun r => !decide (r.released e unacked)) := by
    rw [List.filter_filter, List.filter_filter]
    refine List.filter_congr (fun r _ => ?_)
    rw [Bool.and_comm, decide_not]
  unfold TcpHistory.ranges
  rw [swap, List.filter_congr same, List.filter_map]
  rfl

/-- Releasing what starts before the acknowledged position keeps the queue, if that
position splits no segment or the slack leaves room for one. -/
theorem release (q : QueueInv c slack h next unacked) (slack_le : slack ≤ 65535)
    (whole : slack = 65535 ∨ ¬ ∃ r ∈ h, r.timeout ≠ 0 ∧ r.range.Splits unacked) :
    QueueInv c slack (h.filter (¬ ·.released e unacked)) next unacked where
  bounded := Nat.le_trans (List.length_filter_le _ _) q.bounded
  small r member := q.small r (List.mem_of_mem_filter member)
  joined := by
    have := q.total_lt
    rw [q.ranges_retained slack_le]
    exact q.joined.filter unacked next (by rw [gap_self]; omega)
  covered := by
    have lt := q.total_lt
    rw [q.ranges_retained slack_le]
    have filtered := q.joined.total_filter unacked next (by rw [gap_self]; omega)
      (by simpa using q.covered) (by
        intro range member splits
        obtain ⟨r, timed, rfl⟩ := List.mem_map.mp member
        obtain ⟨inHistory, timeout⟩ := List.mem_filter.mp timed
        rcases whole with rfl | whole
        · exact q.small r inHistory
        · exact absurd ⟨r, inHistory, by simpa using timeout, splits⟩ whole)
    simpa using filtered

end QueueInv

/-- Lists of records that stand for the same segments and wait for the same
acknowledgements. -/
abbrev SameRecords (h h' : TcpHistory) : Prop := List.Forall₂ (TcpRecord.Kept True) h h'

namespace SameRecords

variable {h h' : TcpHistory}

theorem ranges (same : SameRecords h h') : h'.ranges = h.ranges := by
  induction same with
  | nil => rfl
  | cons kept _ ih =>
    have range := congrArg (fun s : TcpSegment => (⟨s.seqnum, s.seqLen⟩ : Range 32)) kept.segment
    have timed := kept.timeout trivial
    unfold TcpHistory.ranges at ih ⊢
    rename_i r r' l l' _
    by_cases zero : r.timeout = 0
    · rw [List.filter_cons_of_neg (by simpa using timed.mpr zero), List.filter_cons_of_neg (by simpa using zero), ih]
    · rw [List.filter_cons_of_pos (by simpa using fun z => zero (timed.mp z)),
        List.filter_cons_of_pos (by simpa using zero), List.map_cons, List.map_cons, ih]
      exact congrArg (· :: _) range

theorem mem_left (same : SameRecords h h') {r : TcpRecord} (member : r ∈ h) :
    ∃ r' ∈ h', r'.segment = r.segment ∧ (r'.timeout = 0 ↔ r.timeout = 0) := by
  obtain ⟨r', inNew, kept⟩ := forall₂_exists_left (List.Forall₂.flip same) member
  exact ⟨r', inNew, kept.segment, kept.timeout trivial⟩

theorem mem_right (same : SameRecords h h') {r' : TcpRecord} (member : r' ∈ h') :
    ∃ r ∈ h, r'.segment = r.segment ∧ (r'.timeout = 0 ↔ r.timeout = 0) := by
  obtain ⟨r, inOld, kept⟩ := forall₂_exists_left same member
  exact ⟨r, inOld, kept.segment, kept.timeout trivial⟩

theorem queue {c : Config} {slack : Nat} {next unacked : SeqNum} (same : SameRecords h h')
    (q : QueueInv c slack h next unacked) : QueueInv c slack h' next unacked where
  bounded := same.length_eq ▸ q.bounded
  small r member := by
    obtain ⟨old, inOld, segment, -⟩ := same.mem_right member
    rw [segment]
    exact q.small old inOld
  joined := same.ranges ▸ q.joined
  covered := same.ranges ▸ q.covered

end SameRecords

namespace SendInv

variable {c : Config} {slack : Nat} {v : SendView} {s s' : TcpSocket} {e : Env}

/-- The records after `updateHistory`. -/
theorem sameRecords (inv : SendInv c slack s.sendView) {doRetransmit : Bool} (updated : HistoryUpdated c e doRetransmit s s') :
    SameRecords (s.history.filter (¬ ·.released e s.seqnumUnacked)) s'.history := by
  by_cases closed : s.state = .closed
  · have empty : s.history = [] := inv.closed closed
    have kept := updated.kept
    rw [empty] at kept ⊢
    have none : s'.history = [] := by simpa using kept
    rw [none]
    exact .nil
  · have rto : s.RtoPos c := inv.rto closed
    exact updated.kept.imp (fun _ _ kept => ⟨kept.segment, kept.block, fun _ => kept.timeout rto⟩)

theorem update (inv : SendInv c slack s.sendView) {doRetransmit : Bool} (updated : HistoryUpdated c e doRetransmit s s')
    (alive : s'.state = s.state) (whole : slack = 65535 ∨ ¬ s.sendView.ackedInside) : SendInv c slack s'.sendView := by
  have same := inv.sameRecords updated
  have state : s'.sendView.state = s.state := alive
  have next : s'.sendView.seqnumNext = s.seqnumNext := by rw [updated.frame]; rfl
  have unacked : s'.sendView.seqnumUnacked = s.seqnumUnacked := by rw [updated.frame]; rfl
  constructor
  case slack_le => exact inv.slack_le
  case queue =>
    rw [state, next, unacked]
    exact fun open' => same.queue ((inv.queue open').release inv.slack_le whole)
  case rto =>
    rw [state]
    exact fun open' => updated.rto (inv.rto open')
  case closed =>
    rw [state]
    intro closed
    have empty : s.history = [] := inv.closed closed
    have none : s'.history = [] := by simpa [empty] using same
    exact none
  case quiet =>
    rw [state, show s'.sendView.ackTriggered = s.ackTriggered by rw [updated.frame]; rfl]
    exact inv.quiet
  case listening =>
    rw [state, next, unacked]
    exact inv.listening
  case opening =>
    rw [state, next, unacked]
    exact inv.opening
  case closing =>
    rw [state, next, unacked]
    intro closing
    have open' : s.state ≠ .closed := by rcases closing with state | state | state <;> simp [state]
    rcases inv.closing closing with done | ⟨r, member, timed, last⟩
    · exact .inl done
    · by_cases released : r.released e s.seqnumUnacked
      · have before := mt ((inv.queue open').retained_iff (e := e) inv.slack_le member timed).mpr (not_not_intro released)
        have one : gap r.range.first s.sendView.seqnumNext = 1 := by
          rw [show s.sendView.seqnumNext = r.range.first + BitVec.ofNat 32 1 from last.symm]
          exact gap_add_ofNat _ (by decide)
        rw [one] at before
        exact .inl (gap_eq_zero.mp (Nat.lt_one_iff.mp (Nat.lt_of_not_le before)))
      · obtain ⟨r', inNew, segment, timeout⟩ := same.mem_left (List.mem_filter.mpr ⟨member, by simpa using released⟩)
        exact .inr ⟨r', inNew, fun zero => timed (timeout.mp zero), segment ▸ last⟩
  case finished =>
    rw [state, next, unacked]
    exact inv.finished
  case fin =>
    rw [state, next]
    intro sent
    obtain ⟨segment, member, holds⟩ := inv.fin sent
    exact ⟨segment, updated.sent member, holds⟩
  case aborted =>
    rw [state, show s'.sendView.aborted = s.trace.aborted by rw [updated.frame]; rfl]
    exact inv.aborted
  case buffer =>
    have frame : s'.sendView.applicationBuflen = s.applicationBuflen ∧ s'.sendView.applicationBuf = s.applicationBuf := by
      rw [updated.frame]
      exact ⟨rfl, rfl⟩
    rw [frame.1, frame.2]
    exact inv.buffer

end SendInv

end IPStack
