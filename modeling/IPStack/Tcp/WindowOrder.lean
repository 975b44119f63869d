import IPStack.Lib.Serial
import IPStack.Tcp.Calls
import Mathlib.Data.List.MinMax
import Mathlib.Data.List.Nodup
import Mathlib.Data.Prod.Lex

/-! Window updates in any order. -/

namespace IPStack

open Serial

/-- A segment as an update of the send window, or the last update that a socket has taken. -/
structure WindowUpdate where
  window : BitVec 16
  seqnum : SeqNum
  acknum : SeqNum
deriving DecidableEq, Repr

namespace WindowUpdate

def pair (u : WindowUpdate) : SeqNum × SeqNum := (u.seqnum, u.acknum)

/-- Sequence and acknowledgement number lie in the half of the sequence space behind the base. -/
structure Near (base : SeqNum × SeqNum) (u : WindowUpdate) : Prop where
  seqnum : 2 * gap base.1 u.seqnum < 2 ^ 32
  acknum : 2 * gap base.2 u.acknum < 2 ^ 32

/-- The lexicographic order of the pairs, counted from the base. -/
def position (base : SeqNum × SeqNum) (u : WindowUpdate) : Nat ×ₗ Nat :=
  toLex (gap base.1 u.seqnum, gap base.2 u.acknum)

variable {base : SeqNum × SeqNum} {u v : WindowUpdate}

theorem pair_eq_of_position (same : u.position base = v.position base) : u.pair = v.pair := by
  have parts := Prod.ext_iff.mp (toLex.injective same)
  exact Prod.ext ((gap_inj base.1 _ _).mp parts.1) ((gap_inj base.2 _ _).mp parts.2)

/-- In one half of the sequence space the comparison of the source is the order of the positions. -/
theorem position_lt (nearU : u.Near base) (nearV : v.Near base) :
    u.position base < v.position base ↔ seqLt u.seqnum v.seqnum ∨ u.seqnum = v.seqnum ∧ seqLt u.acknum v.acknum := by
  unfold position seqLt
  rw [Prod.Lex.toLex_lt_toLex, lt_iff_of_above u.seqnum v.seqnum base.1 nearU.seqnum nearV.seqnum,
    lt_iff_of_above u.acknum v.acknum base.2 nearU.acknum nearV.acknum, gap_inj]

end WindowUpdate

def TcpSegment.windowUpdate (segment : TcpSegment) : WindowUpdate := ⟨segment.window, segment.seqnum, segment.acknum⟩

namespace TcpSocket

def windowUpdate (s : TcpSocket) : WindowUpdate := ⟨s.sendWindow, s.lwseq, s.lwack⟩

/-- The segments arrive one after the other, and nothing is sent in between. -/
def updateSendWindows (s : TcpSocket) (segments : List TcpSegment) : TcpSocket :=
  segments.foldl (fun s segment => s.updateSendWindow segment segment.seqnum segment.acknum) s

variable {s : TcpSocket} {base : SeqNum × SeqNum} {segments : List TcpSegment}

theorem acceptsWindow_iff {segment : TcpSegment} (near : s.windowUpdate.Near base) (near' : segment.windowUpdate.Near base) :
    s.acceptsWindow segment.seqnum segment.acknum ↔ s.windowUpdate.position base ≤ segment.windowUpdate.position base := by
  rw [← not_lt, WindowUpdate.position_lt near' near, not_or]
  exact Iff.rfl

/-- One segment: the update with the greater position stays. -/
theorem updateSendWindow_windowUpdate {segment : TcpSegment} (near : s.windowUpdate.Near base)
    (near' : segment.windowUpdate.Near base) :
    (s.updateSendWindow segment segment.seqnum segment.acknum).windowUpdate =
      if s.windowUpdate.position base ≤ segment.windowUpdate.position base then segment.windowUpdate else s.windowUpdate := by
  unfold updateSendWindow
  by_cases accepted : s.acceptsWindow segment.seqnum segment.acknum
  · rw [if_pos accepted, if_pos ((acceptsWindow_iff near near').mp accepted)]
    rfl
  · rw [if_neg accepted, if_neg fun le => accepted ((acceptsWindow_iff near near').mpr le)]

/-- All segments: the greatest position stays. -/
theorem updateSendWindows_greatest (near : ∀ u ∈ s.windowUpdate :: segments.map TcpSegment.windowUpdate, u.Near base) :
    (s.updateSendWindows segments).windowUpdate ∈ s.windowUpdate :: segments.map TcpSegment.windowUpdate ∧
      ∀ u ∈ s.windowUpdate :: segments.map TcpSegment.windowUpdate,
        u.position base ≤ (s.updateSendWindows segments).windowUpdate.position base := by
  induction segments generalizing s with
  | nil =>
    refine ⟨List.mem_cons_self, fun u member => ?_⟩
    rw [List.mem_singleton.mp member]
    exact le_refl _
  | cons segment rest ih =>
    rw [List.map_cons] at near ⊢
    have nearStart := near _ List.mem_cons_self
    have nearFirst := near segment.windowUpdate (List.mem_cons_of_mem _ List.mem_cons_self)
    have first := updateSendWindow_windowUpdate nearStart nearFirst
    have taken : (s.updateSendWindow segment segment.seqnum segment.acknum).windowUpdate = s.windowUpdate ∨
        (s.updateSendWindow segment segment.seqnum segment.acknum).windowUpdate = segment.windowUpdate := by
      rw [first]
      split
      · exact .inr rfl
      · exact .inl rfl
    have above : s.windowUpdate.position base ≤
          (s.updateSendWindow segment segment.seqnum segment.acknum).windowUpdate.position base ∧
        segment.windowUpdate.position base ≤
          (s.updateSendWindow segment segment.seqnum segment.acknum).windowUpdate.position base := by
      rw [first]
      split
      · rename_i le
        exact ⟨le, le_refl _⟩
      · rename_i less
        exact ⟨le_refl _, (not_le.mp less).le⟩
    obtain ⟨member, greatest⟩ := ih (s := s.updateSendWindow segment segment.seqnum segment.acknum) fun u member => by
      rcases List.mem_cons.mp member with rfl | later
      · rcases taken with old | new
        · rw [old]
          exact nearStart
        · rw [new]
          exact nearFirst
      · exact near u (List.mem_cons_of_mem _ (List.mem_cons_of_mem _ later))
    refine ⟨?_, fun u among => ?_⟩
    · rcases List.mem_cons.mp member with start | later
      · rcases taken with old | new
        · exact List.mem_cons.mpr (.inl (start.trans old))
        · exact List.mem_cons_of_mem _ (List.mem_cons.mpr (.inl (start.trans new)))
      · exact List.mem_cons_of_mem _ (List.mem_cons_of_mem _ later)
    · rcases List.mem_cons.mp among with rfl | among
      · exact above.1.trans (greatest _ List.mem_cons_self)
      · rcases List.mem_cons.mp among with rfl | later
        · exact above.2.trans (greatest _ List.mem_cons_self)
        · exact greatest u (List.mem_cons_of_mem _ later)

/-- Whatever the order in which the segments arrive, the socket ends with the window of the
lexicographically greatest pair. -/
theorem updateSendWindows_perm (distinct : ((s.windowUpdate :: segments.map TcpSegment.windowUpdate).map WindowUpdate.pair).Nodup)
    (near : ∀ u ∈ s.windowUpdate :: segments.map TcpSegment.windowUpdate, u.Near base) {arrivals : List TcpSegment}
    (order : arrivals.Perm segments) :
    List.argmax (WindowUpdate.position base) (s.windowUpdate :: segments.map TcpSegment.windowUpdate) =
      some (s.updateSendWindows arrivals).windowUpdate := by
  have same : ∀ u, u ∈ s.windowUpdate :: arrivals.map TcpSegment.windowUpdate ↔
      u ∈ s.windowUpdate :: segments.map TcpSegment.windowUpdate :=
    fun u => ((order.map _).cons _).mem_iff
  have near' : ∀ u ∈ s.windowUpdate :: arrivals.map TcpSegment.windowUpdate, u.Near base := fun u among => near u ((same u).mp among)
  obtain ⟨member, greatest⟩ := updateSendWindows_greatest near'
  rw [List.argmax_eq_some_iff]
  refine ⟨(same _).mp member, fun u among => greatest u ((same u).mpr among), fun u among above => ?_⟩
  -- no other update has the same position
  have position := le_antisymm (greatest u ((same u).mpr among)) above
  rw [List.inj_on_of_nodup_map distinct among ((same _).mp member) (WindowUpdate.pair_eq_of_position position)]

/-- Two segments around the wrap of the sequence numbers, the later one first. -/
theorem updateSendWindows_perm_wrap :
    List.argmax (WindowUpdate.position (0xFFFFFFF0, 0)) [Sample.memory.windowUpdate, ⟨7, 0xFFFFFFFF, 5⟩, ⟨9, 2, 5⟩] =
      some (Sample.memory.updateSendWindows [Sample.segment 2 5 9 [], Sample.segment 0xFFFFFFFF 5 7 []]).windowUpdate :=
  have order : [Sample.segment 2 5 9 [], Sample.segment 0xFFFFFFFF 5 7 []].Perm
      [Sample.segment 0xFFFFFFFF 5 7 [], Sample.segment 2 5 9 []] := .swap _ _ _
  updateSendWindows_perm (by decide)
    (fun u member => by
      simp only [List.map_cons, List.map_nil, List.mem_cons, List.not_mem_nil, or_false] at member
      rcases member with rfl | rfl | rfl <;> exact ⟨by decide, by decide⟩) order

end TcpSocket

end IPStack
