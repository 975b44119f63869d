import IPStack.Tcp.ReceiveRounds

/-! The receive buffer of the build that holds a single segment. -/

namespace IPStack

open Transition

namespace TcpReceiveBuffer

variable {c : Config} {b b' : TcpReceiveBuffer} {r : ReceiveBuffer} {seqnum : SeqNum} {len : BitVec 32}

/-- At most one segment is stored, and it starts at `read_firstSeqNum`. -/
structure Aligned (b : TcpReceiveBuffer) : Prop where
  single : b.list.length ≤ 1
  first : ∀ head ∈ b.list.head?, head.seqNum = b.readFirstSeqNum

theorem Aligned.ackNum (aligned : b.Aligned) (single : c.slidingWindowReceive = false) :
    b.getAckNum c = b.readFirstSeqNum + b.getRecvBytes c := by
  have first := aligned.first
  unfold getAckNum getRecvBytes
  rw [if_neg (by simp [single]), if_neg (by simp [single])]
  cases head : b.list.head? with
  | none => exact (BitVec.add_zero _).symm
  | some head' =>
    rw [head] at first
    rw [← first head' rfl]
    rfl

theorem aligned_of_empty (empty : b.list = []) : b.Aligned :=
  ⟨by simp [empty], by simp [empty]⟩

theorem aligned_insert (single : c.slidingWindowReceive = false)
    (inserted : b.insert c r seqnum len = some b') : b'.Aligned := by
  rw [TcpReceiveBuffer.insert, if_neg (by simp [single])] at inserted
  obtain ⟨first, empty, rfl⟩ := insertSingle_eq inserted
  have none : b.continuous = [] := (List.append_eq_nil_iff.mp empty).1
  refine ⟨by simp [list, none], fun head member => ?_⟩
  simp only [list, none, List.nil_append, List.head?_cons, Option.mem_def, Option.some.injEq] at member
  rw [← member]
  exact first

/-- Reading moves the first sequence number and the start of the segment alike. -/
theorem Aligned.copyData (aligned : b.Aligned) (single : c.slidingWindowReceive = false) (len : BitVec 32) :
    (b.copyData c len).2.2.Aligned := by
  rw [TcpReceiveBuffer.copyData, if_neg (by simp [single])]
  unfold copyDataSingle
  have one := aligned.single
  have first := aligned.first
  cases elements : b.list with
  | nil => exact aligned_of_empty elements
  | cons head rest =>
    rw [elements, List.length_cons] at one
    rw [elements] at first
    have last : rest = [] := List.eq_nil_of_length_eq_zero (by omega)
    dsimp only
    split_ifs
    · exact aligned_of_empty (by simp [list, last])
    · refine ⟨by simp [list, last], fun head' member => ?_⟩
      simp only [list, List.nil_append, List.head?_cons, Option.mem_def, Option.some.injEq] at member
      rw [← member]
      exact congrArg (· + len) (first head rfl)

/-- A new first sequence number fits if the stored segment, if there is one, starts there. -/
theorem Aligned.setFirstSeqNum_iff (aligned : b.Aligned) (seqnum : SeqNum) :
    (b.setFirstSeqNum seqnum).Aligned ↔ ∀ head ∈ b.list.head?, head.seqNum = seqnum :=
  ⟨fun moved => moved.first, fun first => ⟨aligned.single, first⟩⟩

/-- A call of `copyData` with a stored segment and at most its length. -/
def Copyable (b : TcpReceiveBuffer) (len : BitVec 32) : Prop := ∃ head ∈ b.list.head?, len ≤ head.len

end TcpReceiveBuffer

namespace TcpSocket

variable {c : Config} {e : Env} {s : TcpSocket} {r : ReceiveBuffer}

theorem getRecvBytes_single (single : c.slidingWindowReceive = false) (b : TcpReceiveBuffer) :
    b.getRecvBytes c = match b.list.head? with
      | none => 0
      | some element => element.len := if_neg (by simp [single])

/-- The length is at most what is stored, and in ESTABLISHED something is. -/
theorem copyCall_le {len : BitVec 32} (call : s.copyCall c e = some len) :
    len ≤ s.receiveBuffer.getRecvBytes c ∧ (s.state = .established → 0 < s.receiveBuffer.getRecvBytes c) := by
  unfold copyCall at call
  dsimp only at call
  split at call
  · split at call
    · split at call
      · rename_i some
        rw [← Option.some.inj call]
        refine ⟨?_, fun _ => some⟩
        split
        · rename_i less
          exact BitVec.le_of_lt less
        · exact BitVec.le_refl _
      · exact absurd call nofun
    · rename_i state
      rw [← Option.some.inj call]
      refine ⟨?_, fun other => absurd (state.symm.trans other) nofun⟩
      split
      · exact BitVec.le_refl _
      · rename_i notLess
        exact BitVec.not_lt.mp notLess
    · exact absurd call nofun
  · exact absurd call nofun

theorem copyCall_copyable (single : c.slidingWindowReceive = false) {len : BitVec 32} (call : s.copyCall c e = some len) :
    s.receiveBuffer.Copyable len ↔ s.receiveBuffer.list ≠ [] := by
  have fits := (copyCall_le call).1
  rw [getRecvBytes_single single] at fits
  unfold TcpReceiveBuffer.Copyable
  cases elements : s.receiveBuffer.list with
  | nil => simp
  | cons head rest =>
    rw [elements] at fits
    exact ⟨fun _ => List.cons_ne_nil _ _, fun _ => ⟨head, rfl, fits⟩⟩

/-- The read is safe: in CLOSEWAIT, a waiting `receive` finds a stored segment. -/
def readsStored (c : Config) (e : Env) (s : TcpSocket) : Prop :=
  s.state = .closewait → (s.updateHistory c e true).receiving = true → s.receiveBuffer.list ≠ []

instance (c : Config) (e : Env) (s : TcpSocket) : Decidable (s.readsStored c e) := inferInstanceAs (Decidable (_ → _ → _))

theorem copyCall_iff (single : c.slidingWindowReceive = false) :
    (∀ len, s.copyCall c e = some len → s.receiveBuffer.Copyable len) ↔ s.readsStored c e := by
  constructor
  · intro copyable state receiving
    have call : ∃ len, s.copyCall c e = some len := by
      unfold copyCall
      dsimp only
      rw [if_pos receiving, state]
      exact ⟨_, rfl⟩
    obtain ⟨len, call⟩ := call
    exact (copyCall_copyable single call).mp (copyable len call)
  · intro stored len call
    rw [copyCall_copyable single call]
    by_cases closing : s.state = .closewait
    · refine stored closing (Classical.byContradiction fun idle => ?_)
      rw [copyCall, if_neg idle] at call
      exact absurd call nofun
    · by_cases opened : s.state = .established
      · intro empty
        have some := (copyCall_le call).2 opened
        rw [getRecvBytes_single single, empty] at some
        exact absurd some (by decide)
      · rw [copyCall_none opened closing] at call
        exact absurd call nofun

/-- A SYN begins at the segment that is stored, if one is left. -/
def startsStored (c : Config) (e : Env) (s : TcpSocket) (segment : TcpSegment) : Prop :=
  s.startsStream c e segment → ∀ head ∈ s.receiveBuffer.list.head?, head.seqNum = segment.seqnum + 1

instance (c : Config) (e : Env) (s : TcpSocket) (segment : TcpSegment) : Decidable (s.startsStored c e segment) :=
  inferInstanceAs (Decidable (_ → _))

theorem aligned_idle (single : c.slidingWindowReceive = false) (aligned : s.receiveBuffer.Aligned) :
    (s.receiveBufferIdle c e).Aligned := by
  unfold receiveBufferIdle
  split
  · exact aligned
  · exact aligned.copyData single _

theorem aligned_taking (single : c.slidingWindowReceive = false) (aligned : s.receiveBuffer.Aligned) :
    (s.receiveBufferTaking c e r).Aligned ↔ s.startsStored c e r.segment := by
  unfold receiveBufferTaking startsStored
  by_cases starts : s.startsStream c e r.segment
  · rw [if_pos starts, aligned.setFirstSeqNum_iff]
    exact ⟨fun first _ => first, fun first => first starts⟩
  · rw [if_neg starts]
    refine iff_of_true ?_ fun begins => absurd begins starts
    split
    · unfold dataTaken
      split
      · have same : (s.handleFin r.segment r.segment.seqnum r.payloadLen).receiveBuffer = s.receiveBuffer := by
          rw [handleFin_eq]
        unfold handleData
        split
        · split
          · rename_i inserted
            exact TcpReceiveBuffer.aligned_insert single inserted
          · exact same ▸ aligned
        · exact same ▸ aligned
      · exact aligned
    · exact aligned

end TcpSocket

namespace Machine

open TcpSocket

variable {c : Config} {e : Env} {m : Machine}

/-- The call of `copyData` in the step, if there is one, has a stored segment and at most its
length. -/
def copiesStored (c : Config) (m : Machine) (a : Env × Event) : Prop :=
  match a.2, m.inputOf a.1 with
  | .tick, some (s, none) => ∀ len, s.copyCall c a.1 = some len → s.receiveBuffer.Copyable len
  | _, _ => True

/-- In CLOSEWAIT a `receive` finds a stored segment, and a handshake begins with an empty buffer or
where the segment left over starts. -/
def readsAligned (c : Config) (m : Machine) (a : Env × Event) : Prop :=
  match a.2, m.inputOf a.1 with
  | .tick, some (s, none) => s.readsStored c a.1
  | .tick, some (s, some r) => s.startsStored c a.1 r.segment
  | _, _ => True

instance (c : Config) (m : Machine) (a : Env × Event) : Decidable (m.readsAligned c a) := by
  delta readsAligned
  generalize m.inputOf a.1 = input
  rcases a with ⟨e, event⟩
  rcases event <;> rcases input with _ | ⟨s, _ | r⟩ <;> dsimp only <;> infer_instance

theorem step_aligned (single : c.slidingWindowReceive = false) {a : Env × Event} (aligned : m.sock.receiveBuffer.Aligned) :
    m.copiesStored c a ∧ (m.step c a).sock.receiveBuffer.Aligned ↔ m.readsAligned c a := by
  obtain ⟨e, event⟩ := a
  have buffer := step_receiveBuffer c e m event
  unfold copiesStored readsAligned
  rw [buffer]
  cases event with
  | tick =>
    cases calls : m.inputOf e with
    | none => exact iff_of_true ⟨trivial, aligned⟩ trivial
    | some input =>
      obtain ⟨s, segment⟩ := input
      have same := inputOf_receiveBuffer calls
      rw [← same] at aligned
      cases segment with
      | none => exact (and_iff_left (aligned_idle single aligned)).trans (copyCall_iff single)
      | some r => exact (and_iff_right trivial).trans (aligned_taking single aligned)
  | _ => exact iff_of_true ⟨trivial, aligned⟩ trivial

/-- Every call of `copyData` is safe and every state has its segment where it is read from. -/
def SingleSegment (c : Config) (memory : TcpSocket) (inputs : List (Env × Event)) : Prop :=
  Follows (step c) (copiesStored c) (construct c memory) inputs ∧
    ∀ l, l <+: inputs →
      let b := (l.foldl (step c) (construct c memory)).sock.receiveBuffer
      b.Aligned ∧ b.getAckNum c = b.readFirstSeqNum + b.getRecvBytes c

theorem singleSegment_iff (single : c.slidingWindowReceive = false) (memory : TcpSocket) (inputs : List (Env × Event)) :
    SingleSegment c memory inputs ↔ Follows (step c) (readsAligned c) (construct c memory) inputs := by
  have base : (construct c memory).sock.receiveBuffer.Aligned := by
    refine TcpReceiveBuffer.aligned_of_empty ?_
    change (memory.construct c).receiveBuffer.list = []
    rw [construct_eq]
    rfl
  have exact : ∀ (m : Machine) (a : Env × Event), m.sock.receiveBuffer.Aligned →
      (copiesStored c m a ∧ (step c m a).sock.receiveBuffer.Aligned ↔ readsAligned c m a) :=
    fun m a aligned => step_aligned single aligned
  rw [← Follows.iff_forall_prefix_and exact base inputs]
  unfold SingleSegment
  refine and_congr_right fun _ => forall_congr' fun l => forall_congr' fun _ => ?_
  exact ⟨And.left, fun aligned => ⟨aligned, aligned.ackNum single⟩⟩

end Machine

/-! ### Examples -/

/-- The build without the sliding window for receiving. -/
def Sample.singleConfig : Config := { config with slidingWindowReceive := false }

/-- A segment with a byte, which `receive` reads. -/
def Sample.readsByte : List (Env × Event) :=
  opening ++ receives (segment 1001 1 1000 [7]) ++ [(env, .receive [0] (by decide)), (env, .tick), (env, .tick)]

/-- The peer closes, and the application calls `receive` once more. -/
def Sample.readsBehindFin : List (Env × Event) :=
  opening ++ (env, .poll) :: receives { segment 1001 1 1000 [] with fin := true } ++
    [(env, .tick), (env, .receive [0] (by decide)), (env, .tick)]

namespace Machine

theorem singleSegment_readsByte : SingleSegment Sample.singleConfig Sample.memory Sample.readsByte :=
  (singleSegment_iff rfl Sample.memory Sample.readsByte).mpr (by decide +kernel)

/-- The call reads the head of an empty buffer. -/
theorem readsBehindFin_unstored : ¬∀ (c : Config) (memory : TcpSocket) (inputs : List (Env × Event)),
    c.slidingWindowReceive = false → SingleSegment c memory inputs := by
  intro always
  have reads := (singleSegment_iff rfl Sample.memory Sample.readsBehindFin).mp
    (always Sample.singleConfig Sample.memory Sample.readsBehindFin rfl)
  exact absurd reads (by decide +kernel)

end Machine

end IPStack
