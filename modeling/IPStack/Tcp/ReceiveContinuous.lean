import IPStack.Tcp.ReceiveQueue
import IPStack.Tcp.Calls
import IPStack.Lib.Reach
import Mathlib.Data.BitVec
import Mathlib.Tactic.Ring

/-! The contiguous front of the receive buffer, and when a segment at the acknowledgment
number extends it. -/

namespace IPStack

open Transition

namespace TcpReceiveBuffer

variable {c : Config} {b b' : TcpReceiveBuffer} {element last : TcpRecvElement} {r : ReceiveBuffer}
  {seqnum first : SeqNum} {len : BitVec 32} {l l' : List TcpRecvElement}

/-- The longest prefix of a list that starts at `first` and in which every element starts
where the one before it ends. -/
def chain (first : SeqNum) : List TcpRecvElement → List TcpRecvElement
  | [] => []
  | element :: rest => if element.seqNum = first then element :: chain element.getNextSeqNum rest else []

/-- The length of the elements, as the counter of the buffer adds it up. -/
def lengths (l : List TcpRecvElement) : BitVec 32 := (l.map TcpRecvElement.len).sum

@[simp] theorem lengths_nil : lengths [] = 0 := rfl

@[simp] theorem lengths_cons : lengths (element :: l) = element.len + lengths l := by simp [lengths]

@[simp] theorem lengths_append : lengths (l ++ l') = lengths l + lengths l' := by simp [lengths]

/-- The length of the elements. -/
def total (l : List TcpRecvElement) : Nat := (l.map (fun element => element.len.toNat)).sum

@[simp] theorem total_nil : total [] = 0 := rfl

@[simp] theorem total_cons : total (element :: l) = element.len.toNat + total l := by simp [total]

theorem lengths_eq_ofNat (l : List TcpRecvElement) : lengths l = BitVec.ofNat 32 (total l) := by
  induction l with
  | nil => rfl
  | cons element rest ih =>
    rw [lengths_cons, ih, total_cons, BitVec.ofNat_add, BitVec.ofNat_toNat, BitVec.setWidth_eq]

theorem lengths_le (l : List TcpRecvElement) : (lengths l).toNat ≤ total l := by
  rw [lengths_eq_ofNat, BitVec.toNat_ofNat]
  exact Nat.mod_le _ _

theorem chain_isPrefix (first : SeqNum) (l : List TcpRecvElement) : chain first l <+: l := by
  induction l generalizing first with
  | nil => exact List.prefix_refl _
  | cons element rest ih =>
    unfold chain
    split_ifs
    · exact (List.prefix_cons_inj element).mpr (ih _)
    · exact List.nil_prefix

theorem chain_chain (first : SeqNum) (l : List TcpRecvElement) : chain first (chain first l) = chain first l := by
  induction l generalizing first with
  | nil => rfl
  | cons element rest ih =>
    by_cases starts : element.seqNum = first
    · simp only [chain, if_pos starts, ih]
    · simp only [chain, if_neg starts]

theorem chain_append (joined : chain first l = l) (l' : List TcpRecvElement) :
    chain first (l ++ l') = l ++ chain (first + lengths l) l' := by
  induction l generalizing first with
  | nil => simp
  | cons element rest ih =>
    unfold chain at joined
    split_ifs at joined with starts
    rw [List.cons_append, chain, if_pos starts, ih (List.cons.inj joined).2, TcpRecvElement.getNextSeqNum, starts,
      BitVec.add_assoc, lengths_cons, List.cons_append]

theorem chain_cons (joined : chain first (element :: l) = element :: l) :
    element.seqNum = first ∧ chain (first + element.len) l = l := by
  unfold chain at joined
  split_ifs at joined with starts
  refine ⟨starts, ?_⟩
  rw [← starts]
  exact (List.cons.inj joined).2

/-- A chain ends where its elements end. -/
theorem chain_last (joined : chain first l = l) (atEnd : l.getLast? = some last) :
    last.getNextSeqNum = first + lengths l := by
  induction l generalizing first with
  | nil => simp at atEnd
  | cons element rest ih =>
    obtain ⟨starts, later⟩ := chain_cons joined
    rw [lengths_cons, ← BitVec.add_assoc]
    cases rest with
    | nil =>
      obtain rfl : element = last := Option.some.inj atEnd
      rw [TcpRecvElement.getNextSeqNum, starts, lengths_nil, add_zero]
    | cons next rest =>
      rw [List.getLast?_cons_cons] at atEnd
      exact ih later atEnd

theorem chain_eq_nil : chain first l = [] ↔ ∀ element ∈ l.head?, element.seqNum ≠ first := by
  cases l with
  | nil => simp [chain]
  | cons element rest => simp [chain]

theorem chain_drop (first : SeqNum) (l : List TcpRecvElement) :
    chain (first + lengths (chain first l)) (l.drop (chain first l).length) = [] := by
  induction l generalizing first with
  | nil => rfl
  | cons element rest ih =>
    by_cases starts : element.seqNum = first
    · rw [chain, if_pos starts, lengths_cons, ← BitVec.add_assoc, List.length_cons, List.drop_succ_cons, ← starts]
      exact ih _
    · simp [chain, starts]

/-! ### The invariant of insertion and reading -/

/-- The elements up to `recv_continuous` are contiguous from the read position on, the next
one does not join them, and `recv_bytes` is their length. -/
structure Tracked (b : TcpReceiveBuffer) : Prop where
  joined : chain b.readFirstSeqNum b.continuous = b.continuous
  bytes : b.recvBytes = lengths b.continuous
  gap : chain (b.readFirstSeqNum + b.recvBytes) b.rest = []

theorem Tracked.continuous_eq (tracked : b.Tracked) : b.continuous = chain b.readFirstSeqNum b.list := by
  rw [list, chain_append tracked.joined, ← tracked.bytes, tracked.gap, List.append_nil]

theorem ackNum_eq (sliding : c.slidingWindowReceive = true)
    (joined : chain b.readFirstSeqNum b.continuous = b.continuous) (bytes : b.recvBytes = lengths b.continuous) :
    b.getAckNum c = b.readFirstSeqNum + b.recvBytes := by
  rw [getAckNum, if_pos sliding, bytes]
  cases atEnd : b.continuous.getLast? with
  | none =>
    rw [List.getLast?_eq_none_iff.mp atEnd, lengths_nil, add_zero]
  | some last => exact chain_last joined atEnd

theorem joinContinuous_chain (b : TcpReceiveBuffer) (last : TcpRecvElement) (l : List TcpRecvElement) :
    b.joinContinuous last l = { b with
      continuous := b.continuous ++ chain last.getNextSeqNum l
      rest := l.drop (chain last.getNextSeqNum l).length
      recvBytes := b.recvBytes + lengths (chain last.getNextSeqNum l) } := by
  induction l generalizing b last with
  | nil => simp [joinContinuous, chain]
  | cons next rest ih =>
    by_cases joins : last.getNextSeqNum = next.seqNum
    · simp [joinContinuous, chain, joins, ih, BitVec.add_assoc]
    · simp [joinContinuous, chain, joins, Ne.symm joins]

/-- `recv_continuous` moves over all elements that now join. -/
theorem updateContinuous_chain (joined : chain b.readFirstSeqNum b.continuous = b.continuous)
    (bytes : b.recvBytes = lengths b.continuous) :
    b.updateContinuous = { b with
      continuous := b.continuous ++ chain (b.readFirstSeqNum + b.recvBytes) b.rest
      rest := b.rest.drop (chain (b.readFirstSeqNum + b.recvBytes) b.rest).length
      recvBytes := b.recvBytes + lengths (chain (b.readFirstSeqNum + b.recvBytes) b.rest) } := by
  unfold updateContinuous
  cases atEnd : b.continuous.getLast? with
  | some last =>
    dsimp only
    rw [joinContinuous_chain, chain_last joined atEnd, ← bytes]
  | none =>
    have empty : b.continuous = [] := List.getLast?_eq_none_iff.mp atEnd
    have zero : b.recvBytes = 0 := by rw [bytes, empty, lengths_nil]
    cases queue : b.rest with
    | nil => cases b; simp_all [chain]
    | cons head rest =>
      by_cases starts : b.readFirstSeqNum = head.seqNum
      · simp [starts, joinContinuous_chain, chain, empty, zero]
      · cases b
        simp_all [chain, Ne.symm starts]

/-- The buffer after a segment has made `rest` of the elements behind `recv_continuous`. -/
def stored (b : TcpReceiveBuffer) (rest : List TcpRecvElement) (free : List Nat) (pushFlag : Bool) : TcpReceiveBuffer :=
  { b with
    continuous := b.continuous ++ chain (b.readFirstSeqNum + b.recvBytes) rest
    rest := rest.drop (chain (b.readFirstSeqNum + b.recvBytes) rest).length
    free := free
    recvBytes := b.recvBytes + lengths (chain (b.readFirstSeqNum + b.recvBytes) rest)
    pushFlag := pushFlag }

theorem Tracked.stored_eq (tracked : b.Tracked) (rest : List TcpRecvElement) (free : List Nat) (pushFlag : Bool) :
    { updateContinuous { b with rest := rest, free := free } with pushFlag := pushFlag } = b.stored rest free pushFlag := by
  have updated := updateContinuous_chain (b := { b with rest := rest, free := free }) tracked.joined tracked.bytes
  rw [updated]
  rfl

theorem Tracked.stored (tracked : b.Tracked) (rest : List TcpRecvElement) (free : List Nat) (pushFlag : Bool) :
    (b.stored rest free pushFlag).Tracked := by
  refine ⟨?_, ?_, ?_⟩
  · dsimp only [TcpReceiveBuffer.stored]
    rw [chain_append tracked.joined, ← tracked.bytes, chain_chain]
  · dsimp only [TcpReceiveBuffer.stored]
    rw [lengths_append, tracked.bytes]
  · dsimp only [TcpReceiveBuffer.stored]
    rw [← BitVec.add_assoc]
    exact chain_drop _ _

theorem Tracked.inserted_eq (tracked : b.Tracked) (inserted : b.insertSlidingWindow r seqnum len = some b') :
    ∃ slot free, b.free = slot :: free ∧ ¬ seqLt seqnum b.readFirstSeqNum ∧
      ∃ rest, b.search (.setSegment slot r len seqnum) = some rest ∧ b' = b.stored rest free (b.pushFlag || r.segment.psh) := by
  obtain ⟨slot, free, slots, notOld, rest, found, rfl⟩ := insertSlidingWindow_eq inserted
  exact ⟨slot, free, slots, notOld, rest, found, tracked.stored_eq ..⟩

theorem Tracked.insertSlidingWindow (tracked : b.Tracked) (inserted : b.insertSlidingWindow r seqnum len = some b') :
    b'.Tracked := by
  obtain ⟨slot, free, -, -, rest, -, rfl⟩ := tracked.inserted_eq inserted
  exact tracked.stored ..

theorem consume_zero (l : List TcpRecvElement) : consume 0 l = ⟨[], [], [], l, 0⟩ := by
  cases l <;> simp [consume]

/-- Reading no more than the length of a chain leaves the chain from the new position on. -/
theorem consume_chain (joined : chain first l = l) (available : len.toNat ≤ total l) :
    (consume len l).len = 0 ∧ chain (first + len) (consume len l).left = (consume len l).left ∧
      lengths (consume len l).left = lengths l - len := by
  induction l generalizing first len with
  | nil =>
    have zero : len = 0 := BitVec.eq_of_toNat_eq (by simpa using available)
    subst zero
    simp [consume, chain]
  | cons head rest ih =>
    obtain ⟨starts, later⟩ := chain_cons joined
    rw [total_cons] at available
    by_cases zero : len = 0
    · subst zero
      rw [consume_zero, add_zero, sub_zero]
      exact ⟨rfl, joined, rfl⟩
    by_cases whole : head.len ≤ len
    · rw [consume, if_neg zero, if_pos whole]
      have left : (len - head.len).toNat = len.toNat - head.len.toNat := BitVec.toNat_sub_of_le whole
      have fewer : (len - head.len).toNat ≤ total rest := by omega
      obtain ⟨done, chained, bytes⟩ := ih later fewer
      refine ⟨done, ?_, ?_⟩
      · rw [show first + head.len + (len - head.len) = first + len by ring] at chained
        exact chained
      · dsimp only
        rw [bytes, lengths_cons]
        ring
    · rw [consume, if_neg zero, if_neg whole]
      refine ⟨rfl, ?_, ?_⟩
      · have next : (head.increment len).getNextSeqNum = head.getNextSeqNum := by
          simp only [TcpRecvElement.increment, TcpRecvElement.getNextSeqNum]
          ring
        rw [chain, if_pos (by rw [TcpRecvElement.increment, starts]), next, TcpRecvElement.getNextSeqNum, starts, later]
      · simp only [lengths_cons, TcpRecvElement.increment]
        ring

theorem Tracked.available (tracked : b.Tracked) (allowed : len ≤ b.recvBytes) :
    len.toNat ≤ total b.continuous := by
  have counted := lengths_le b.continuous
  rw [← tracked.bytes] at counted
  exact le_trans (BitVec.le_def.mp allowed) counted

/-- Within `recv_bytes` reading stops at `recv_continuous`. -/
theorem Tracked.copyData_eq (tracked : b.Tracked) (allowed : len ≤ b.recvBytes) :
    b.copyDataSlidingWindow len = ((consume len b.continuous).bytes, (consume len b.continuous).freed,
      { b with
        continuous := (consume len b.continuous).left
        free := (consume len b.continuous).slots.reverse ++ b.free
        recvBytes := b.recvBytes - len
        readFirstSeqNum := b.readFirstSeqNum + len
        pushFlag := if (consume len b.continuous).freed ≠ [] ∧ (consume len b.continuous).left ++ b.rest = [] then false
          else b.pushFlag }) := by
  have done := (consume_chain tracked.joined (tracked.available allowed)).1
  unfold copyDataSlidingWindow
  simp only [done, consume_zero, List.append_nil]

theorem Tracked.copyData (tracked : b.Tracked) (allowed : len ≤ b.recvBytes) :
    (b.copyDataSlidingWindow len).2.2.Tracked := by
  obtain ⟨-, chained, bytes⟩ := consume_chain tracked.joined (tracked.available allowed)
  rw [tracked.copyData_eq allowed]
  refine ⟨chained, ?_, ?_⟩
  · dsimp only
    rw [bytes, tracked.bytes]
  · dsimp only
    rw [show b.readFirstSeqNum + len + (b.recvBytes - len) = b.readFirstSeqNum + b.recvBytes by ring]
    exact tracked.gap

/-! ### Runs -/

/-- A call of the buffer's user: a segment that has arrived, or a read. -/
inductive Call where
  | insert (r : ReceiveBuffer) (seqnum : SeqNum) (len : BitVec 32)
  | copyData (len : BitVec 32)

def call (c : Config) (b : TcpReceiveBuffer) : Call → TcpReceiveBuffer
  | .insert r seqnum len => (b.insert c r seqnum len).getD b
  | .copyData len => (b.copyData c len).2.2

/-- What `copyData` leaves to its caller: no more is read than has been received. -/
def allowed (c : Config) (b : TcpReceiveBuffer) : Call → Prop
  | .insert .. => True
  | .copyData len => len ≤ b.getRecvBytes c

instance (c : Config) (b : TcpReceiveBuffer) : (a : Call) → Decidable (allowed c b a)
  | .insert .. => inferInstanceAs (Decidable True)
  | .copyData len => inferInstanceAs (Decidable (len ≤ b.getRecvBytes c))

/-- The buffer at the start of a connection. -/
def start (c : Config) (memory : TcpReceiveBuffer) (first : SeqNum) : TcpReceiveBuffer :=
  (construct c memory).setFirstSeqNum first

theorem tracked_start (c : Config) (memory : TcpReceiveBuffer) (first : SeqNum) : (start c memory first).Tracked :=
  ⟨rfl, rfl, rfl⟩

theorem call_insert (sliding : c.slidingWindowReceive = true) (b : TcpReceiveBuffer) :
    b.call c (.insert r seqnum len) = (b.insertSlidingWindow r seqnum len).getD b := by
  simp [call, insert, sliding]

theorem call_copyData (sliding : c.slidingWindowReceive = true) (b : TcpReceiveBuffer) :
    b.call c (.copyData len) = (b.copyDataSlidingWindow len).2.2 := by
  simp [call, copyData, sliding]

theorem getRecvBytes_eq (sliding : c.slidingWindowReceive = true) (b : TcpReceiveBuffer) :
    b.getRecvBytes c = b.recvBytes := by
  simp [getRecvBytes, sliding]

theorem Tracked.call (sliding : c.slidingWindowReceive = true) (tracked : b.Tracked) {a : Call} (ok : allowed c b a) :
    (b.call c a).Tracked := by
  cases a with
  | insert r seqnum len =>
    rw [call_insert sliding]
    cases inserted : b.insertSlidingWindow r seqnum len with
    | none => exact tracked
    | some b' => exact tracked.insertSlidingWindow inserted
  | copyData len =>
    rw [call_copyData sliding]
    exact tracked.copyData (getRecvBytes_eq sliding b ▸ ok)

theorem Tracked.reach (sliding : c.slidingWindowReceive = true) {memory : TcpReceiveBuffer}
    (reach : Reach (TcpReceiveBuffer.call c) (allowed c) (start c memory first) b) : b.Tracked :=
  reach.invariant Tracked (tracked_start c memory first) (fun _ _ tracked ok => tracked.call sliding ok)

/-! ### Progress -/

/-- The segment at the acknowledgment number is stored behind the contiguous elements, and
the number moves over it and over what joins it. -/
def Advances (c : Config) (b : TcpReceiveBuffer) (r : ReceiveBuffer) (len : BitVec 32) : Prop :=
  ∃ b' slot more, b.insert c r (b.getAckNum c) len = some b' ∧
    b'.continuous = b.continuous ++ .setSegment slot r len (b.getAckNum c) :: more ∧
      b'.getAckNum c = b.getAckNum c + (len + lengths more)

/-- There is a free element, and the first one behind the contiguous part starts after the
acknowledgment number, as the sequence numbers compare. -/
def admits (c : Config) (b : TcpReceiveBuffer) : Prop :=
  b.free ≠ [] ∧ ¬ seqLt (b.getAckNum c) b.readFirstSeqNum ∧
    ∀ element ∈ b.rest.head?,
      ¬ seqGeq (b.getAckNum c) element.getNextSeqNum ∧ ¬ seqGeq (b.getAckNum c) element.seqNum

instance (c : Config) (b : TcpReceiveBuffer) : Decidable (b.admits c) := inferInstanceAs (Decidable (_ ∧ _ ∧ _))

/-- All elements are in use, and reading can free one. -/
def readable (c : Config) (b : TcpReceiveBuffer) : Prop := b.free = [] ∧ 0 < b.getRecvBytes c

/-- A segment at the acknowledgment number is searched for behind `recv_continuous`. -/
theorem Tracked.search_eq (tracked : b.Tracked) (sliding : c.slidingWindowReceive = true)
    (atAck : element.seqNum = b.getAckNum c) : b.search element = place element b.rest := by
  unfold search
  cases atEnd : b.continuous.getLast? with
  | none => rfl
  | some last =>
    have ends : element.seqNum = last.getNextSeqNum := by
      rw [atAck, ackNum_eq sliding tracked.joined tracked.bytes, tracked.bytes, chain_last tracked.joined atEnd]
    dsimp only
    rw [ends, if_pos (by simp [seqGeq])]

theorem place_first (starts : element.seqNum = seqnum) (first : ∀ current ∈ l.head?,
      ¬ seqGeq seqnum current.getNextSeqNum ∧ ¬ seqGeq seqnum current.seqNum) :
    place element l = some (element :: l) := by
  subst starts
  cases l with
  | nil => rfl
  | cons current rest =>
    obtain ⟨notAfter, notSame⟩ := first current rfl
    rw [place, if_neg notAfter, if_neg notSame]

/-- Otherwise the segment is refused or put behind the first element. -/
theorem place_later {current : TcpRecvElement} (starts : element.seqNum = seqnum) (isHead : current ∈ l.head?)
    (comes : seqGeq seqnum current.getNextSeqNum ∨ seqGeq seqnum current.seqNum)
    (placed : place element l = some l') : l'.head? = some current := by
  subst starts
  cases l with
  | nil => simp at isHead
  | cons head rest =>
    obtain rfl : head = current := Option.some.inj isHead
    unfold place at placed
    split_ifs at placed with after same
    · obtain ⟨rest', -, rfl⟩ := Option.map_eq_some_iff.mp placed
      rfl
    · exact absurd comes (not_or.mpr ⟨after, same⟩)

theorem Tracked.advances (tracked : b.Tracked) (sliding : c.slidingWindowReceive = true) (admits : b.admits c)
    (r : ReceiveBuffer) (len : BitVec 32) : b.Advances c r len := by
  obtain ⟨nonempty, notOld, first⟩ := admits
  obtain ⟨slot, free, slots⟩ := List.exists_cons_of_ne_nil nonempty
  have ack := ackNum_eq sliding tracked.joined tracked.bytes
  have found : b.search (.setSegment slot r len (b.getAckNum c)) = some (.setSegment slot r len (b.getAckNum c) :: b.rest) := by
    rw [tracked.search_eq sliding (TcpRecvElement.seqNum_setSegment ..)]
    exact place_first (TcpRecvElement.seqNum_setSegment ..) first
  have joins : chain (b.readFirstSeqNum + b.recvBytes) (.setSegment slot r len (b.getAckNum c) :: b.rest)
      = .setSegment slot r len (b.getAckNum c) :: chain (b.getAckNum c + len) b.rest := by
    rw [← ack, chain, if_pos (TcpRecvElement.seqNum_setSegment ..), TcpRecvElement.getNextSeqNum_setSegment]
  refine ⟨b.stored (.setSegment slot r len (b.getAckNum c) :: b.rest) free (b.pushFlag || r.segment.psh), slot,
    chain (b.getAckNum c + len) b.rest, ?_, ?_, ?_⟩
  · rw [insert, if_pos sliding, insertSlidingWindow_found slots notOld found, tracked.stored_eq]
  · rw [TcpReceiveBuffer.stored, joins]
  · have moved := tracked.stored (.setSegment slot r len (b.getAckNum c) :: b.rest) free (b.pushFlag || r.segment.psh)
    rw [ackNum_eq sliding moved.joined moved.bytes, TcpReceiveBuffer.stored, joins]
    dsimp only
    rw [lengths_cons, TcpRecvElement.len_setSegment, ← BitVec.add_assoc, ← ack]

/-- If the number moves over the segment, the segment was put directly behind the
contiguous elements. -/
theorem Tracked.admits_of_advances (tracked : b.Tracked) (sliding : c.slidingWindowReceive = true)
    (advances : b.Advances c r len) : b.admits c := by
  obtain ⟨b', slot', more, inserted, extended, -⟩ := advances
  rw [insert, if_pos sliding] at inserted
  obtain ⟨slot, free, slots, notOld, rest, found, rfl⟩ := tracked.inserted_eq inserted
  refine ⟨by simp [slots], notOld, fun current isHead => ?_⟩
  by_contra comes
  rw [not_and_or, not_not, not_not] at comes
  rw [tracked.search_eq sliding (TcpRecvElement.seqNum_setSegment ..)] at found
  have front := place_later (TcpRecvElement.seqNum_setSegment ..) isHead comes found
  rw [TcpReceiveBuffer.stored, List.append_cancel_left_eq] at extended
  obtain ⟨behind, starts⟩ := List.head?_eq_some_iff.mp front
  have gap := chain_eq_nil.mp tracked.gap current isHead
  rw [starts, chain, if_neg gap] at extended
  exact List.cons_ne_nil _ _ extended.symm

/-- In every state that segments and reads lead to, the segment at the acknowledgment
number is stored, and the number moves over it, exactly when there is a free element and no
out-of-order segment starts at or before the number; a full buffer can be emptied exactly
when it holds contiguous data. -/
theorem advances_iff (sliding : c.slidingWindowReceive = true) {memory : TcpReceiveBuffer}
    (reach : Reach (call c) (allowed c) (start c memory first) b) (r : ReceiveBuffer) (len : BitVec 32) :
    b.Advances c r len ∨ b.readable c ↔ b.admits c ∨ b.readable c := by
  have tracked := Tracked.reach sliding reach
  exact or_congr_left ⟨tracked.admits_of_advances sliding, fun admits => tracked.advances sliding admits r len⟩

end TcpReceiveBuffer

namespace Sample

/-- A segment of `len` zero bytes at a sequence number. -/
def insertAt (seqnum : SeqNum) (len : Nat) : TcpReceiveBuffer.Call :=
  .insert ⟨0, 0, segment seqnum 0 0 (List.replicate len 0)⟩ seqnum (BitVec.ofNat 32 len)

/-- The buffer of a connection whose peer starts at sequence number 0, after some calls. -/
def buffered (calls : List TcpReceiveBuffer.Call) : TcpReceiveBuffer :=
  calls.foldl (TcpReceiveBuffer.call config) (.start config memory.receiveBuffer 0)

/-- The bytes 10 to 19 arrive first, and then 0 to 14 in a segment that overlaps them. -/
def overlapping : List TcpReceiveBuffer.Call := [insertAt 10 10, insertAt 0 15, .copyData 15]

/-- Segments behind a gap take all elements. -/
def outOfOrder : List TcpReceiveBuffer.Call := (List.range 8).map (fun i => insertAt (BitVec.ofNat 32 (10 + 10 * i)) 10)

end Sample

namespace TcpReceiveBuffer

/-- The segment at the acknowledgment number 15 counts as a duplicate of the bytes 10 to 19,
although seven elements are free and all contiguous data has been read. Segments behind a
gap can also take all elements, and then nothing can be read and nothing is inserted. -/
theorem overlapping_refused :
    (∃ b, Reach (call Sample.config) (allowed Sample.config) (start Sample.config Sample.memory.receiveBuffer 0) b ∧
      b.getAckNum Sample.config = 15 ∧ b.free.length = 7 ∧ b.getRecvBytes Sample.config = 0 ∧
        b.insert Sample.config ⟨0, 30, Sample.segment 15 0 0 [1, 2, 3, 4, 5, 6, 7, 8, 9, 10]⟩ 15 10 = none) ∧
      ∃ b, Reach (call Sample.config) (allowed Sample.config) (start Sample.config Sample.memory.receiveBuffer 0) b ∧
        b.getAckNum Sample.config = 0 ∧ b.getRecvBytes Sample.config = 0 ∧
          b.insert Sample.config ⟨0, 30, Sample.segment 0 0 0 [1, 2, 3, 4, 5, 6, 7, 8, 9, 10]⟩ 0 10 = none :=
  ⟨⟨Sample.buffered Sample.overlapping, Reach.start.foldl (by decide +kernel), by decide +kernel, by decide +kernel,
      by decide +kernel, by decide +kernel⟩,
    Sample.buffered Sample.outOfOrder, Reach.start.foldl (by decide +kernel), by decide +kernel, by decide +kernel,
      by decide +kernel⟩

/-- The missing bytes 0 to 9 join those that arrived before them. -/
theorem advances_iff_gap :
    (Sample.buffered [Sample.insertAt 10 10]).Advances Sample.config ⟨0, 30, Sample.segment 0 0 0 (List.replicate 10 0)⟩ 10 ∨
      (Sample.buffered [Sample.insertAt 10 10]).readable Sample.config :=
  (advances_iff rfl (Reach.start.foldl (by decide +kernel)) _ _).mpr (.inl (by decide +kernel))

end TcpReceiveBuffer

end IPStack
