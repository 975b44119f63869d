import Mathlib.Data.List.Chain
import IPStack.Tcp.ReceiveWindow

/-! The acknowledgement numbers of the segments that a connection sends. -/

namespace IPStack

open Serial Transition

/-- Newest first, no number is before the one sent ahead of it. -/
def Ascending (acks : List SeqNum) : Prop := acks.IsChain fun later earlier => seqLeq earlier later

instance (acks : List SeqNum) : Decidable (Ascending acks) := inferInstanceAs (Decidable (acks.IsChain _))

theorem seqLeq_of_gap {a b : SeqNum} (near : gap a b < 2 ^ 31) : seqLeq a b := by
  have below := seqLeq_add a near
  rwa [add_gap] at below

theorem Ascending.append {l acks : List SeqNum} {n : SeqNum} (ascending : Ascending acks) (all : ∀ x ∈ l, x = n)
    (above : ∀ x ∈ acks.head?, seqLeq x n) :
    Ascending (l ++ acks) ∧ ∀ x ∈ (l ++ acks).head?, x = n ∨ x ∈ acks.head? := by
  induction l with
  | nil => exact ⟨ascending, fun _ member => .inr member⟩
  | cons y rest ih =>
    obtain ⟨chain, heads⟩ := ih fun x member => all x (List.mem_cons_of_mem _ member)
    obtain rfl := all y List.mem_cons_self
    refine ⟨List.isChain_cons.mpr ⟨fun x member => ?_, chain⟩, fun x member => .inl (Option.some.inj member).symm⟩
    rcases heads x member with same | earlier
    · rw [same]
      exact seqLeq_of_gap (by simp)
    · exact above x earlier

namespace TcpSocket

variable {c : Config} {s s' : TcpSocket}

instance (s : TcpSocket) : Decidable s.Unopened := inferInstanceAs (Decidable (_ ∨ _))

/-- Without a known FIN the receive buffer's number is expected next. -/
theorem nextExpected_of_unfinished (unfinished : s.finReceived = false) : s.nextExpected c = s.receiveBuffer.getAckNum c :=
  if_neg fun complete => absurd (unfinished.symm.trans complete.1) Bool.false_ne_true

theorem nextExpected_of_lasting (same : s'.lasting = s.lasting)
    (number : s'.receiveBuffer.getAckNum c = s.receiveBuffer.getAckNum c) :
    (s'.finComplete c ↔ s.finComplete c) ∧ s'.finSeqnum = s.finSeqnum ∧ s'.nextExpected c = s.nextExpected c := by
  have received : s'.finReceived = s.finReceived := congrArg Lasting.finReceived same
  have seqnum : s'.finSeqnum = s.finSeqnum := congrArg Lasting.finSeqnum same
  have complete : s'.finComplete c ↔ s.finComplete c := by
    unfold finComplete
    rw [received, seqnum, number]
  refine ⟨complete, seqnum, ?_⟩
  unfold nextExpected
  simp only [complete, seqnum, number]

end TcpSocket

namespace Machine

/-- The segments that a step hands to the interface, newest first. -/
def emittedBy (c : Config) (m : Machine) (a : Env × Event) : List TcpSegment :=
  let wire := (m.step c a).sock.trace.wire
  wire.take (wire.length - m.sock.trace.wire.length)

theorem emittedBy_eq {c : Config} {m : Machine} {a : Env × Event} {emitted : List TcpSegment}
    (wire : (m.step c a).sock.trace.wire = emitted ++ m.sock.trace.wire) : m.emittedBy c a = emitted := by
  unfold emittedBy
  rw [wire]
  simp

end Machine

/-- A machine, and the acknowledgement numbers that its connection has sent, newest first. -/
structure AckRun where
  machine : Machine
  acks : List SeqNum

namespace AckRun

open TcpSocket

variable {c : Config} {o : AckRun} {a : Env × Event}

/-! ### What is observed -/

/-- The socket is not closed, and its connection not aborted. -/
def alive (o : AckRun) : Prop := o.machine.sock.state ≠ .closed ∧ o.machine.sock.trace.aborted = false

instance (o : AckRun) : Decidable o.alive := inferInstanceAs (Decidable (_ ∧ _))

/-- The acknowledgement numbers that a step sends, newest first. -/
def emittedAcks (c : Config) (o : AckRun) (a : Env × Event) : List SeqNum :=
  if o.alive then ((o.machine.emittedBy c a).filter TcpSegment.ack).map TcpSegment.acknum else []

/-- The numbers of a connection are forgotten with its end. -/
def step (c : Config) (o : AckRun) (a : Env × Event) : AckRun :=
  let next := o.machine.step c a
  ⟨next, if next.sock.Unopened then [] else o.emittedAcks c a ++ o.acks⟩

def construct (c : Config) (memory : TcpSocket) : AckRun := ⟨Machine.construct c memory, []⟩

/-- The numbers ascend; and behind a complete FIN, which stays complete while the connection goes
on, every segment acknowledges the FIN. -/
structure KeepsAcks (c : Config) (o : AckRun) (a : Env × Event) : Prop where
  ascending : Ascending (o.emittedAcks c a ++ o.acks)
  finished : ∀ s, s = o.machine.sock ∨ s = (o.machine.step c a).sock → s.connected → s.finComplete c →
    ∀ segment ∈ o.machine.emittedBy c a, segment.acks (s.finSeqnum + 1)
  stays : o.machine.sock.connected → o.machine.sock.finComplete c → (o.machine.step c a).sock.connected →
    (o.machine.step c a).sock.finComplete c ∧ (o.machine.step c a).sock.finSeqnum = o.machine.sock.finSeqnum

/-- What is sent again has the number that was sent last, or acknowledges a complete FIN. -/
def repeatsLast (c : Config) (o : AckRun) (a : Env × Event) : Prop :=
  ∀ record ∈ o.machine.resentBy c a,
    if o.machine.sock.connected ∧ o.machine.sock.finComplete c then record.segment.acks (o.machine.sock.finSeqnum + 1)
    else record.segment.ack = true → o.acks.head? = some record.segment.acknum

instance (c : Config) (o : AckRun) (a : Env × Event) : Decidable (o.repeatsLast c a) :=
  inferInstanceAs (Decidable (∀ _ ∈ _, _))

/-- Less than half of the sequence space lies between the number sent last and the next one. -/
def acksNear (c : Config) (o : AckRun) (a : Env × Event) : Prop :=
  o.machine.sock.connected → ¬o.machine.sock.finComplete c → ∀ n ∈ o.acks.head?,
    gap n (o.machine.sock.receiveBuffer.getAckNum c + TcpReceiveBuffer.lengths (o.machine.readableBy c a)) + 1 < 2 ^ 31

-- an instance for all bit vectors would be found first, and try all of them
instance (c : Config) (o : AckRun) (a : Env × Event) : Decidable (o.acksNear c a) :=
  have : Decidable (∀ n ∈ o.acks.head?, gap n (o.machine.sock.receiveBuffer.getAckNum c +
      TcpReceiveBuffer.lengths (o.machine.readableBy c a)) + 1 < 2 ^ 31) := Option.decidableForallMem _
  inferInstanceAs (Decidable (_ → _ → _))

/-- The steps that keep the numbers ascending. -/
def Allowed (c : Config) (o : AckRun) (a : Env × Event) : Prop :=
  o.machine.startsEmpty c a ∧ (o.alive → o.repeatsLast c a) ∧
    (o.machine.sock.connected → o.machine.sock.finComplete c → ¬o.machine.acksAnyway c a) ∧ o.acksNear c a

instance (c : Config) (o : AckRun) (a : Env × Event) : Decidable (o.Allowed c a) :=
  inferInstanceAs (Decidable (_ ∧ _))

/-! ### Steps -/

structure Inv (c : Config) (o : AckRun) : Prop where
  accounted : o.machine.sock.Accounted c
  ascending : Ascending o.acks
  unopened : o.machine.sock.Unopened → o.acks = []
  near : o.alive → ∀ n ∈ o.acks.head?, gap n (o.machine.sock.nextExpected c) < 2 ^ 31

/-- The segments of a step: those sent again, and then others with one number, which is the one
expected next behind the step. -/
structure Answers (c : Config) (o : AckRun) (a : Env × Event) (n : SeqNum) : Prop where
  wire : ∃ fresh again, (o.machine.step c a).sock.trace.wire = fresh ++ again ++ o.machine.sock.trace.wire ∧
    (∀ segment ∈ fresh, segment.ack = true → segment.acknum = n) ∧
    ((∀ segment ∈ again, segment.ack = true → segment.acknum = n) ∨
      ∀ segment ∈ again, segment.ack = true → o.acks.head? = some segment.acknum)
  near : ∀ x ∈ o.acks.head?, gap x n < 2 ^ 31
  next : (o.machine.step c a).sock.trace.aborted = false → (o.machine.step c a).sock.nextExpected c = n
  finished : ∀ s, s = o.machine.sock ∨ s = (o.machine.step c a).sock → s.connected → s.finComplete c →
    ∀ segment ∈ o.machine.emittedBy c a, segment.acks (s.finSeqnum + 1)

/-- The numbers behind a step. -/
theorem Answers.acks {n : SeqNum} (inv : o.Inv c) (answers : o.Answers c a n) :
    Ascending (o.emittedAcks c a ++ o.acks) ∧ ∀ x ∈ (o.emittedAcks c a ++ o.acks).head?, x = n ∨ x ∈ o.acks.head? := by
  obtain ⟨fresh, again, wire, numbers, repeated⟩ := answers.wire
  have above : ∀ x ∈ o.acks.head?, seqLeq x n := fun x member => seqLeq_of_gap (answers.near x member)
  unfold emittedAcks
  split
  · rw [Machine.emittedBy_eq wire, List.filter_append, List.map_append, List.append_assoc]
    have acknums : ∀ {l : List TcpSegment} {p : SeqNum → Prop},
        (∀ segment ∈ l, segment.ack = true → p segment.acknum) →
          ∀ x ∈ (l.filter TcpSegment.ack).map TcpSegment.acknum, p x := by
      intro l p all x member
      obtain ⟨segment, kept, rfl⟩ := List.mem_map.mp member
      exact all segment (List.mem_of_mem_filter kept) (List.of_mem_filter kept)
    -- the segments sent again come first
    have first : Ascending ((again.filter TcpSegment.ack).map TcpSegment.acknum ++ o.acks) ∧
        ∀ x ∈ ((again.filter TcpSegment.ack).map TcpSegment.acknum ++ o.acks).head?, x = n ∨ x ∈ o.acks.head? := by
      rcases repeated with same | last
      · exact inv.ascending.append (acknums same) above
      · cases acks : o.acks with
        | nil =>
          have none : (again.filter TcpSegment.ack).map TcpSegment.acknum = [] :=
            List.eq_nil_iff_forall_not_mem.mpr fun x member => by
              have head := acknums (p := fun x => o.acks.head? = some x) last x member
              rw [acks] at head
              exact nomatch head
          rw [none]
          exact ⟨List.isChain_nil, nofun⟩
        | cons y rest =>
          have same := acknums (p := fun x => x = y) fun segment member ack => by
            have head := last segment member ack
            rw [acks] at head
            exact (Option.some.inj head).symm
          have chain := inv.ascending
          rw [acks] at chain
          obtain ⟨ascending, heads⟩ := chain.append same fun x member => by
            rw [Option.some.inj member]
            exact seqLeq_of_gap (by simp)
          exact ⟨ascending, fun x member => .inr ((heads x member).elim (fun same => same ▸ rfl) id)⟩
    obtain ⟨ascending, heads⟩ := first
    obtain ⟨both, heads'⟩ := ascending.append (acknums numbers) fun x member => by
      rcases heads x member with same | earlier
      · rw [same]
        exact seqLeq_of_gap (by simp)
      · exact above x earlier
    exact ⟨both, fun x member => (heads' x member).elim .inl (heads x)⟩
  · exact ⟨inv.ascending, fun x member => .inr member⟩

/-- A step in which no segment moves the peer's stream. -/
theorem Answers.of_lasting (inv : o.Inv c) (alive : o.alive) {fresh again : List TcpSegment}
    (repeats : o.repeatsLast c a) (known : ∀ segment ∈ again, segment ∈ (o.machine.resentBy c a).map TcpRecord.segment)
    (wire : (o.machine.step c a).sock.trace.wire = fresh ++ again ++ o.machine.sock.trace.wire)
    (numbers : ∀ segment ∈ fresh, segment.acks (o.machine.sock.nextExpected c))
    (lasting : (o.machine.step c a).sock.trace.aborted = true ∨ (o.machine.step c a).sock.lasting = o.machine.sock.lasting)
    (number : (o.machine.step c a).sock.receiveBuffer.getAckNum c = o.machine.sock.receiveBuffer.getAckNum c) :
    o.Answers c a (o.machine.sock.nextExpected c) := by
  have before : o.machine.sock.connected → o.machine.sock.finComplete c →
      ∀ segment ∈ o.machine.emittedBy c a, segment.acks (o.machine.sock.finSeqnum + 1) := by
    intro conn complete segment member
    rw [Machine.emittedBy_eq wire] at member
    rcases List.mem_append.mp member with new | old
    · have acked := numbers segment new
      rwa [nextExpected, if_pos complete] at acked
    · obtain ⟨record, resent, rfl⟩ := List.mem_map.mp (known segment old)
      have acked := repeats record resent
      rwa [if_pos ⟨conn, complete⟩] at acked
  have same : (o.machine.step c a).sock.trace.aborted = false →
      (o.machine.step c a).sock.lasting = o.machine.sock.lasting := fun kept =>
    lasting.resolve_left fun aborted => absurd (aborted.symm.trans kept) (Ne.symm Bool.false_ne_true)
  refine ⟨⟨fresh, again, wire, fun segment member _ => (numbers segment member).2, ?_⟩, inv.near alive,
    fun kept => (nextExpected_of_lasting (same kept) number).2.2, ?_⟩
  · by_cases finished : o.machine.sock.connected ∧ o.machine.sock.finComplete c
    · refine .inl fun segment member _ => ?_
      have acked := before finished.1 finished.2 segment (by rw [Machine.emittedBy_eq wire]; exact List.mem_append_right _ member)
      rw [nextExpected, if_pos finished.2]
      exact acked.2
    · refine .inr fun segment member ack => ?_
      obtain ⟨record, resent, rfl⟩ := List.mem_map.mp (known segment member)
      have acked := repeats record resent
      rw [if_neg finished] at acked
      exact acked ack
  · rintro s (rfl | rfl) conn complete
    · exact before conn complete
    · have kept := same conn.2
      obtain ⟨complete', seqnum, -⟩ := nextExpected_of_lasting kept number
      rw [seqnum]
      have conn' : o.machine.sock.connected :=
        ⟨(lasting_opening kept).1.mp conn.1, (congrArg Lasting.aborted kept).symm.trans conn.2⟩
      exact before conn' (complete'.mp complete)

theorem unreceived_answers (inv : o.Inv c) (alive : o.alive) (allowed : o.Allowed c a)
    (unreceived : a.2 = .tick → ∀ s r, o.machine.inputOf a.1 ≠ some (s, some r)) :
    o.Answers c a (o.machine.sock.nextExpected c) := by
  obtain ⟨-, repeats, final, -⟩ := allowed
  obtain ⟨-, number, -⟩ := Machine.step_unreceived_buffer inv.accounted.counted unreceived
  rcases Machine.step_unreceived inv.accounted.counted a.1 a.2 unreceived with emits | ⟨closed, -⟩
  · obtain ⟨fresh, wire, sent⟩ := emits.wire
    rw [Machine.resentWire, ← List.append_assoc] at wire
    refine .of_lasting inv alive (repeats alive) (fun segment member => List.mem_reverse.mp member) wire
      (fun segment member => ?_) (emits.lasting.imp_left And.left) number
    obtain ⟨sends, acked⟩ := sent segment member
    have incomplete : ¬o.machine.sock.finComplete c := by
      intro complete
      by_cases behind : o.machine.sock.synchronized
      · have conn : o.machine.sock.connected := ⟨behind, alive.2⟩
        exact sends.elim ((inv.accounted.completes conn).mp complete) (final conn complete)
      · exact absurd ((inv.accounted.unfinished behind).symm.trans complete.1) Bool.false_ne_true
    rwa [nextExpected, if_neg incomplete]
  · exact absurd closed alive.1

theorem received_early_answers (inv : o.Inv c) (alive : o.alive) (allowed : o.Allowed c a)
    (early : ¬o.machine.sock.synchronized) {r : ReceiveBuffer} {rest : List ReceiveBuffer} {dport : BitVec 16}
    (tick : a.2 = .tick) (calls : o.machine.inputOf a.1 = some (Machine.taking o.machine.sock rest dport, some r))
    (input : (o.machine.step c a).sock = (Machine.taking o.machine.sock rest dport).input c a.1 (some r)) :
    ∃ n, o.Answers c a n := by
  obtain ⟨empty, repeats, -⟩ := allowed
  unfold Machine.startsEmpty at empty
  rw [tick, calls] at empty
  have accounted : (Machine.taking o.machine.sock rest dport).Accounted c :=
    ⟨inv.accounted.counted, inv.accounted.unfinished, inv.accounted.completes⟩
  have unfinished := inv.accounted.unfinished early
  obtain ⟨-, unfinished', -⟩ := accounted.input_unsynchronized a.1 early r empty
  rw [← input] at unfinished'
  have finished : ∀ s, s = o.machine.sock ∨ s = (o.machine.step c a).sock → s.connected → s.finComplete c →
      ∀ segment ∈ o.machine.emittedBy c a, segment.acks (s.finSeqnum + 1) := by
    rintro s (rfl | rfl) - complete
    · exact absurd (unfinished.symm.trans complete.1) Bool.false_ne_true
    · exact absurd (unfinished'.symm.trans complete.1) Bool.false_ne_true
  have opens : Opens c a.1 (Machine.taking o.machine.sock rest dport) r
      ((Machine.taking o.machine.sock rest dport).input c a.1 (some r)) → o.acks = [] → ∃ n, o.Answers c a n := by
    intro opens none
    obtain ⟨fresh, wire, numbers⟩ := opens.wire
    rw [← input] at wire numbers
    refine ⟨(o.machine.step c a).sock.receiveBuffer.getAckNum c, ⟨fresh, [], by rwa [List.append_nil], numbers, .inl nofun⟩,
      fun x member => ?_, fun _ => nextExpected_of_unfinished unfinished', finished⟩
    rw [none] at member
    exact nomatch member
  cases state : o.machine.sock.state with
  | closed => exact absurd state alive.1
  | listen =>
    refine opens ?_ (inv.unopened (.inr (.inl state)))
    have eq : (Machine.taking o.machine.sock rest dport).input c a.1 (some r) =
        (Machine.taking o.machine.sock rest dport).listenSegment c a.1 r := by
      simp only [TcpSocket.input, Machine.taking, state, listenState]
    rw [eq]
    exact listenSegment_opens c a.1 (s := Machine.taking o.machine.sock rest dport) state r
  | synsent =>
    refine opens ?_ (inv.unopened (.inr (.inr state)))
    have eq : (Machine.taking o.machine.sock rest dport).input c a.1 (some r) =
        (Machine.taking o.machine.sock rest dport).synsentSegment c a.1 r := by
      simp only [TcpSocket.input, Machine.taking, state, synsent]
    rw [eq]
    exact synsentSegment_opens c a.1 (s := Machine.taking o.machine.sock rest dport) state r
  | synrcvd =>
    have eq : (Machine.taking o.machine.sock rest dport).input c a.1 (some r) =
        (Machine.taking o.machine.sock rest dport).synrcvdSegment c a.1 r := by
      simp only [TcpSocket.input, Machine.taking, state, synrcvd]
    have buffer := synrcvdSegment_receiveBuffer c a.1 (Machine.taking o.machine.sock rest dport) r
    have answered := synrcvdSegment_answered c a.1 (s := Machine.taking o.machine.sock rest dport) state r
    obtain ⟨again, wire, resent⟩ := answered.wire
    rw [← eq, ← input] at wire buffer
    have same : o.machine.sock.nextExpected c = (o.machine.step c a).sock.nextExpected c := by
      rw [nextExpected_of_unfinished unfinished, nextExpected_of_unfinished unfinished', buffer]
      rfl
    refine ⟨o.machine.sock.nextExpected c, ⟨[], again, wire, nofun, .inr fun segment member ack => ?_⟩, inv.near alive,
      fun _ => same.symm, finished⟩
    have known : o.machine.resentBy c a = (Machine.taking o.machine.sock rest dport).resentFor r.segment := by
      unfold Machine.resentBy
      rw [tick, calls]
    obtain ⟨record, sent, rfl⟩ := List.mem_map.mp (resent segment member)
    have acked := repeats alive record (known ▸ sent)
    rw [if_neg fun both => early both.1.1] at acked
    exact acked ack
  | established | finwait1 | finwait2 | closewait | lastack | closing | timewait =>
    exact absurd (by simp [synchronized, state]) early

/-- A segment behind the handshake that brings no data. -/
theorem received_unplain_answers (inv : o.Inv c) (alive : o.alive) (allowed : o.Allowed c a)
    (behind : o.machine.sock.synchronized) {r : ReceiveBuffer} {rest : List ReceiveBuffer} {dport : BitVec 16}
    (input : (o.machine.step c a).sock = (Machine.taking o.machine.sock rest dport).input c a.1 (some r))
    (other : ¬r.segment.plain) : o.Answers c a (o.machine.sock.nextExpected c) := by
  have sync : (Machine.taking o.machine.sock rest dport).synchronized := behind
  have answer : (Machine.taking o.machine.sock rest dport).synAnswer c = o.machine.sock.nextExpected c := by
    have completes := inv.accounted.completes ⟨behind, alive.2⟩
    unfold synAnswer nextExpected
    by_cases complete : o.machine.sock.finComplete c
    · have final : ¬(Machine.taking o.machine.sock rest dport).takesData := completes.mp complete
      rw [if_neg final, if_pos complete]
      rfl
    · have takes : (Machine.taking o.machine.sock rest dport).takesData := not_not.mp fun final => complete (completes.mpr final)
      rw [if_pos takes, if_neg complete]
      rfl
  have emits : Emits (TcpSegment.acks · (o.machine.sock.nextExpected c)) (Machine.taking o.machine.sock rest dport)
      ((Machine.taking o.machine.sock rest dport).input c a.1 (some r)) := by
    cases rst : r.segment.rst with
    | true =>
      rw [input_rst c a.1 sync rst]
      exact handleRst_emits _ r
    | false =>
      cases syn : r.segment.syn with
      | true =>
        rw [← answer]
        exact input_syn_emits c a.1 sync rst syn
      | false => exact absurd ⟨rst, syn⟩ other
  have buffer := input_receiveBuffer_of_synchronized c a.1 sync r
  rw [if_neg fun both => other both.2] at buffer
  obtain ⟨fresh, wire, numbers⟩ := emits.wire
  have lasting := emits.lasting
  rw [← input] at wire lasting buffer
  have same : (o.machine.step c a).sock.receiveBuffer.getAckNum c = o.machine.sock.receiveBuffer.getAckNum c :=
    congrArg (TcpReceiveBuffer.getAckNum c) buffer
  have none : ∀ segment ∈ ([] : List TcpSegment), segment ∈ (o.machine.resentBy c a).map TcpRecord.segment := nofun
  exact .of_lasting inv alive (allowed.2.1 alive) none (by rwa [List.append_nil]) numbers (lasting.imp_left And.left) same

/-- A segment behind the handshake that may bring data and a FIN. -/
theorem received_plain_answers (inv : o.Inv c) (alive : o.alive) (allowed : o.Allowed c a)
    (behind : o.machine.sock.synchronized) {r : ReceiveBuffer} {rest : List ReceiveBuffer} {dport : BitVec 16}
    (tick : a.2 = .tick) (calls : o.machine.inputOf a.1 = some (Machine.taking o.machine.sock rest dport, some r))
    (input : (o.machine.step c a).sock = (Machine.taking o.machine.sock rest dport).input c a.1 (some r))
    (plain : r.segment.plain) : ∃ n, o.Answers c a n := by
  have conn : o.machine.sock.connected := ⟨behind, alive.2⟩
  have completes := inv.accounted.completes conn
  have near := allowed.2.2.2 conn
  have advances := fun kept => (Machine.step_advances inv.accounted a behind kept).2.2
  have readable : o.machine.readableBy c a = (Machine.taking o.machine.sock rest dport).readable c r := by
    unfold Machine.readableBy
    rw [tick, calls]
  obtain ⟨-, -, number⟩ := dataTaken_counted (s := Machine.taking o.machine.sock rest dport) inv.accounted.counted plain
  rw [← readable] at number
  obtain ⟨processed, -⟩ := input_processed c a.1 (s := Machine.taking o.machine.sock rest dport) behind plain
  obtain ⟨fresh, wire, answers⟩ := input_plain_hands c a.1 (s := Machine.taking o.machine.sock rest dport) behind plain
  have received := processed.received
  rw [← input] at wire received
  have emitted := Machine.emittedBy_eq (c := c) (a := a) wire
  have final : ∀ segment ∈ o.machine.emittedBy c a, segment.acks ((o.machine.step c a).sock.finSeqnum + 1) := by
    intro segment member
    rw [emitted] at member
    rw [received.finSeqnum]
    exact (answers segment member).2
  by_cases complete : o.machine.sock.finComplete c
  · have rests : ¬(Machine.taking o.machine.sock rest dport).takesData := completes.mp complete
    have same : (o.machine.step c a).sock.finSeqnum = o.machine.sock.finSeqnum := by
      rw [received.finSeqnum, dataTaken, if_neg rests]
      rfl
    rw [same] at final
    have next : o.machine.sock.nextExpected c = o.machine.sock.finSeqnum + 1 := if_pos complete
    have expected := inv.near alive
    rw [next] at expected
    refine ⟨o.machine.sock.finSeqnum + 1, ⟨fresh, [], by rwa [List.append_nil], fun segment member _ => ?_, .inl (by simp)⟩,
      expected, fun kept => ?_, ?_⟩
    · exact (final segment (emitted.symm ▸ member)).2
    · obtain ⟨complete', seqnum, -⟩ := (advances kept).finished complete
      rw [nextExpected, if_pos complete', seqnum]
    · rintro s (rfl | rfl) - -
      · exact final
      · rw [same]
        exact final
  · have takes : (Machine.taking o.machine.sock rest dport).takesData := not_not.mp fun rests => complete (completes.mpr rests)
    have taken : ((Machine.taking o.machine.sock rest dport).dataTaken c r).finComplete c ↔
        (Machine.taking o.machine.sock rest dport).completesFin c r := by
      rw [dataTaken, if_pos takes]
      rfl
    have finishes : (o.machine.step c a).sock.finComplete c ↔ (Machine.taking o.machine.sock rest dport).completesFin c r :=
      received.finComplete.trans taken
    have last : ∀ s, s = o.machine.sock ∨ s = (o.machine.step c a).sock → s.connected → s.finComplete c →
        ∀ segment ∈ o.machine.emittedBy c a, segment.acks (s.finSeqnum + 1) := by
      rintro s (rfl | rfl) - done
      · exact absurd done complete
      · exact final
    have acknum : (o.machine.step c a).sock.receiveBuffer.getAckNum c =
        o.machine.sock.receiveBuffer.getAckNum c + TcpReceiveBuffer.lengths (o.machine.readableBy c a) := by
      rw [received.receiveBuffer]
      exact number
    rw [← acknum] at near
    refine ⟨(o.machine.step c a).sock.nextExpected c,
      ⟨fresh, [], by rwa [List.append_nil], fun segment member _ => ?_, .inl (by simp)⟩, fun x member => ?_, fun _ => rfl, last⟩
    · have done := finishes.mpr ((answers segment member).1 takes)
      rw [nextExpected, if_pos done]
      exact (final segment (emitted.symm ▸ member)).2
    · have close := near complete x member
      unfold nextExpected
      split_ifs with done
      · rw [← done.2]
        have further := gap_add_right x ((o.machine.step c a).sock.receiveBuffer.getAckNum c) (n := 1) (by omega)
        change gap x (_ + BitVec.ofNat 32 1) < _
        omega
      · omega

theorem step_answers (inv : o.Inv c) (alive : o.alive) (allowed : o.Allowed c a) : ∃ n, o.Answers c a n := by
  rcases Machine.step_received_or c o.machine a with ⟨s, r, rest, dport, tick, calls, rfl, input⟩ | ⟨unreceived, -⟩
  · by_cases behind : o.machine.sock.synchronized
    · by_cases plain : r.segment.plain
      · exact received_plain_answers inv alive allowed behind tick calls input plain
      · exact ⟨_, received_unplain_answers inv alive allowed behind input plain⟩
    · exact received_early_answers inv alive allowed behind tick calls input
  · exact ⟨_, unreceived_answers inv alive allowed unreceived⟩

/-! ### Runs -/

/-- A handshake does not end with a complete FIN. -/
theorem step_incomplete (inv : o.Inv c) (allowed : o.Allowed c a) (early : ¬o.machine.sock.synchronized)
    (conn : (o.machine.step c a).sock.connected) : ¬(o.machine.step c a).sock.finComplete c := by
  intro complete
  rcases Machine.step_received_or c o.machine a with ⟨s, r, rest, dport, tick, calls, rfl, input⟩ | ⟨unreceived, -⟩
  · have empty := allowed.1
    unfold Machine.startsEmpty at empty
    rw [tick, calls] at empty
    have accounted : (Machine.taking o.machine.sock rest dport).Accounted c :=
      ⟨inv.accounted.counted, inv.accounted.unfinished, inv.accounted.completes⟩
    obtain ⟨-, unfinished, -⟩ := accounted.input_unsynchronized a.1 early r empty
    rw [← input] at unfinished
    exact absurd (unfinished.symm.trans complete.1) Bool.false_ne_true
  · rcases Machine.step_unreceived inv.accounted.counted a.1 a.2 unreceived with emits | ⟨-, unopened, -⟩
    · rcases emits.lasting with ⟨aborted, -⟩ | same
      · exact absurd (aborted.symm.trans conn.2) (Ne.symm Bool.false_ne_true)
      · exact early ((lasting_opening same).1.mp conn.1)
    · exact unopened.early.1 conn.1

/-- What follows the end of a connection begins without numbers. -/
theorem acks_of_dead (inv : o.Inv c) (dead : ¬o.alive) (alive : (o.machine.step c a).sock.trace.aborted = false) :
    o.acks = [] := by
  by_cases behind : o.machine.sock.synchronized
  · obtain ⟨-, conn, -⟩ := Machine.step_advances inv.accounted a behind alive
    exact absurd ⟨conn.1.1, conn.2⟩ dead
  · cases state : o.machine.sock.state with
    | closed => exact inv.unopened (.inl state)
    | listen => exact inv.unopened (.inr (.inl state))
    | synsent => exact inv.unopened (.inr (.inr state))
    | synrcvd =>
      have aborted : o.machine.sock.trace.aborted = true := by
        cases kept : o.machine.sock.trace.aborted with
        | true => rfl
        | false => exact absurd ⟨by simp [state], kept⟩ dead
      have stays : (o.machine.step c a).sock.trace.aborted = true ∨
          (o.machine.step c a).sock.trace.aborted = o.machine.sock.trace.aborted := by
        rcases Machine.step_received_or c o.machine a with ⟨s, r, rest, dport, tick, calls, rfl, input⟩ | ⟨unreceived, -⟩
        · have answered := synrcvdSegment_answered c a.1 (s := Machine.taking o.machine.sock rest dport) state r
          have eq : (Machine.taking o.machine.sock rest dport).input c a.1 (some r) =
              (Machine.taking o.machine.sock rest dport).synrcvdSegment c a.1 r := by
            simp only [TcpSocket.input, Machine.taking, state, synrcvd]
          rw [input, eq]
          exact answered.aborted
        · rcases Machine.step_unreceived inv.accounted.counted a.1 a.2 unreceived with emits | ⟨closed, -⟩
          · exact emits.lasting.imp And.left (congrArg Lasting.aborted)
          · exact absurd (state.symm.trans closed) (by simp)
      rw [aborted, or_self] at stays
      exact absurd (stays.symm.trans alive) (Ne.symm Bool.false_ne_true)
    | established | finwait1 | finwait2 | closewait | lastack | closing | timewait =>
      exact absurd (by simp [synchronized, state]) behind

theorem step_inv (inv : o.Inv c) (allowed : o.Allowed c a) : o.KeepsAcks c a ∧ (o.step c a).Inv c := by
  have accounted := Machine.step_accounted inv.accounted allowed.1
  have stays : o.machine.sock.connected → o.machine.sock.finComplete c → (o.machine.step c a).sock.connected →
      (o.machine.step c a).sock.finComplete c ∧ (o.machine.step c a).sock.finSeqnum = o.machine.sock.finSeqnum := by
    intro conn complete conn'
    obtain ⟨complete', seqnum, -⟩ := (Machine.step_advances inv.accounted a conn.1 conn'.2).2.2.finished complete
    exact ⟨complete', seqnum⟩
  by_cases alive : o.alive
  · obtain ⟨n, answers⟩ := step_answers inv alive allowed
    obtain ⟨ascending, heads⟩ := answers.acks inv
    refine ⟨⟨ascending, answers.finished, stays⟩, accounted, ?_, fun unopened => if_pos unopened, fun alive' x member => ?_⟩
    · unfold step
      dsimp only
      split
      · exact List.isChain_nil
      · exact ascending
    · have next := answers.next alive'.2
      change gap x ((o.machine.step c a).sock.nextExpected c) < 2 ^ 31
      rw [next]
      unfold step at member
      dsimp only at member
      split at member
      · exact nomatch member
      · rcases heads x member with same | earlier
        · rw [same, gap_self]
          exact Nat.two_pow_pos 31
        · exact answers.near x earlier
  · have silent : o.emittedAcks c a = [] := if_neg alive
    have kept : ∀ x ∈ (o.step c a).acks, x ∈ o.acks := by
      unfold step
      dsimp only
      rw [silent]
      split
      · exact nofun
      · exact fun _ => id
    have dead : ¬o.machine.sock.connected := fun conn => alive ⟨conn.1.1, conn.2⟩
    refine ⟨⟨silent ▸ inv.ascending, ?_, stays⟩, accounted, ?_, fun unopened => if_pos unopened, fun alive' x member => ?_⟩
    · rintro s (rfl | rfl) conn complete
      · exact absurd conn dead
      · have early : ¬o.machine.sock.synchronized := fun behind =>
          dead (Machine.step_advances inv.accounted a behind conn.2).2.1
        exact absurd complete (step_incomplete inv allowed early conn)
    · unfold step
      dsimp only
      rw [silent]
      split
      · exact List.isChain_nil
      · exact inv.ascending
    · have none := kept x (List.mem_of_mem_head? member)
      rw [acks_of_dead inv alive alive'.2] at none
      exact nomatch none

theorem construct_inv (c : Config) (memory : TcpSocket) : (construct c memory).Inv c :=
  ⟨Machine.construct_accounted c memory, List.isChain_nil, fun _ => rfl, fun _ => nofun⟩

theorem keepsAcks_run (c : Config) (memory : TcpSocket) (inputs : List (Env × Event))
    (allowed : Follows (step c) (Allowed c) (construct c memory) inputs) :
    Follows (step c) (KeepsAcks c) (construct c memory) inputs := by
  have kept : ∀ (o : AckRun) (a : Env × Event), o.Inv c → o.Allowed c a → o.KeepsAcks c a ∧ (o.step c a).Inv c :=
    fun _ _ inv allowed => step_inv inv allowed
  exact (allowed.forall_prefix_and kept (construct_inv c memory)).1

end AckRun

/-! ### Examples -/

/-- The peer closes without data. -/
def Sample.closedByPeer : List (Env × Event) :=
  opening ++ (env, .poll) :: receives { segment 1001 1 1000 [] with fin := true } ++ [(env, .tick)]

/-- The peer's FIN arrives once more. -/
def Sample.repeatsFin : List (Env × Event) :=
  closedByPeer ++ (env, .poll) :: receives { segment 1001 1 1000 [] with fin := true } ++ [(env, .tick)]

namespace AckRun

theorem keepsAcks_repeatsFin : Follows (step Sample.config) (KeepsAcks Sample.config)
    (construct Sample.config Sample.memory) Sample.repeatsFin :=
  keepsAcks_run Sample.config Sample.memory Sample.repeatsFin (by decide +kernel)

/-- The FIN of `close` takes back the acknowledgement of the peer's FIN. -/
theorem closedByPeer_descends : ¬∀ (c : Config) (memory : TcpSocket) (inputs : List (Env × Event)),
    Follows (step c) (KeepsAcks c) (construct c memory) inputs := by
  intro always
  have keeps := (always Sample.config Sample.memory (Sample.closedByPeer ++ [(Sample.env, .close)])).last
  exact absurd keeps.ascending (by decide +kernel)

end AckRun

end IPStack
