import IPStack.Tcp.StreamSender

/-! The places that the segments of a connection have in the stream of the written bytes. -/

namespace IPStack

open TcpSocket

namespace StreamSender

variable {c : Config} {isn : SeqNum} {s : StreamSender} {e : Env}

/-! ### Places in the stream -/

/-- One of the data segments, behind those before it. -/
theorem Inv.places_data (inv : Inv c isn s) {before after : List TcpSegment} {segment : TcpSegment}
    (split : s.segments c = before ++ segment :: after) :
    (s.stream c isn).Places ⟨1 + (payload before).length, segment⟩ := by
  have contiguous := inv.contiguous
  obtain ⟨more, all⟩ := inv.pieces
  rw [split] at contiguous all
  have seqnum := (contiguous_append_iff.mp contiguous).2.1
  obtain ⟨syn, fin⟩ := inv.plain segment (by rw [split]; simp)
  by_cases empty : segment.data = []
  · exact .bare (by simp [TcpSegment.seqLen, syn, fin, empty])
  · refine .data ⟨List.length_pos_iff.mpr empty, before, segment, after, split, rfl, rfl⟩ syn fin (fun i inside => ?_) ?_
    · have written : s.written = payload before ++ (segment.data ++ (payload after ++ more)) := by
        rw [← all, payload_append]
        simp [payload]
      change segment.data[i]? = s.written[1 + (payload before).length - 1 + i]?
      rw [written, Nat.add_sub_cancel_left, List.getElem?_append_right (Nat.le_add_right _ _), Nat.add_sub_cancel_left,
        List.getElem?_append_left inside]
    · change segment.seqnum = isn + BitVec.ofNat 32 (1 + (payload before).length)
      rw [seqnum, BitVec.ofNat_add, BitVec.add_assoc]
      rfl

theorem Inv.places_fin (inv : Inv c isn s) {segment : TcpSegment} (held : s.sock.Holds segment) (fin : segment.fin = true) :
    (s.stream c isn).Places ⟨1 + (payload (s.segments c)).length, segment⟩ := by
  rcases inv.belongs segment held with bare | sent | ⟨⟨-, none, -⟩, -⟩ | ⟨⟨syn, -, data⟩, seqnum, all, ended⟩
  · exact .bare bare
  · exact absurd ((inv.plain segment sent).2.symm.trans fin) Bool.false_ne_true
  · exact absurd (none.symm.trans fin) Bool.false_ne_true
  · have connected : s.connected = true := by
      by_contra unconnected
      have bare := (inv.fresh (Bool.not_eq_true _ ▸ unconnected)).2.2.2.2 segment held
      simp [TcpSegment.seqLen, fin] at bare
    rw [all]
    refine .fin ⟨connected, ended⟩ rfl syn fin data ?_
    change segment.seqnum = isn + BitVec.ofNat 32 (1 + s.written.length)
    rw [seqnum, BitVec.ofNat_add, BitVec.add_assoc]
    rfl

theorem Inv.places_syn (inv : Inv c isn s) {segment : TcpSegment} (held : s.sock.Holds segment) (syn : segment.syn = true) :
    (s.stream c isn).Places ⟨0, segment⟩ := by
  rcases inv.belongs segment held with bare | sent | ⟨⟨-, fin, data⟩, seqnum⟩ | ⟨⟨none, -⟩, -⟩
  · exact .bare bare
  · exact absurd ((inv.plain segment sent).1.symm.trans syn) Bool.false_ne_true
  · exact .syn rfl syn fin data seqnum
  · exact absurd (none.symm.trans syn) Bool.false_ne_true

theorem number_split {p : Packet} {first : Nat} {l : List TcpSegment} (numbered : p ∈ Packet.number first l) :
    ∃ before after, l = before ++ p.segment :: after ∧ p.position = first + (payload before).length := by
  induction l generalizing first with
  | nil => exact absurd numbered List.not_mem_nil
  | cons head rest ih =>
    rcases List.mem_cons.mp numbered with rfl | later
    · exact ⟨[], rest, rfl, rfl⟩
    · obtain ⟨before, after, rfl, position⟩ := ih later
      refine ⟨head :: before, after, rfl, ?_⟩
      rw [position]
      simp [payload, Nat.add_assoc]

theorem mem_number (first : Nat) (before after : List TcpSegment) (segment : TcpSegment) :
    ⟨first + (payload before).length, segment⟩ ∈ Packet.number first (before ++ segment :: after) := by
  induction before generalizing first with
  | nil => exact List.mem_cons_self ..
  | cons head rest ih =>
    have later := ih (first + head.data.length)
    rw [Nat.add_assoc] at later
    refine List.mem_cons_of_mem _ ?_
    simpa [payload] using later

/-- What can arrive has its place in the stream. -/
theorem Inv.places (inv : Inv c isn s) {p : Packet} (sends : s.sends c p) : (s.stream c isn).Places p := by
  obtain ⟨wire, numbered | bare⟩ := sends
  · obtain ⟨position, segment⟩ := p
    rcases List.mem_append.mp numbered with front | fin
    · rcases List.mem_append.mp front with syn | data
      · obtain ⟨other, member, same⟩ := List.mem_map.mp syn
        obtain ⟨rfl, rfl⟩ := Packet.mk.inj same
        exact inv.places_syn (.inl wire) (List.mem_filter.mp member).2
      · obtain ⟨before, after, split, place⟩ := number_split data
        obtain rfl : position = 1 + (payload before).length := place
        exact inv.places_data split
    · obtain ⟨other, member, same⟩ := List.mem_map.mp fin
      obtain ⟨rfl, rfl⟩ := Packet.mk.inj same
      exact inv.places_fin (.inl wire) (List.mem_filter.mp member).2
  · exact .bare bare

/-- Every segment on the wire can arrive. -/
theorem Inv.sends_wire (inv : Inv c isn s) {segment : TcpSegment} (wire : segment ∈ s.sock.trace.wire) :
    ∃ position, s.sends c ⟨position, segment⟩ := by
  rcases inv.belongs segment (.inl wire) with bare | sent | ⟨⟨syn, -⟩, -⟩ | ⟨⟨-, fin, -⟩, -⟩
  · exact ⟨0, wire, .inr bare⟩
  · obtain ⟨before, after, split⟩ := List.append_of_mem sent
    refine ⟨1 + (payload before).length, wire, .inl ?_⟩
    refine List.mem_append_left _ (List.mem_append_right _ ?_)
    rw [split]
    exact mem_number 1 before after segment
  · exact ⟨0, wire, .inl (List.mem_append_left _ (List.mem_append_left _
      (List.mem_map.mpr ⟨segment, List.mem_filter.mpr ⟨wire, syn⟩, rfl⟩)))⟩
  · exact ⟨_, wire, .inl (List.mem_append_right _ (List.mem_map.mpr ⟨segment, List.mem_filter.mpr ⟨wire, fin⟩, rfl⟩))⟩

/-! ### The stream goes on -/

/-- No step behind `connect` brings a connection back to life. -/
theorem Inv.ended_step (inv : Inv c isn s) {event : Event} (allowed : s.allowed event) (connects : event ≠ .connect) (e : Env)
    (ended : s.stage = .late ∨ s.stage = .closed) :
    ((s.step c e event).stage = .late ∨ (s.step c e event).stage = .closed) ∧ (s.step c e event).written = s.written := by
  have listens : event ≠ .listen := by
    rintro rfl
    exact allowed
  have shut : ¬s.sock.isOpen := by
    intro open_
    have opened := (isOpen_iff s.sock).mp open_
    rcases ended with late | closed
    · cases late.symm.trans opened
    · cases closed.symm.trans opened
  have keeps : ∀ {s' : TcpSocket}, Adds (fun _ => True) False s.sock s' → s'.state.stage = .late ∨ s'.state.stage = .closed := by
    intro s' adds
    rcases adds.leads with closed | same | ⟨opening, -⟩
    · exact .inr closed
    · rw [same]
      exact ended
    · rcases ended with late | closed
      · cases opening.symm.trans late
      · cases opening.symm.trans closed
  have stage : (s.step c e event).stage = (s.run.machine.step c (e, event)).sock.state.stage := by
    by_cases idle : s.call = none
    · rw [step_idle idle e event]
      rfl
    · rw [step_busy idle e event]
      rfl
  rw [stage]
  by_cases idle : s.call = none
  · have written : (s.step c e event).written = s.written ++ event.written (s.run.machine.step c (e, event)) := by
      rw [step_idle idle e event]
      rfl
    rw [written]
    refine ⟨?_, ?_⟩
    · by_cases closes : event = .close
      · have result : s.run.machine.step c (e, .close) =
            { s.run.machine with sock := s.sock.closeBase c e, call := some .close } := if_pos idle
        have base : s.sock.closeBase c e = s.sock := if_neg fun open_ => shut open_.symm
        rw [closes, result, base]
        exact ended
      · exact keeps (begin_adds c e idle connects listens closes).1
    · by_cases write : (s.run.machine.step c (e, event)).call = some .write
      · obtain ⟨-, -, open_, -⟩ := WriteRun.begins_write idle write
        exact absurd open_ shut
      · rw [written_nil write, List.append_nil]
  · refine ⟨?_, by rw [step_busy idle e event]; rfl⟩
    have unchanged : ∀ event', (if s.run.machine.call = none then s.run.machine.begin c e event' else s.run.machine) =
        s.run.machine := fun event' => if_neg idle
    cases event with
    | tick => exact keeps (tick_adds inv.silent.2 (fun listening => inv.silent.1 (congrArg TcpState.stage listening)) e)
    | arrive segment size => exact keeps (addToReceiveQueue_adds c e s.sock segment size)
    | _ =>
      simp only [Machine.step, unchanged]
      exact ended

theorem Inv.extends_step (inv : Inv c isn s) {event : Event} (allowed : s.allowed event) (connects : event ≠ .connect) (e : Env) :
    (s.stream c isn).Extends ((s.step c e event).stream c isn) := by
  have connected : (s.step c e event).connected = s.connected := by
    unfold StreamSender.step
    dsimp only
    cases event <;> first | exact absurd rfl connects | (split <;> rfl)
  refine ⟨rfl, ?_, ?_, fun ended => ?_⟩
  · change s.written <+: (s.step c e event).written
    by_cases idle : s.call = none
    · rw [step_idle idle e event]
      exact List.prefix_append _ _
    · rw [step_busy idle e event]
      exact List.prefix_rfl
  · change s.segments c <+: (s.step c e event).segments c
    by_cases idle : s.call = none
    · have same : (s.step c e event).segments c = s.segments c := by rw [step_idle idle e event, idle_segments]
      exact same ▸ List.prefix_rfl
    · rw [step_busy idle e event]
      unfold segments WriteRun.segments
      dsimp only
      rw [List.filterMap_append, ← List.append_assoc]
      exact List.prefix_append _ _
  · obtain ⟨still, written⟩ := inv.ended_step allowed connects e ended.2
    exact ⟨⟨connected.trans ended.1, still⟩, written⟩

end StreamSender

end IPStack
