import IPStack.Tcp.SenderRounds

/-! The socket that opens a connection and writes: every segment on the wire has its place in the
stream of the written bytes. -/

namespace IPStack

open TcpSocket

/-- A segment with its position in the peer's stream: the SYN is at 0, the bytes that are written
follow from 1 on, and the FIN is behind them. The sequence numbers are these positions, counted from
the initial one and wrapped. -/
structure Packet where
  position : Nat
  segment : TcpSegment
deriving DecidableEq, Repr

/-- Segments that carry a stream from a position on. -/
def Packet.number : Nat → List TcpSegment → List Packet
  | _, [] => []
  | position, segment :: rest => ⟨position, segment⟩ :: number (position + segment.data.length) rest

/-- A socket with the bytes of its earlier calls of `write` and the data segments they sent. -/
structure StreamSender where
  run : WriteRun
  before : List UInt8
  earlier : List TcpSegment
  connected : Bool

namespace StreamSender

def start (c : Config) (memory : TcpSocket) : StreamSender := ⟨.start c memory, [], [], false⟩

def sock (s : StreamSender) : TcpSocket := s.run.machine.sock

/-- The bytes that were passed to `write`. -/
def written (s : StreamSender) : List UInt8 := s.before ++ s.run.data

/-- The data segments, each once, in the order in which they were sent first. -/
def segments (c : Config) (s : StreamSender) : List TcpSegment := s.earlier ++ s.run.segments c

def call (s : StreamSender) : Option Call := s.run.machine.call

/-- Whether the task has called `connect` behind an event. -/
def connectedBy (s : StreamSender) : Event → Bool
  | .connect => true
  | _ => s.connected

def step (c : Config) (s : StreamSender) (e : Env) (event : Event) : StreamSender :=
  let run := s.run.step c (.step e event)
  if s.call = none then ⟨run, s.written, s.segments c, s.connectedBy event⟩
  else { s with run := run, connected := s.connectedBy event }

/-- What was sent, with its position in the stream. -/
def packets (c : Config) (s : StreamSender) : List Packet :=
  (s.sock.trace.wire.filter (·.syn)).map (⟨0, ·⟩) ++ Packet.number 1 (s.segments c) ++
    (s.sock.trace.wire.filter (·.fin)).map (⟨1 + (payload (s.segments c)).length, ·⟩)

/-- The packet can arrive. Segments without sequence numbers, acknowledgements for example, are not
part of the stream. -/
def sends (c : Config) (s : StreamSender) (p : Packet) : Prop :=
  p.segment ∈ s.sock.trace.wire ∧ (p ∈ s.packets c ∨ p.segment.seqLen = 0)

instance (c : Config) (s : StreamSender) (p : Packet) : Decidable (s.sends c p) := inferInstanceAs (Decidable (_ ∧ _))

/-- The task opens one connection, and does not listen. -/
def allowed (s : StreamSender) : Event → Prop
  | .connect => s.connected = false
  | .listen => False
  | _ => True

instance (s : StreamSender) (event : Event) : Decidable (s.allowed event) := by
  unfold allowed
  cases event <;> infer_instance

end StreamSender

/-! ### Streams -/

/-- A stream so far: the initial sequence number, the bytes and the segments that carry them, and
whether no more bytes will follow. -/
structure Stream where
  first : SeqNum
  bytes : List UInt8
  segments : List TcpSegment
  ended : Prop

namespace Stream

/-- The stream goes on. -/
structure Extends (v v' : Stream) : Prop where
  first : v'.first = v.first
  bytes : v.bytes <+: v'.bytes
  segments : v.segments <+: v'.segments
  ended : v.ended → v'.ended ∧ v'.bytes = v.bytes

theorem Extends.refl (v : Stream) : Extends v v := ⟨rfl, List.prefix_rfl, List.prefix_rfl, fun ended => ⟨ended, rfl⟩⟩

/-- One of the segments has `len` bytes from a position on. -/
def Cut (v : Stream) (position len : Nat) : Prop :=
  0 < len ∧ ∃ before segment after, v.segments = before ++ segment :: after ∧ position = 1 + (payload before).length ∧
    len = segment.data.length

/-- The segment belongs to the stream, at this position. -/
inductive Places (v : Stream) : Packet → Prop
  | bare {p : Packet} (bare : p.segment.seqLen = 0) : Places v p
  | syn {p : Packet} (position : p.position = 0) (syn : p.segment.syn = true) (fin : p.segment.fin = false)
      (data : p.segment.data = []) (seqnum : p.segment.seqnum = v.first) : Places v p
  | data {p : Packet} (cut : v.Cut p.position p.segment.data.length) (syn : p.segment.syn = false) (fin : p.segment.fin = false)
      (data : ∀ i < p.segment.data.length, p.segment.data[i]? = v.bytes[p.position - 1 + i]?)
      (seqnum : p.segment.seqnum = v.first + BitVec.ofNat 32 p.position) : Places v p
  | fin {p : Packet} (ended : v.ended) (position : p.position = 1 + v.bytes.length) (syn : p.segment.syn = false)
      (fin : p.segment.fin = true) (data : p.segment.data = [])
      (seqnum : p.segment.seqnum = v.first + BitVec.ofNat 32 p.position) : Places v p

variable {v v' : Stream}

theorem Extends.cut (extends_ : Extends v v') {position len : Nat} (cut : v.Cut position len) : v'.Cut position len := by
  obtain ⟨nonempty, before, segment, after, split, rest⟩ := cut
  obtain ⟨more, longer⟩ := extends_.segments
  exact ⟨nonempty, before, segment, after ++ more, by rw [← longer, split]; simp, rest⟩

end Stream

namespace TcpSocket

theorem payload_cons (segment : TcpSegment) (l : List TcpSegment) : payload (segment :: l) = segment.data ++ payload l := rfl

theorem payload_append (l l' : List TcpSegment) : payload (l ++ l') = payload l ++ payload l' := by
  simp [payload]

theorem contiguous_append_iff {first : SeqNum} {l l' : List TcpSegment} :
    Contiguous first (l ++ l') ↔ Contiguous first l ∧ Contiguous (first + BitVec.ofNat 32 (payload l).length) l' := by
  induction l generalizing first with
  | nil => simp [Contiguous, payload]
  | cons head rest ih =>
    have next : first + BitVec.ofNat 32 (payload (head :: rest)).length =
        first + BitVec.ofNat 32 head.data.length + BitVec.ofNat 32 (payload rest).length := by
      simp [payload, BitVec.ofNat_add, BitVec.add_assoc]
    rw [List.cons_append, Contiguous, Contiguous, ih, next, and_assoc]

end TcpSocket

namespace StreamSender

variable {c : Config} {isn : SeqNum} {s s' : StreamSender} {e : Env}

def stage (s : StreamSender) : Stage := s.sock.state.stage

/-- The stream that starts with the initial sequence number. Once the FIN is sent no more is written. -/
def stream (c : Config) (isn : SeqNum) (s : StreamSender) : Stream where
  first := isn
  bytes := s.written
  segments := s.segments c
  ended := s.connected = true ∧ (s.stage = .late ∨ s.stage = .closed)

/-- The segment is the SYN, carries bytes of `write`, is the FIN behind all bytes, or has no sequence
numbers. -/
def Belongs (c : Config) (isn : SeqNum) (s : StreamSender) (segment : TcpSegment) : Prop :=
  segment.seqLen = 0 ∨ segment ∈ s.segments c ∨
    (segment.syn = true ∧ segment.fin = false ∧ segment.data = []) ∧ segment.seqnum = isn ∨
    (segment.syn = false ∧ segment.fin = true ∧ segment.data = []) ∧
      segment.seqnum = isn + 1 + BitVec.ofNat 32 s.written.length ∧ payload (s.segments c) = s.written ∧
      (s.stage = .late ∨ s.stage = .closed)

/-- Everything written so far has been sent, and nothing else is in front of the next number. -/
def Flushed (c : Config) (isn : SeqNum) (s : StreamSender) : Prop :=
  payload (s.segments c) = s.written ∧ s.sock.seqnumNext = isn + 1 + BitVec.ofNat 32 s.written.length

structure Inv (c : Config) (isn : SeqNum) (s : StreamSender) : Prop where
  run : s.run.Inv c
  contiguous : Contiguous (isn + 1) (s.segments c)
  pieces : payload (s.segments c) <+: s.written
  plain : ∀ segment ∈ s.segments c, segment.syn = false ∧ segment.fin = false
  belongs : ∀ segment, s.sock.Holds segment → s.Belongs c isn segment
  silent : s.stage ≠ .listening ∧ s.call ≠ some .listen
  fresh : s.connected = false → s.stage = .closed ∧ s.written = [] ∧ s.segments c = [] ∧ s.call ≠ some .write ∧
    ∀ segment, s.sock.Holds segment → segment.seqLen = 0
  opening : s.stage = .opening → s.call ≠ some .write ∧ s.written = [] ∧ s.segments c = [] ∧ s.sock.seqnumNext = isn + 1
  opened : s.stage = .opened → s.call ≠ some .write → s.Flushed c isn
  writing : s.call = some .write → s.sock.isOpen →
    payload s.earlier = s.before ∧ s.run.first = isn + 1 + BitVec.ofNat 32 s.before.length

/-! ### Steps that send no data -/

/-- The same bytes and segments, and no call of `write` that is new. -/
structure Rests (c : Config) (isn : SeqNum) (s s' : StreamSender) : Prop where
  run : s'.run.Inv c
  written : s'.written = s.written
  segments : s'.segments c = s.segments c
  adds : Adds (s.sock.RoundKind []) True s.sock s'.sock
  call : s'.call ≠ some .listen
  write : s'.call = some .write → s.call = some .write ∧ s'.earlier = s.earlier ∧ s'.before = s.before ∧
    s'.run.first = s.run.first
  done : s.call = some .write → s'.call ≠ some .write → s.stage = .opened → s.Flushed c isn
  connected : s'.connected = s.connected

theorem isOpen_iff (s : TcpSocket) : s.isOpen ↔ s.state.stage = .opened := by
  unfold TcpSocket.isOpen
  cases s.state <;> simp [TcpState.stage]

/-- What belongs to the stream still does when no more is written. -/
theorem Belongs.mono {segment : TcpSegment} (belongs : s.Belongs c isn segment) (written : s'.written = s.written)
    (segments : s'.segments c = s.segments c) (leads : s.stage.Leads s'.stage) : s'.Belongs c isn segment := by
  unfold Belongs at *
  rw [written, segments]
  refine belongs.imp_right (.imp_right (.imp_right fun fin => ⟨fin.1, fin.2.1, fin.2.2.1, ?_⟩))
  rcases leads with closed | same | ⟨opening, -⟩
  · exact .inr closed
  · rw [same]
    exact fin.2.2.2
  · rcases fin.2.2.2 with late | closed
    · cases opening.symm.trans late
    · cases opening.symm.trans closed

/-- What a round without data adds belongs to the stream. -/
theorem Inv.adds_belongs (inv : Inv c isn s) {kind : List TcpSegment} (data : ∀ segment ∈ kind, segment ∈ s'.segments c)
    {segment : TcpSegment} (new : s.sock.RoundKind kind segment) : s'.Belongs c isn segment := by
  rcases new with bare | sent | ⟨opening, crossing, next⟩
  · exact .inl bare
  · exact .inr (.inl (data segment sent))
  · refine .inr (.inr (.inl ⟨crossing, ?_⟩))
    exact (BitVec.add_left_inj 1).mp (next.trans (inv.opening opening).2.2.2)

theorem Inv.rests (inv : Inv c isn s) (rests : Rests c isn s s') : Inv c isn s' := by
  have leads : s.stage.Leads s'.stage := rests.adds.leads
  have next : s'.sock.seqnumNext = s.sock.seqnumNext := rests.adds.next trivial
  have flushed : s.Flushed c isn → s'.Flushed c isn := by
    unfold Flushed
    rw [rests.written, rests.segments, next]
    exact id
  refine ⟨rests.run, ?_, ?_, ?_, fun segment held => ?_, ⟨?_, rests.call⟩, fun unconnected => ?_, fun opening => ?_,
    fun opened other => ?_, fun write opened => ?_⟩
  · rw [rests.segments]
    exact inv.contiguous
  · rw [rests.segments, rests.written]
    exact inv.pieces
  · rw [rests.segments]
    exact inv.plain
  · rcases rests.adds.holds segment held with old | new
    · exact (inv.belongs segment old).mono rests.written rests.segments leads
    · exact inv.adds_belongs (fun _ member => absurd member List.not_mem_nil) new
  · rcases leads with closed | same | ⟨-, opened⟩
    · simp [closed]
    · rw [same]
      exact inv.silent.1
    · simp [opened]
  · rw [rests.connected] at unconnected
    obtain ⟨closed, written, segments, other, bare⟩ := inv.fresh unconnected
    refine ⟨?_, rests.written.trans written, rests.segments.trans segments, fun write => other (rests.write write).1,
      fun segment held => ?_⟩
    · rcases leads with closed' | same | ⟨opening, -⟩
      · exact closed'
      · exact same.trans closed
      · cases opening.symm.trans closed
    · rcases rests.adds.holds segment held with old | new
      · exact bare segment old
      · rcases new with new | sent | ⟨opening, -⟩
        · exact new
        · exact absurd sent List.not_mem_nil
        · cases opening.symm.trans closed
  · rcases leads with closed | same | ⟨-, opened⟩
    · cases closed.symm.trans opening
    · obtain ⟨other, written, segments, number⟩ := inv.opening (same.symm.trans opening)
      exact ⟨fun write => other (rests.write write).1, rests.written.trans written, rests.segments.trans segments,
        next.trans number⟩
    · cases opened.symm.trans opening
  · rcases leads with closed | same | ⟨opening, -⟩
    · cases closed.symm.trans opened
    · have opened' := same.symm.trans opened
      by_cases write : s.call = some .write
      · exact flushed (rests.done write other opened')
      · exact flushed (inv.opened opened' write)
    · obtain ⟨-, written, segments, number⟩ := inv.opening opening
      refine flushed ⟨by rw [segments, written]; rfl, ?_⟩
      rw [number, written]
      exact (BitVec.add_zero _).symm
  · obtain ⟨write', earlier, before, first⟩ := rests.write write
    rw [earlier, before, first]
    refine inv.writing write' ((isOpen_iff s.sock).mpr ?_)
    rcases leads with closed | same | ⟨opening, -⟩
    · cases closed.symm.trans ((isOpen_iff s'.sock).mp opened)
    · exact same.symm.trans ((isOpen_iff s'.sock).mp opened)
    · exact absurd write' (inv.opening opening).1

/-- Before `connect` nothing depends on the initial sequence number. -/
theorem Inv.renumber (inv : Inv c isn s) (unconnected : s.connected = false) (isn' : SeqNum) : Inv c isn' s := by
  obtain ⟨closed, written, segments, -, bare⟩ := inv.fresh unconnected
  refine ⟨inv.run, by rw [segments]; trivial, inv.pieces, inv.plain, fun segment held => .inl (bare segment held), inv.silent,
    inv.fresh, fun opening => ?_, fun opened => ?_, fun _ opened => ?_⟩
  · cases closed.symm.trans opening
  · cases closed.symm.trans opened
  · cases closed.symm.trans ((isOpen_iff s.sock).mp opened)

theorem start_inv (c : Config) (memory : TcpSocket) (isn : SeqNum) : Inv c isn (start c memory) := by
  have fields := construct_eq c memory
  have closed : (start c memory).stage = .closed := by
    change (memory.construct c).state.stage = _
    rw [fields]
    rfl
  have none : ∀ segment, ¬(start c memory).sock.Holds segment := by
    intro segment held
    change (memory.construct c).Holds segment at held
    rw [fields] at held
    rcases held with sent | ⟨record, member, -⟩
    · exact absurd sent List.not_mem_nil
    · exact absurd member List.not_mem_nil
  refine ⟨WriteRun.start_inv c memory, trivial, List.prefix_rfl, fun _ member => absurd member List.not_mem_nil,
    fun segment held => absurd held (none segment), ⟨by simp [closed], fun call => (by cases call)⟩,
    fun _ => ⟨closed, rfl, rfl, fun call => (by cases call), fun segment held => absurd held (none segment)⟩,
    fun opening => ?_, fun opened => ?_, fun written => (by cases written)⟩
  · cases closed.symm.trans opening
  · cases closed.symm.trans opened

/-! ### Steps -/

theorem step_idle (idle : s.call = none) (e : Env) (event : Event) : s.step c e event =
    ⟨⟨s.run.machine.step c (e, event), event.written (s.run.machine.step c (e, event)), s.sock.seqnumNext, []⟩,
      s.written, s.segments c, s.connectedBy event⟩ := by
  have run : s.run.step c (.step e event) = ⟨s.run.machine.step c (e, event),
      event.written (s.run.machine.step c (e, event)), s.sock.seqnumNext, []⟩ := if_pos idle
  unfold step
  rw [run]
  exact if_pos idle

theorem step_busy (busy : s.call ≠ none) (e : Env) (event : Event) : s.step c e event =
    { s with
      run := { s.run with
        machine := s.run.machine.step c (e, event)
        attempts := s.run.attempts ++ event.sendAttempts c e s.run.machine }
      connected := s.connectedBy event } := by
  have run : s.run.step c (.step e event) = ⟨s.run.machine.step c (e, event), s.run.data, s.run.first,
      s.run.attempts ++ event.sendAttempts c e s.run.machine⟩ := if_neg busy
  unfold step
  rw [run]
  exact if_neg busy

theorem addToReceiveQueue_adds {kind : TcpSegment → Prop} {quiet : Prop} (c : Config) (e : Env) (s : TcpSocket)
    (segment : TcpSegment) (size : BitVec 16) : Adds kind quiet s (s.addToReceiveQueue c e segment size) := by
  unfold TcpSocket.addToReceiveQueue
  dsimp only
  split_ifs
  · exact .refl s
  · cases e.alloc s.mempool.requests <;> exact .of_same rfl rfl rfl rfl

/-- A call that is not `connect` and does not send the FIN adds nothing. -/
theorem begin_adds {kind : TcpSegment → Prop} {quiet : Prop} (c : Config) (e : Env) {m : Machine} {event : Event}
    (idle : m.call = none) (connects : event ≠ .connect) (listens : event ≠ .listen) (closes : event ≠ .close) :
    Adds kind quiet m.sock (m.step c (e, event)).sock ∧ (m.step c (e, event)).call ≠ some .listen := by
  have nothing : m.call ≠ some .listen := by simp [idle]
  cases event with
  | connect => exact absurd rfl connects
  | listen => exact absurd rfl listens
  | close => exact absurd rfl closes
  | tick =>
    have same : m.step c (e, .tick) = m := by simp [Machine.step, Machine.tick, Machine.inputOf, Machine.settle, idle]
    rw [same]
    exact ⟨.refl _, nothing⟩
  | arrive segment size => exact ⟨addToReceiveQueue_adds c e m.sock segment size, nothing⟩
  | setPorts sport dport =>
    simp only [Machine.step, Machine.begin, idle, if_true]
    exact ⟨.of_same rfl rfl rfl rfl, by simp⟩
  | setMaxReceiveWindow max =>
    simp only [Machine.step, Machine.begin, idle, if_true]
    exact ⟨.of_same rfl rfl rfl rfl, by simp⟩
  | _ =>
    simp only [Machine.step, Machine.begin, idle, if_true]
    split_ifs
    · exact ⟨.of_same rfl rfl rfl rfl, by simp⟩
    · exact ⟨.refl _, nothing⟩

theorem step_run (c : Config) (s : StreamSender) (e : Env) (event : Event) :
    (s.step c e event).run = s.run.step c (.step e event) := by
  unfold step
  dsimp only
  split <;> rfl

/-- Between the calls nothing has been sent since the last one. -/
theorem idle_segments (c : Config) (s : StreamSender) (machine : Machine) (data : List UInt8) (first : SeqNum)
    (connected : Bool) :
    segments c ⟨⟨machine, data, first, []⟩, s.written, s.segments c, connected⟩ = s.segments c := List.append_nil _

theorem written_nil {machine : Machine} {event : Event} (other : machine.call ≠ some .write) : event.written machine = [] := by
  cases event with
  | write data size_lt => exact if_neg other
  | _ => rfl

/-- A step between the calls that starts no `write`. -/
theorem Inv.idles (inv : Inv c isn s) (idle : s.call = none) {event : Event} (connects : event ≠ .connect)
    (adds : Adds (s.sock.RoundKind []) True s.sock (s.run.machine.step c (e, event)).sock)
    (write : (s.run.machine.step c (e, event)).call ≠ some .write)
    (listen : (s.run.machine.step c (e, event)).call ≠ some .listen) : Inv c isn (s.step c e event) := by
  have run := inv.run.step (.step e event)
  rw [← step_run] at run
  rw [step_idle idle e event] at run ⊢
  refine inv.rests ⟨run, ?_, idle_segments .., adds, listen, fun writes => absurd writes write, fun writes => ?_, ?_⟩
  · exact (congrArg (s.written ++ ·) (written_nil write)).trans (List.append_nil _)
  · cases idle.symm.trans writes
  · cases event <;> first | exact absurd rfl connects | rfl

/-- An open socket holds no FIN. -/
theorem Inv.unfinished (inv : Inv c isn s) (opened : s.stage = .opened) {segment : TcpSegment} (held : s.sock.Holds segment) :
    segment.seqLen = 0 ∨ segment ∈ s.segments c ∨
      (segment.syn = true ∧ segment.fin = false ∧ segment.data = []) ∧ segment.seqnum = isn := by
  rcases inv.belongs segment held with bare | sent | syn | ⟨-, -, -, late | closed⟩
  · exact .inl bare
  · exact .inr (.inl sent)
  · exact .inr (.inr syn)
  · cases opened.symm.trans late
  · cases opened.symm.trans closed

/-- `write` starts when everything before is sent. -/
theorem Inv.writes (inv : Inv c isn s) (idle : s.call = none) {event : Event}
    (write : (s.run.machine.step c (e, event)).call = some .write) : Inv c isn (s.step c e event) := by
  have run := inv.run.step (.step e event)
  rw [← step_run] at run
  rw [step_idle idle e event] at run ⊢
  obtain ⟨data, size_lt, open_, sock, written⟩ := WriteRun.begins_write idle write
  have opened : s.stage = .opened := (isOpen_iff s.sock).mp open_
  obtain ⟨flushed, number⟩ := inv.opened opened (by simp [idle])
  generalize s.run.machine.step c (e, event) = machine at run write sock written ⊢
  rw [written] at run ⊢
  have stage : stage ⟨⟨machine, data, s.sock.seqnumNext, []⟩, s.written, s.segments c, s.connectedBy event⟩ = .opened := by
    change machine.sock.state.stage = _
    rw [sock]
    exact opened
  have pieces : payload (s.segments c) <+: s.written ++ data := flushed ▸ List.prefix_append _ _
  refine ⟨run, ?_, ?_, ?_, fun segment held => ?_, ⟨by simp [stage], ?_⟩, fun unconnected => ?_, fun opening => ?_,
    fun _ other => absurd write other, fun _ _ => ⟨flushed, number⟩⟩
  · rw [idle_segments]
    exact inv.contiguous
  · rw [idle_segments]
    exact pieces
  · rw [idle_segments]
    exact inv.plain
  · have held' : s.sock.Holds segment := by
      change machine.sock.Holds segment at held
      rwa [sock] at held
    unfold Belongs
    rw [idle_segments]
    rcases inv.unfinished opened held' with bare | sent | syn
    · exact .inl bare
    · exact .inr (.inl sent)
    · exact .inr (.inr (.inl syn))
  · change machine.call ≠ _
    simp [write]
  · cases event with
    | connect => exact absurd unconnected (by simp [connectedBy])
    | _ => cases opened.symm.trans (inv.fresh unconnected).1
  · cases stage.symm.trans opening

/-- `close` sends the FIN behind everything that was written. -/
theorem Inv.closes (inv : Inv c isn s) (idle : s.call = none) (e : Env) : Inv c isn (s.step c e .close) := by
  have result : s.run.machine.step c (e, .close) =
      { s.run.machine with sock := s.sock.closeBase c e, call := some .close } := if_pos idle
  have requested : Adds (s.sock.RoundKind []) True s.sock (s.sock.requestSendBufferTcp c e).2 :=
    requestSendBufferTcp_adds c e s.sock
  have rests : Adds (s.sock.RoundKind []) True s.sock (s.sock.closeBase c e) → Inv c isn (s.step c e .close) := by
    intro adds
    refine inv.idles idle (by simp) ?_ ?_ ?_ <;> rw [result]
    · exact adds
    · simp
    · simp
  by_cases open_ : s.sock.state = .closewait ∨ s.sock.state = .established
  · have opened : s.stage = .opened := (isOpen_iff s.sock).mp open_.symm
    obtain ⟨flushed, number⟩ := inv.opened opened (by simp [idle])
    have granted : ∀ b s₁, s.sock.requestSendBufferTcp c e = (some b, s₁) →
        s.sock.closeBase c e = s₁.closeIn c e b := by
      intro b s₁ request
      rw [closeBase, if_pos open_, request]
    have refused : ∀ s₁, s.sock.requestSendBufferTcp c e = (none, s₁) → s.sock.closeBase c e = s₁ := by
      intro s₁ request
      rw [closeBase, if_pos open_, request]
    generalize s.sock.requestSendBufferTcp c e = request at requested granted refused
    obtain ⟨block, s₁⟩ := request
    cases block with
    | none => exact rests (refused s₁ rfl ▸ requested)
    | some b =>
      have base := granted b s₁ rfl
      have run := inv.run.step (.step e .close)
      rw [← step_run] at run
      rw [step_idle idle e .close, result, base] at run ⊢
      have late : (s₁.closeIn c e b).state.stage = .late := by
        rcases closeIn_late c e s₁ b with state | state <;> rw [state] <;> rfl
      have next : s₁.seqnumNext = s.sock.seqnumNext := requested.next trivial
      have holds : ∀ segment, (s₁.closeIn c e b).Holds segment → s₁.Holds segment ∨
          (segment.syn = false ∧ segment.fin = true ∧ segment.data = []) ∧ segment.seqnum = s₁.seqnumNext := by
        intro segment held
        rcases held with sent | ⟨record, member, rfl⟩
        · rcases List.mem_cons.mp sent with rfl | old
          · exact .inr ⟨⟨rfl, rfl, rfl⟩, rfl⟩
          · exact .inl (.inl old)
        · rcases List.mem_cons.mp member with rfl | old
          · exact .inr ⟨⟨rfl, rfl, rfl⟩, rfl⟩
          · exact .inl (.inr ⟨record, old, rfl⟩)
      have written : s.written ++ Event.written ⟨s₁.closeIn c e b, some .close, s.run.machine.returned,
          s.run.machine.endOfStream⟩ .close = s.written := List.append_nil _
      refine ⟨run, ?_, ?_, ?_, fun segment held => ?_, ⟨?_, ?_⟩, fun unconnected => ?_, fun opening => ?_,
        fun opened' => ?_, fun call => (by cases call)⟩
      · rw [idle_segments]
        exact inv.contiguous
      · rw [idle_segments]
        exact (congrArg (payload (s.segments c) <+: ·) written).mpr inv.pieces
      · rw [idle_segments]
        exact inv.plain
      · unfold Belongs
        rw [idle_segments]
        rcases holds segment held with old | ⟨fin, seqnum⟩
        · rcases requested.holds segment old with old | new
          · rcases inv.unfinished opened old with bare | sent | syn
            · exact .inl bare
            · exact .inr (.inl sent)
            · exact .inr (.inr (.inl syn))
          · rcases new with bare | sent | ⟨opening, -⟩
            · exact .inl bare
            · exact absurd sent List.not_mem_nil
            · cases opened.symm.trans opening
        · refine .inr (.inr (.inr ⟨fin, ?_, ?_, .inl late⟩))
          · rw [seqnum, next, number]
            exact congrArg (fun l : List UInt8 => isn + 1 + BitVec.ofNat 32 l.length) written.symm
          · exact flushed.trans written.symm
      · simp [stage, sock, late]
      · simp [call]
      · cases opened.symm.trans (inv.fresh unconnected).1
      · cases late.symm.trans opening
      · cases late.symm.trans opened'
  · have base : s.sock.closeBase c e = s.sock := by rw [closeBase, if_neg open_]
    exact rests (by rw [base]; exact .refl _)

/-- What is written so far once a `write` has nothing left. -/
theorem Inv.flushed (inv : Inv c isn s) (write : s.call = some .write) (waiting : s.sock.waiting = false)
    (opened : s.stage = .opened) : s.Flushed c isn := by
  have open_ := (isOpen_iff s.sock).mpr opened
  obtain ⟨earlier, first⟩ := inv.writing write open_
  have sent := inv.run.segments.complete write waiting open_
  have all : payload (s.segments c) = s.written := by rw [segments, payload_append, earlier, sent, written]
  refine ⟨all, ?_⟩
  rw [sock, (inv.run.cursor write open_).next, first, sent, written, List.length_append, BitVec.ofNat_add, BitVec.add_assoc]

/-- A step of the call in progress that sends no data. -/
theorem Inv.goesOn (inv : Inv c isn s) (busy : s.call ≠ none) {event : Event} (connects : event ≠ .connect)
    (silent : event.sendAttempts c e s.run.machine = [])
    (adds : Adds (s.sock.RoundKind []) True s.sock (s.run.machine.step c (e, event)).sock)
    (call : (s.run.machine.step c (e, event)).call = s.call ∨ (s.run.machine.step c (e, event)).call ≠ some .write ∧
      (s.run.machine.step c (e, event)).call ≠ some .listen ∧ (s.call = some .write → s.sock.waiting = false)) :
    Inv c isn (s.step c e event) := by
  have run := inv.run.step (.step e event)
  rw [← step_run] at run
  rw [step_busy busy e event, silent, List.append_nil] at run ⊢
  refine inv.rests ⟨run, rfl, rfl, adds, ?_, fun writes => ?_, fun write other opened => ?_, ?_⟩
  · rcases call with same | ⟨-, other, -⟩
    · exact fun listen => inv.silent.2 (same.symm.trans listen)
    · exact other
  · rcases call with same | ⟨other, -⟩
    · exact ⟨same.symm.trans writes, rfl, rfl, rfl⟩
    · exact absurd writes other
  · rcases call with same | ⟨-, -, done⟩
    · exact absurd (same.trans write) other
    · exact inv.flushed write (done write) opened
  · cases event <;> first | exact absurd rfl connects | rfl

/-- A round of a `write` that sends data. -/
theorem Inv.sends (inv : Inv c isn s) (write : s.call = some .write) {s₁ : TcpSocket}
    (input : s.run.machine.inputOf e = some (s.sock, none)) (sending : s.sock.sendingSocket c e = some s₁) :
    Inv c isn (s.step c e .tick) := by
  have busy : s.call ≠ none := by simp [write]
  have run := inv.run.step (.step e .tick)
  rw [← step_run] at run
  rw [step_busy busy e .tick] at run ⊢
  have opened : s.stage = .opened := (isOpen_iff s.sock).mp (sendingSocket_waiting sending).1
  obtain ⟨earlier, first⟩ := inv.writing write (sendingSocket_waiting sending).1
  have attempts : Event.sendAttempts c e s.run.machine .tick = s₁.sendAttempts c e := by
    change Machine.sendAttempts c e s.run.machine = _
    rw [Machine.sendAttempts, input]
    dsimp only
    rw [sending]
  have ticks : s.run.machine.step c (e, .tick) = { s.run.machine with sock := s.sock.input c e none } := by
    change s.run.machine.tick c e = _
    rw [Machine.tick, input]
    have machine : s.run.machine.call = some .write := write
    simp only [machine]
  rw [ticks, attempts] at run ⊢
  have adds : Adds (s.sock.RoundKind ((s₁.sendAttempts c e).filterMap (SendAttempt.segment c))) False s.sock
      (s.sock.input c e none) := by
    refine input_idle_adds (fun _ => .inl) e (fun s₂ same segment member => .inr (.inl ?_)) False.elim
    rwa [Option.some.inj (sending.symm.trans same)]
  have longer : (s.run.attempts ++ s₁.sendAttempts c e).filterMap (SendAttempt.segment c) =
      s.run.segments c ++ (s₁.sendAttempts c e).filterMap (SendAttempt.segment c) := List.filterMap_append ..
  have new : ∀ segment ∈ (s₁.sendAttempts c e).filterMap (SendAttempt.segment c), segment.syn = false ∧ segment.fin = false := by
    intro segment member
    obtain ⟨a, -, some⟩ := List.mem_filterMap.mp member
    exact SendAttempt.segment_plain some
  generalize (s₁.sendAttempts c e).filterMap (SendAttempt.segment c) = sent at adds longer new
  generalize s.run.attempts ++ s₁.sendAttempts c e = attempts at longer run ⊢
  have all : segments c { s with
      run := { s.run with machine := { s.run.machine with sock := s.sock.input c e none }, attempts := attempts }
      connected := s.connectedBy .tick } = s.segments c ++ sent := by
    unfold segments WriteRun.segments
    dsimp only
    rw [longer, WriteRun.segments, List.append_assoc]
  obtain ⟨behind, order⟩ := contiguous_append_iff.mp inv.contiguous
  refine ⟨run, ?_, ?_, fun segment member => ?_, fun segment held => ?_, ⟨?_, ?_⟩, fun unconnected => ?_, fun opening => ?_,
    fun _ other => absurd write other, fun _ _ => ⟨earlier, first⟩⟩
  · have contiguous := run.contiguous
    refine contiguous_append_iff.mpr ⟨behind, ?_⟩
    rw [earlier]
    dsimp only at contiguous ⊢
    rwa [first] at contiguous
  · have data := run.data
    unfold segments written
    rw [payload_append, earlier]
    exact (List.prefix_append_right_inj _).mpr data
  · rw [all] at member
    exact (List.mem_append.mp member).elim (inv.plain segment) (new segment)
  · rcases adds.holds segment held with old | fresh
    · unfold Belongs
      rw [all]
      rcases inv.unfinished opened old with bare | member | syn
      · exact .inl bare
      · exact .inr (.inl (List.mem_append_left _ member))
      · exact .inr (.inr (.inl syn))
    · refine inv.adds_belongs (fun segment member => ?_) fresh
      rw [all]
      exact List.mem_append_right _ member
  · rcases adds.leads with closed | same | ⟨-, opened'⟩
    · exact fun listening => by cases closed.symm.trans listening
    · exact fun listening => by cases opened.symm.trans (same.symm.trans listening)
    · exact fun listening => by cases opened'.symm.trans listening
  · exact inv.silent.2
  · cases opened.symm.trans (inv.fresh unconnected).1
  · rcases adds.leads with closed | same | ⟨-, opened'⟩
    · cases closed.symm.trans opening
    · cases opened.symm.trans (same.symm.trans opening)
    · cases opened'.symm.trans opening

/-- A call that returns. -/
theorem settle_adds {kind : TcpSegment → Prop} {quiet : Prop} {m : Machine} (listen : m.call ≠ some .listen) (e : Env)
    (replies : ∀ segment : TcpSegment, segment.seqLen = 0 → kind segment) :
    Adds kind quiet m.sock (m.settle c e).sock ∧ (m.settle c e).call = none := by
  unfold Machine.settle
  split
  · rename_i idle
    exact ⟨.refl _, idle⟩
  · exact ⟨.refl _, rfl⟩
  · refine ⟨?_, rfl⟩
    dsimp only
    split
    · exact (updateHistory_adds c e m.sock true).trans (processAck_adds replies c e _)
    · exact .refl _
  · rename_i call
    exact absurd call listen
  · exact ⟨.refl _, rfl⟩

/-- A round in which the state machine runs. -/
theorem tick_runs {m : Machine} {taken : TcpSocket × Option ReceiveBuffer} (input : m.inputOf e = some taken) :
    (m.step c (e, .tick)).sock = taken.1.input c e taken.2 ∧ ((m.step c (e, .tick)).call = m.call ∨
      (m.step c (e, .tick)).call ≠ some .write ∧ (m.step c (e, .tick)).call ≠ some .listen ∧ m.call ≠ some .write) := by
  change (m.tick c e).sock = _ ∧ ((m.tick c e).call = m.call ∨ (m.tick c e).call ≠ some .write ∧
    (m.tick c e).call ≠ some .listen ∧ m.call ≠ some .write)
  rw [Machine.tick, input]
  dsimp only
  split
  · rename_i polling
    exact ⟨rfl, .inr ⟨by simp, by simp, by simp [polling]⟩⟩
  · exact ⟨rfl, .inl rfl⟩

/-- A round of a call in progress, whatever it sends. -/
theorem tick_adds {m : Machine} (call : m.call ≠ some .listen) (state : m.sock.state ≠ .listen) (e : Env) :
    Adds (fun _ => True) False m.sock (m.step c (e, .tick)).sock := by
  have weaken : ∀ {kind : TcpSegment → Prop} {s s' : TcpSocket}, Adds kind False s s' → Adds (fun _ => True) False s s' :=
    fun adds => ⟨fun _ _ => .inr trivial, False.elim, adds.leads⟩
  cases input : m.inputOf e with
  | none =>
    have settles : m.step c (e, .tick) = m.settle c e := by
      change m.tick c e = _
      rw [Machine.tick, input]
    rw [settles]
    exact (settle_adds call e fun _ _ => trivial).1
  | some taken =>
    rw [(tick_runs input).1]
    obtain ⟨s₁, segment⟩ := taken
    cases segment with
    | none =>
      obtain rfl := Machine.inputOf_none input
      exact input_idle_adds (fun _ _ => trivial) e (fun _ _ _ _ => trivial) False.elim
    | some r =>
      obtain ⟨rest, dport, -, rfl⟩ := Machine.inputOf_some input
      have takes : Adds (fun _ => True) False m.sock (Machine.taking m.sock rest dport) := .of_same rfl rfl rfl rfl
      exact takes.trans (weaken (input_segment_adds (s := Machine.taking m.sock rest dport) c e state [] r))

/-- A round without data to send. -/
theorem Inv.idle_round (inv : Inv c isn s) (busy : s.call ≠ none) (input : s.run.machine.inputOf e = some (s.sock, none))
    (silent : s.run.machine.sendAttempts c e = []) : Inv c isn (s.step c e .tick) := by
  have quiet : ∀ s₁, s.sock.sendingSocket c e = some s₁ → s₁.sendAttempts c e = [] := by
    intro s₁ sending
    rw [Machine.sendAttempts, input] at silent
    dsimp only at silent
    rwa [sending] at silent
  obtain ⟨ticks, goes⟩ := tick_runs (c := c) input
  refine inv.goesOn busy (by simp) silent ?_
    (goes.imp_right fun other => ⟨other.1, other.2.1, fun write => absurd write other.2.2⟩)
  rw [ticks]
  refine input_idle_adds (fun _ => .inl) e (fun s₁ sending segment member => ?_) fun _ => quiet
  rw [quiet s₁ sending] at member
  exact absurd member List.not_mem_nil

theorem Inv.tick (inv : Inv c isn s) (busy : s.call ≠ none) (e : Env) : Inv c isn (s.step c e .tick) := by
  cases input : s.run.machine.inputOf e with
  | none =>
    have silent : Event.sendAttempts c e s.run.machine .tick = [] := by
      change Machine.sendAttempts c e s.run.machine = _
      rw [Machine.sendAttempts, input]
    have settles : s.run.machine.step c (e, .tick) = s.run.machine.settle c e := by
      change s.run.machine.tick c e = _
      rw [Machine.tick, input]
    have settled : Adds (s.sock.RoundKind []) True s.sock (s.run.machine.settle c e).sock ∧ _ :=
      settle_adds inv.silent.2 e fun _ => .inl
    obtain ⟨adds, returns⟩ := settled
    refine inv.goesOn busy (by simp) silent ?_ (.inr ?_) <;> rw [settles]
    · exact adds
    · rw [returns]
      exact ⟨by simp, by simp, fun write => Machine.not_waiting input (.inr (.inl write))⟩
  | some taken =>
    obtain ⟨s₁, segment⟩ := taken
    cases segment with
    | none =>
      obtain rfl := Machine.inputOf_none input
      by_cases write : s.call = some .write
      · cases sending : s.sock.sendingSocket c e with
        | some s₁ => exact inv.sends write input sending
        | none =>
          refine inv.idle_round busy input ?_
          rw [Machine.sendAttempts, input]
          dsimp only
          change s.run.machine.sock.sendingSocket c e = none at sending
          rw [sending]
      · exact inv.idle_round busy input (WriteRun.silent inv.run.calls write input)
    | some r =>
      obtain ⟨rest, dport, -, rfl⟩ := Machine.inputOf_some input
      have silent : Event.sendAttempts c e s.run.machine .tick = [] := by
        change Machine.sendAttempts c e s.run.machine = _
        rw [Machine.sendAttempts, input]
      obtain ⟨ticks, goes⟩ := tick_runs (c := c) input
      refine inv.goesOn busy (by simp) silent ?_
        (goes.imp_right fun other => ⟨other.1, other.2.1, fun write => absurd write other.2.2⟩)
      rw [ticks]
      have takes : Adds (s.sock.RoundKind []) True s.sock (Machine.taking s.sock rest dport) := .of_same rfl rfl rfl rfl
      have enters : Adds ((Machine.taking s.sock rest dport).RoundKind []) True (Machine.taking s.sock rest dport)
          ((Machine.taking s.sock rest dport).input c e (some r)) :=
        input_segment_adds (s := Machine.taking s.sock rest dport) c e
          (fun listening => inv.silent.1 (congrArg TcpState.stage listening)) [] r
      exact takes.trans enters

/-! ### Runs -/

/-- Behind `connect` there is the SYN, or nothing. -/
theorem Inv.of_connect (run : s.run.Inv c) (written : s.written = []) (segments : s.segments c = [])
    (call : s.call ≠ some .write ∧ s.call ≠ some .listen) (connected : s.connected = true)
    (stage : s.stage = .closed ∨ s.stage = .opening ∧ s.sock.seqnumNext = isn + 1)
    (holds : ∀ segment, s.sock.Holds segment → segment.seqLen = 0 ∨
      (segment.syn = true ∧ segment.fin = false ∧ segment.data = []) ∧ segment.seqnum = isn) : Inv c isn s := by
  refine ⟨run, by rw [segments]; trivial, by rw [segments]; exact List.nil_prefix, ?_, fun segment held => ?_, ⟨?_, call.2⟩,
    fun unconnected => ?_, fun opening => ?_, fun opened => ?_, fun write => absurd write call.1⟩
  · rw [segments]
    exact fun _ member => absurd member List.not_mem_nil
  · rcases holds segment held with bare | syn
    · exact .inl bare
    · exact .inr (.inr (.inl syn))
  · rcases stage with closed | ⟨opening, -⟩
    · simp [closed]
    · simp [opening]
  · exact absurd (connected.symm.trans unconnected) (by simp)
  · rcases stage with closed | ⟨-, next⟩
    · cases closed.symm.trans opening
    · exact ⟨call.1, written, segments, next⟩
  · rcases stage with closed | ⟨opening, -⟩
    · cases closed.symm.trans opened
    · cases opening.symm.trans opened

/-- The first call of `connect` numbers the stream. -/
theorem Inv.connects (inv : ∀ isn, Inv c isn s) (unconnected : s.connected = false) (e : Env) :
    ∃ isn, Inv c isn (s.step c e .connect) := by
  obtain ⟨closed, written, segments, other, bare⟩ := (inv 0).fresh unconnected
  have run := (inv 0).run.step (.step e .connect)
  rw [← step_run] at run
  by_cases idle : s.call = none
  · rw [step_idle idle e .connect] at run ⊢
    by_cases valid : e.validAddresses ∧ s.sock.state = .closed
    · have result : s.run.machine.step c (e, .connect) = { s.run.machine with
          sock := { s.sock with sport := e.freePort }.connectBase c e, call := some .connect } := by
        have begins : s.run.machine.step c (e, .connect) = s.run.machine.begin c e .connect := if_pos idle
        rw [begins]
        exact if_pos valid
      rw [result] at run ⊢
      have granted : ∀ b s₂, ({ ({ s.sock with sport := e.freePort } : TcpSocket).genInitialSeqnum c e with
          sendWindow := 0 } : TcpSocket).requestSendBufferTcp c e = (some b, s₂) →
          ({ s.sock with sport := e.freePort } : TcpSocket).connectBase c e = s₂.connectIn c e b := by
        intro b s₂ request
        rw [connectBase]
        dsimp only
        rw [request]
      have refused : ∀ s₂, ({ ({ s.sock with sport := e.freePort } : TcpSocket).genInitialSeqnum c e with
          sendWindow := 0 } : TcpSocket).requestSendBufferTcp c e = (none, s₂) →
          ({ s.sock with sport := e.freePort } : TcpSocket).connectBase c e = s₂ := by
        intro s₂ request
        rw [connectBase]
        dsimp only
        rw [request]
      have numbered : ∀ segment, ({ ({ s.sock with sport := e.freePort } : TcpSocket).genInitialSeqnum c e with
          sendWindow := 0 } : TcpSocket).Holds segment → s.sock.Holds segment := by
        intro segment held
        unfold TcpSocket.genInitialSeqnum at held
        dsimp only at held
        split_ifs at held <;> exact held
      have state : ({ ({ s.sock with sport := e.freePort } : TcpSocket).genInitialSeqnum c e with
          sendWindow := 0 } : TcpSocket).state = .closed := (genInitialSeqnum_fresh c e _).2.1.trans valid.2
      generalize ({ ({ s.sock with sport := e.freePort } : TcpSocket).genInitialSeqnum c e with
        sendWindow := 0 } : TcpSocket) = s₁ at granted refused numbered state
      have requested : Adds (fun _ => False) True s₁ (s₁.requestSendBufferTcp c e).2 := requestSendBufferTcp_adds c e s₁
      generalize s₁.requestSendBufferTcp c e = request at granted refused requested
      obtain ⟨block, s₂⟩ := request
      have held : ∀ segment, s₂.Holds segment → segment.seqLen = 0 := fun segment held =>
        bare segment (numbered segment ((requested.holds segment held).resolve_right id))
      have next : s₂.seqnumNext = s₁.seqnumNext := requested.next trivial
      cases block with
      | none =>
        rw [refused s₂ rfl] at run ⊢
        refine ⟨0, .of_connect run ?_ ?_ ⟨fun write => (by cases write), fun listen => (by cases listen)⟩ rfl (.inl ?_)
          fun segment holds => .inl (held segment holds)⟩
        · exact (List.append_nil _).trans written
        · exact (idle_segments ..).trans segments
        · rcases requested.leads with closed' | same | ⟨opening, -⟩
          · exact closed'
          · exact same.trans (congrArg TcpState.stage state)
          · rw [state] at opening
            cases opening
      | some b =>
        rw [granted b s₂ rfl] at run ⊢
        refine ⟨s₁.seqnumNext, .of_connect run ?_ ?_ ⟨fun write => (by cases write), fun listen => (by cases listen)⟩ rfl
          (.inr ⟨rfl, ?_⟩) fun segment holds => ?_⟩
        · exact (List.append_nil _).trans written
        · exact (idle_segments ..).trans segments
        · exact congrArg (· + 1) next
        · have sent : (s₂.setSyn c (s₂.writeHeader c)).syn = true ∧ (s₂.setSyn c (s₂.writeHeader c)).fin = false ∧
              (s₂.setSyn c (s₂.writeHeader c)).data = [] ∧ (s₂.setSyn c (s₂.writeHeader c)).seqnum = s₁.seqnumNext := by
            unfold setSyn
            split_ifs <;> exact ⟨rfl, rfl, rfl, next⟩
          rcases holds with wire | ⟨record, member, rfl⟩
          · rcases List.mem_cons.mp wire with rfl | old
            · exact .inr ⟨⟨sent.1, sent.2.1, sent.2.2.1⟩, sent.2.2.2⟩
            · exact .inl (held segment (.inl old))
          · rcases List.mem_cons.mp member with rfl | old
            · exact .inr ⟨⟨sent.1, sent.2.1, sent.2.2.1⟩, sent.2.2.2⟩
            · exact .inl (held _ (.inr ⟨record, old, rfl⟩))
    · have result : s.run.machine.step c (e, .connect) = s.run.machine := by
        have begins : s.run.machine.step c (e, .connect) = s.run.machine.begin c e .connect := if_pos idle
        rw [begins]
        exact if_neg valid
      rw [result] at run ⊢
      refine ⟨0, .of_connect run ?_ ?_ ⟨?_, ?_⟩ rfl (.inl closed) fun segment holds => .inl (bare segment holds)⟩
      · exact (List.append_nil _).trans written
      · exact (idle_segments ..).trans segments
      · exact fun write => by cases idle.symm.trans write
      · exact (inv 0).silent.2
  · have result : s.run.machine.step c (e, .connect) = s.run.machine := if_neg idle
    rw [step_busy idle e .connect, result] at run ⊢
    refine ⟨0, .of_connect run written ?_ ⟨other, (inv 0).silent.2⟩ rfl (.inl closed)
      fun segment holds => .inl (bare segment holds)⟩
    refine Eq.trans ?_ segments
    exact congrArg (fun l : List SendAttempt => s.earlier ++ l.filterMap (SendAttempt.segment c)) (List.append_nil _)

theorem Inv.step (inv : Inv c isn s) {event : Event} (allowed : s.allowed event) (connects : event ≠ .connect) (e : Env) :
    Inv c isn (s.step c e event) := by
  have listens : event ≠ .listen := by
    rintro rfl
    exact allowed
  by_cases idle : s.call = none
  · by_cases closes : event = .close
    · exact closes ▸ inv.closes idle e
    · by_cases write : (s.run.machine.step c (e, event)).call = some .write
      · exact inv.writes idle write
      · have begun : Adds (s.sock.RoundKind []) True s.sock (s.run.machine.step c (e, event)).sock ∧ _ :=
          begin_adds c e idle connects listens closes
        exact inv.idles idle connects begun.1 write begun.2
  · have unchanged : ∀ event', (if s.run.machine.call = none then s.run.machine.begin c e event' else s.run.machine) =
        s.run.machine := fun event' => if_neg idle
    cases event with
    | connect => exact absurd rfl connects
    | listen => exact absurd rfl listens
    | tick => exact inv.tick idle e
    | arrive segment size =>
      exact inv.goesOn idle (by simp) rfl (addToReceiveQueue_adds c e s.sock segment size) (.inl rfl)
    | _ =>
      refine inv.goesOn idle (by simp) rfl ?_ (.inl ?_) <;> simp only [Machine.step, unchanged]
      · exact .refl _
      · rfl

end StreamSender

end IPStack
