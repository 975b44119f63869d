import IPStack.Lib.Reach
import IPStack.Tcp.StreamReceiver

/-! Two sockets and the channel from the one that writes to the one that reads. The channel loses,
repeats and reorders segments; what the sender gets in return is arbitrary. -/

namespace IPStack

open TcpSocket Transition

namespace StreamSender

variable {c : Config} {isn : SeqNum} {s : StreamSender}

/-- The invariant for the initial sequence number, which `connect` chooses. -/
def Numbered (c : Config) (s : StreamSender) (isn : SeqNum) : Prop := ∀ isn', (s.connected = true → isn' = isn) → Inv c isn' s

theorem connected_step (c : Config) (s : StreamSender) (e : Env) (event : Event) :
    (s.step c e event).connected = s.connectedBy event := by
  unfold step
  dsimp only
  split <;> rfl

/-- Nothing is in the stream before `connect`. -/
theorem connect_extends (unconnected : s.connected = false) (e : Env) :
    (s.stream c isn).Extends ((s.step c e .connect).stream c isn) := by
  have grows : s.written <+: (s.step c e .connect).written ∧ s.segments c <+: (s.step c e .connect).segments c := by
    by_cases idle : s.call = none
    · rw [step_idle idle e .connect]
      exact ⟨List.prefix_append _ _, by rw [idle_segments]⟩
    · rw [step_busy idle e .connect]
      refine ⟨List.prefix_rfl, ?_⟩
      unfold segments WriteRun.segments
      dsimp only
      rw [List.filterMap_append, ← List.append_assoc]
      exact List.prefix_append _ _
  exact ⟨rfl, grows.1, grows.2, fun ended => absurd (unconnected.symm.trans ended.1) Bool.false_ne_true⟩

/-- The stream goes on, under the number that it has or gets now. -/
theorem Numbered.step (numbered : Numbered c s isn) {event : Event} (allowed : s.allowed event) (e : Env) :
    ∃ isn', Numbered c (s.step c e event) isn' ∧ ∀ isn'', ((s.step c e event).connected = true → isn'' = isn') →
      (s.connected = true → isn'' = isn) ∧ (s.stream c isn'').Extends ((s.step c e event).stream c isn'') := by
  by_cases connects : event = .connect
  · subst connects
    have unconnected : s.connected = false := allowed
    obtain ⟨isn', inv⟩ := Inv.connects (fun isn' => numbered isn' fun connected => absurd (unconnected.symm.trans connected)
      Bool.false_ne_true) unconnected e
    have connected := connected_step c s e .connect
    refine ⟨isn', fun isn'' same => ?_, fun isn'' _ => ⟨fun before => absurd (unconnected.symm.trans before) Bool.false_ne_true,
      connect_extends unconnected e⟩⟩
    rw [same connected]
    exact inv
  · have connected : (s.step c e event).connected = s.connected := by
      rw [connected_step]
      cases event <;> first | exact absurd rfl connects | rfl
    refine ⟨isn, fun isn' same => ?_, fun isn' same => ?_⟩
    · exact (numbered isn' fun before => same (connected.trans before)).step allowed connects e
    · rw [connected] at same
      exact ⟨same, (numbered isn' same).extends_step allowed connects e⟩

theorem numbered_run {memory : TcpSocket}
    (reach : Reach (fun s a => step c s a.1 a.2) (fun s (a : Env × Event) => s.allowed a.2) (start c memory) s) :
    ∃ isn, Numbered c s isn :=
  reach.invariant (fun s => ∃ isn, Numbered c s isn) ⟨0, fun isn _ => start_inv c memory isn⟩ fun _ a ⟨_, numbered⟩ allowed =>
    (numbered.step allowed a.1).imp fun _ => And.left

/-- Every segment that a connection ever sends, retransmissions included, is the SYN with the
initial sequence number, a piece of the written bytes under the number of its place in them, the
FIN behind all bytes, or has no sequence numbers. -/
theorem wire_placed {memory : TcpSocket}
    (reach : Reach (fun s a => step c s a.1 a.2) (fun s (a : Env × Event) => s.allowed a.2) (start c memory) s) :
    ∃ isn, (∀ segment ∈ s.sock.trace.wire, ∃ position, s.sends c ⟨position, segment⟩) ∧
      ∀ p, s.sends c p → (s.stream c isn).Places p := by
  obtain ⟨isn, numbered⟩ := numbered_run reach
  have inv := numbered isn fun _ => rfl
  exact ⟨isn, fun segment wire => inv.sends_wire wire, fun p sent => inv.places sent⟩

end StreamSender

namespace Sample

/-- A socket that connects and writes two bytes. -/
def sending : List (Env × Event) := opening ++ [(env, .write [7, 8] (by decide)), (env, .tick)]

def streamSender (inputs : List (Env × Event)) : StreamSender :=
  inputs.foldl (fun s a => s.step config a.1 a.2) (.start config memory)

end Sample

namespace StreamSender

theorem wire_placed_sending : ∃ isn, (∀ segment ∈ (Sample.streamSender Sample.sending).sock.trace.wire,
      ∃ position, (Sample.streamSender Sample.sending).sends Sample.config ⟨position, segment⟩) ∧
    ∀ p, (Sample.streamSender Sample.sending).sends Sample.config p →
      ((Sample.streamSender Sample.sending).stream Sample.config isn).Places p :=
  wire_placed (Reach.start.foldl (by decide +kernel))

end StreamSender

/-! ### Two sockets -/

/-- The socket that writes and the socket that reads. -/
structure StreamPair where
  sender : StreamSender
  receiver : StreamReceiver

/-- A step of one of the sockets, or the arrival of a segment with the size of its buffer. -/
inductive PairEvent
  | sender (e : Env) (event : Event)
  | receiver (e : Env) (event : Event)
  | deliver (e : Env) (p : Packet) (size : BitVec 16)

namespace StreamPair

variable {c c' : Config} {s : StreamPair}

def start (c c' : Config) (memory memory' : TcpSocket) : StreamPair := ⟨.start c memory, .start c' memory'⟩

def step (c c' : Config) (s : StreamPair) : PairEvent → StreamPair
  | .sender e event => { s with sender := s.sender.step c e event }
  | .receiver e event => { s with receiver := s.receiver.step c' e event }
  | .deliver e p size => { s with receiver := s.receiver.deliver c' e p size }

/-- A segment that arrives has been sent, and fills its buffer. -/
def allowed (c : Config) (s : StreamPair) : PairEvent → Prop
  | .sender _ event => s.sender.allowed event
  | .receiver e event => s.receiver.allowed e event
  | .deliver _ p size => s.sender.sends c p ∧ size.toNat = p.segment.headerLen.toNat * 4 + p.segment.data.length

instance (c : Config) (s : StreamPair) : (event : PairEvent) → Decidable (s.allowed c event)
  | .sender _ event => inferInstanceAs (Decidable (s.sender.allowed event))
  | .receiver e event => inferInstanceAs (Decidable (s.receiver.allowed e event))
  | .deliver _ _ _ => inferInstanceAs (Decidable (_ ∧ _))

/-- Both invariants, for the stream under the number that `connect` has chosen or any. -/
def Inv (c c' : Config) (s : StreamPair) : Prop :=
  ∃ isn, s.sender.Numbered c isn ∧ ∀ isn', (s.sender.connected = true → isn' = isn) →
    s.receiver.Inv c' (s.sender.stream c isn')

theorem start_inv (c c' : Config) (memory memory' : TcpSocket) : Inv c c' (start c c' memory memory') :=
  ⟨0, fun isn _ => StreamSender.start_inv c memory isn, fun _ _ => StreamReceiver.start_inv c' _ memory'⟩

theorem Inv.step (sliding : c'.slidingWindowReceive = true) (inv : Inv c c' s) {event : PairEvent} (allowed : s.allowed c event) :
    Inv c c' (s.step c c' event) := by
  obtain ⟨isn, numbered, receives⟩ := inv
  cases event with
  | sender e event =>
    obtain ⟨isn', numbered', goesOn⟩ := numbered.step allowed e
    refine ⟨isn', numbered', fun isn'' same => ?_⟩
    obtain ⟨before, extends_⟩ := goesOn isn'' same
    exact (receives isn'' before).goesOn extends_
  | receiver e event =>
    exact ⟨isn, numbered, fun isn' same => (receives isn' same).step sliding (numbered isn' same).pieces allowed⟩
  | deliver e p size =>
    exact ⟨isn, numbered, fun isn' same => (receives isn' same).deliver e ((numbered isn' same).places allowed.1) allowed.2⟩

/-- What `receive` has returned is at any time the beginning of what was passed to `write`, and the
end of the stream is reported when everything was returned and no more can be written. -/
theorem returned_stream (sliding : c'.slidingWindowReceive = true) {memory memory' : TcpSocket}
    (reach : Reach (step c c') (allowed c) (start c c' memory memory') s) :
    s.receiver.machine.returned <+: s.sender.written ∧
      (s.receiver.machine.endOfStream = true → s.receiver.machine.returned = s.sender.written ∧ ¬s.sender.sock.isOpen) := by
  obtain ⟨isn, numbered, receives⟩ := reach.invariant (Inv c c') (start_inv c c' memory memory')
    (fun _ _ inv ok => inv.step sliding ok)
  have inv := receives isn fun _ => rfl
  refine ⟨inv.returned, fun reported => ?_⟩
  obtain ⟨⟨-, ended⟩, all⟩ := inv.endOfStream reported
  refine ⟨all, fun opened => ?_⟩
  have stage := (StreamSender.isOpen_iff s.sender.sock).mp opened
  rcases ended with late | closed
  · cases late.symm.trans stage
  · cases closed.symm.trans stage

end StreamPair

namespace Sample

/-- A segment of the sender crosses the channel. -/
def crossing (position : Nat) (segment : TcpSegment) : PairEvent :=
  .deliver env ⟨position, segment⟩ (20 + BitVec.ofNat 16 segment.data.length)

def fromSender (seqnum acknum : SeqNum) (data : List UInt8) : TcpSegment :=
  { segment seqnum acknum 536 data with sport := 1024, dport := 0 }

/-- The sender processes an answer. -/
def answer (segment : TcpSegment) : List PairEvent := [.sender env (.arrive segment 20), .sender env .tick]

def rounds (n : Nat) : List PairEvent := List.replicate n (.receiver env .tick)

/-- The handshake. -/
def meeting : List PairEvent :=
  [.receiver env (.setPorts 80 1024), .receiver env .listen, .sender env .connect,
    crossing 0 { fromSender 0 0 [] with syn := true, ack := false }] ++ rounds 1 ++
  answer { segment 0 1 2 [] with syn := true } ++ [.sender env .tick, crossing 0 (fromSender 1 1 [])] ++ rounds 2

/-- Three bytes in two segments, the second of which arrives first and once more later. -/
def reordered : List PairEvent :=
  meeting ++ [.sender env (.write [7, 8, 9] (by decide)), .sender env .tick] ++ answer (segment 1 1 1000 []) ++
  [.sender env .tick, .receiver env (.receive [0, 0, 0, 0] (by decide)), crossing 3 { fromSender 3 1 [9] with psh := true }] ++
  rounds 2 ++ [crossing 1 (fromSender 1 1 [7, 8]), crossing 3 { fromSender 3 1 [9] with psh := true }] ++ rounds 4 ++
  answer (segment 1 4 1000 []) ++ [.sender env .tick, .sender env .tick, .sender env .close,
    crossing 4 { fromSender 4 1 [] with fin := true }, .receiver env (.receive [0, 0, 0, 0] (by decide))] ++ rounds 3

def pair (events : List PairEvent) : StreamPair :=
  events.foldl (StreamPair.step config config) (.start config config memory memory)

end Sample

namespace StreamPair

theorem returned_stream_reordered : (Sample.pair Sample.reordered).receiver.machine.endOfStream = true ∧
    (Sample.pair Sample.reordered).receiver.machine.returned = (Sample.pair Sample.reordered).sender.written :=
  have ended : (Sample.pair Sample.reordered).receiver.machine.endOfStream = true := by decide +kernel
  ⟨ended, ((returned_stream (s := Sample.pair Sample.reordered) rfl (Reach.start.foldl (by decide +kernel))).2 ended).1⟩

end StreamPair

end IPStack
