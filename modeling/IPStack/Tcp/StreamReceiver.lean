import IPStack.Tcp.StreamRounds

/-! The socket that listens and reads, while segments of a stream arrive in its packet buffer. -/

namespace IPStack

open TcpSocket TcpReceiveBuffer Machine

/-- A socket with the positions that the packets in its packet buffer have in the stream. -/
structure StreamReceiver where
  machine : Machine
  queued : List Nat
  listened : Bool

namespace StreamReceiver

def start (c : Config) (memory : TcpSocket) : StreamReceiver := ⟨.construct c memory, [], false⟩

def sock (s : StreamReceiver) : TcpSocket := s.machine.sock

def call (s : StreamReceiver) : Option Call := s.machine.call

/-- The bytes that `receive` has returned, and those that a call in progress has copied so far. -/
def copied (s : StreamReceiver) : List UInt8 :=
  s.machine.returned ++ if s.call = some .receive then s.sock.applicationRecv else []

def step (c : Config) (s : StreamReceiver) (e : Env) (event : Event) : StreamReceiver :=
  let machine := s.machine.step c (e, event)
  { machine
    queued := s.queued.drop (s.queued.length - machine.sock.packetbuffer.length)
    listened := match event with
      | .listen => true
      | _ => s.listened }

/-- A segment of the stream arrives in the packet buffer. -/
def deliver (c : Config) (s : StreamReceiver) (e : Env) (p : Packet) (size : BitVec 16) : StreamReceiver :=
  let machine := s.machine.step c (e, .arrive p.segment size)
  { s with machine, queued := (s.queued ++ [p.position]).take machine.sock.packetbuffer.length }

/-- The segment that the next round processes. -/
def taken (s : StreamReceiver) (e : Env) : Option ReceiveBuffer := (s.machine.inputOf e).bind Prod.snd

/-- All sequence numbers of a segment are within half the sequence space of the read position. -/
def near (s : StreamReceiver) (position len : Nat) : Prop :=
  1 + s.copied.length ≤ position + 2 ^ 31 ∧ position + len ≤ 1 + s.copied.length + 2 ^ 31

/-- The next segment is near, and the first one that LISTEN looks at is a SYN. -/
def inTurn (s : StreamReceiver) (e : Env) : Prop :=
  ∀ r ∈ s.taken e, (r.segment.seqLen = 0 ∨ ∀ position ∈ s.queued.head?, s.near position r.segment.seqLen) ∧
    (s.sock.state = .listen → r.segment.syn = true ∨ r.segment.rst = true)

/-- The task listens once, and reads into buffers of some size below 2^31. Segments arrive with `deliver`. -/
def allowed (s : StreamReceiver) (e : Env) : Event → Prop
  | .connect => False
  | .listen => s.listened = false
  | .receive buffer _ => 0 < buffer.length ∧ buffer.length < 2 ^ 31
  | .arrive _ _ => False
  | .tick => s.inTurn e
  | _ => True

instance (s : StreamReceiver) (position len : Nat) : Decidable (s.near position len) := inferInstanceAs (Decidable (_ ∧ _))

instance (s : StreamReceiver) (e : Env) : Decidable (s.inTurn e) := by
  unfold inTurn
  infer_instance

instance (s : StreamReceiver) (e : Env) : (event : Event) → Decidable (s.allowed e event)
  | .connect | .arrive _ _ => inferInstanceAs (Decidable False)
  | .listen => inferInstanceAs (Decidable (s.listened = false))
  | .receive buffer _ => inferInstanceAs (Decidable (0 < buffer.length ∧ buffer.length < 2 ^ 31))
  | .tick => inferInstanceAs (Decidable (s.inTurn e))
  | .write _ _ | .close | .poll | .setPorts _ _ | .setMaxReceiveWindow _ => inferInstanceAs (Decidable True)

/-! ### The invariant -/

structure Inv (c : Config) (v : Stream) (s : StreamReceiver) : Prop where
  calls : CallInv s.machine
  queue : List.Forall₂ v.Queues s.sock.packetbuffer s.queued
  receives : v.Receives c s.call s.listened s.copied s.sock.receiveView
  endOfStream : s.machine.endOfStream = true → v.ended ∧ s.machine.returned = v.bytes

variable {c : Config} {v v' : Stream} {s : StreamReceiver} {e : Env}

theorem Inv.goesOn (inv : Inv c v s) (extends_ : v.Extends v') : Inv c v' s where
  calls := inv.calls
  queue := inv.queue.imp fun _ _ queues => ⟨extends_.places queues.1, queues.2⟩
  receives := inv.receives.goesOn extends_
  endOfStream reported := by
    obtain ⟨ended, all⟩ := inv.endOfStream reported
    obtain ⟨ended', same⟩ := extends_.ended ended
    exact ⟨ended', all.trans same.symm⟩

theorem start_inv (c : Config) (v : Stream) (memory : TcpSocket) : Inv c v (start c memory) := by
  have fields := construct_eq c memory
  have view : (start c memory).sock.receiveView = { memory.receiveView with
      state := .closed, receiveBuffer := memory.receiveBuffer.construct c, finReceived := false, wanted := 0, receiving := false
      waiting := false, packetbuffer := [] } := by
    change (memory.construct c).receiveView = _
    rw [fields]
    rfl
  have empty : (start c memory).sock.packetbuffer = [] := congrArg ReceiveView.packetbuffer view
  refine ⟨construct_callInv c memory, by rw [empty]; exact .nil, ?_, fun reported => (by cases reported)⟩
  rw [view]
  exact ⟨fun closed => (by cases closed), fun _ => ⟨rfl, fun call => (by cases call)⟩,
    fun _ => ⟨⟨memory.receiveBuffer, memory.receiveBuffer.readFirstSeqNum, rfl⟩, rfl, rfl, .inl rfl⟩,
    fun alive _ => absurd rfl alive, by simp, List.nil_prefix, by simp, by simp⟩

/-! ### Steps -/

theorem suffix_queue {α β : Type*} {R : α → β → Prop} {l l' : List α} {q : List β} (related : List.Forall₂ R l q)
    (suffix : l' <:+ l) : List.Forall₂ R l' (q.drop (q.length - l'.length)) := by
  obtain ⟨front, rfl⟩ := suffix
  have length := related.length_eq
  rw [List.length_append] at length
  have dropped := List.forall₂_drop front.length related
  rw [List.drop_left] at dropped
  have amount : q.length - l'.length = front.length := by omega
  rwa [amount]

/-- The call that goes on behind a round of the state machine. -/
def onward : Option Call → Option Call
  | some (.poll _) => some (.poll true)
  | call => call

theorem onward_receive (call : Option Call) : onward call = some .receive ↔ call = some .receive := by
  cases call with
  | none => exact Iff.rfl
  | some call => cases call <;> simp [onward]

theorem onward_listen (call : Option Call) : onward call = some .listen ↔ call = some .listen := by
  cases call with
  | none => exact Iff.rfl
  | some call => cases call <;> simp [onward]

theorem tick_input {m : Machine} {s₁ : TcpSocket} {segment : Option ReceiveBuffer} (input : m.inputOf e = some (s₁, segment)) :
    m.step c (e, .tick) = { m with sock := s₁.input c e segment, call := onward m.call } := by
  change m.tick c e = _
  rw [Machine.tick, input]
  dsimp only
  congr 1

/-- The call goes on with a socket that has copied some more bytes. -/
theorem Inv.round (inv : Inv c v s) {sock : TcpSocket} (machine : s.machine.step c (e, .tick) =
      { s.machine with sock := sock, call := onward s.machine.call })
    (shorter : sock.packetbuffer <:+ s.sock.packetbuffer) {more : List UInt8}
    (recv : sock.applicationRecv = s.sock.applicationRecv ++ more) (only : s.call ≠ some .receive → more = [])
    (next : v.Receives c s.call s.listened (s.copied ++ more) sock.receiveView) : Inv c v (s.step c e .tick) := by
  have calls := step_callInv (c := c) inv.calls (e, .tick)
  have copied : s.machine.returned ++ (if onward s.machine.call = some .receive then sock.applicationRecv else []) =
      s.copied ++ more := by
    unfold StreamReceiver.copied
    simp only [onward_receive, recv]
    by_cases receive : s.call = some .receive
    · have receive' : s.machine.call = some .receive := receive
      rw [if_pos receive, if_pos receive', List.append_assoc]
    · have receive' : s.machine.call ≠ some .receive := receive
      rw [if_neg receive, if_neg receive', only receive, List.append_nil, List.append_nil]
  unfold step
  dsimp only
  rw [machine] at calls ⊢
  refine ⟨calls, suffix_queue inv.queue shorter, ?_, inv.endOfStream⟩
  rw [← copied] at next
  exact next.again (onward_receive _) (onward_listen _)

/-- A round without a segment. -/
theorem Inv.idles (inv : Inv c v s) (sliding : c.slidingWindowReceive = true) (sound : v.Sound)
    (input : s.machine.inputOf e = some (s.sock, none)) : Inv c v (s.step c e .tick) := by
  have passes := input_passes c e s.sock
  obtain ⟨more, recv, only, next⟩ := inv.receives.passes (Stream.reading_of_calls inv.calls) sliding sound passes
  exact inv.round (tick_input input) passes.packetbuffer recv only next

/-- A round with a segment: the packet of the queue that has waited longest. -/
theorem Inv.takes (inv : Inv c v s) (sliding : c.slidingWindowReceive = true) (sound : v.Sound) (turn : s.inTurn e)
    {s₁ : TcpSocket} {r : ReceiveBuffer} (input : s.machine.inputOf e = some (s₁, some r)) : Inv c v (s.step c e .tick) := by
  obtain ⟨rest, dport, packets, rfl⟩ := Machine.inputOf_some input
  have taken : s.taken e = some r := by rw [StreamReceiver.taken, input]; rfl
  obtain ⟨near, first⟩ := turn r taken
  have queue := inv.queue
  change s.sock.packetbuffer = r :: rest at packets
  rw [packets] at queue
  obtain ⟨position, others, queues, later, split⟩ : ∃ position others, v.Queues r position ∧
      List.Forall₂ v.Queues rest others ∧ s.queued = position :: others := by
    cases positions : s.queued with
    | nil => rw [positions] at queue; cases queue
    | cons position others =>
      rw [positions] at queue
      cases queue with
      | cons queues later => exact ⟨position, others, queues, later, rfl⟩
  have before : v.Receives c s.call s.listened s.copied (Machine.taking s.sock rest dport).receiveView :=
    inv.receives.packets rest
  have takes := input_takes (s := Machine.taking s.sock rest dport) c e inv.receives.passive r
  have listens : s.call = some .listen → s.sock.state = .listen ∨ s.sock.waiting = true := by
    intro call
    unfold Machine.inputOf at input
    change s.machine.call = _ at call
    rw [call] at input
    dsimp only at input
    split_ifs at input with listening _ waiting
    · exact .inl listening
    · exact .inr waiting
  have waits : s.call = some .receive → s.sock.waiting = true := by
    intro call
    by_contra waiting
    unfold Machine.inputOf at input
    change s.machine.call = _ at call
    rw [call] at input
    dsimp only at input
    cases (if_neg waiting).symm.trans input
  obtain ⟨recv, next⟩ := before.takes sliding sound queues (near.imp_right fun near => near position (by rw [split]; rfl))
    first listens waits takes
  have shorter : ((Machine.taking s.sock rest dport).input c e (some r)).packetbuffer <:+ s.sock.packetbuffer := by
    rw [packets]
    exact takes.packetbuffer.trans (List.suffix_cons r rest)
  have more : v.Receives c s.call s.listened (s.copied ++ [])
      ((Machine.taking s.sock rest dport).input c e (some r)).receiveView := by
    rwa [List.append_nil]
  exact inv.round (tick_input input) shorter (recv.trans (List.append_nil _).symm) (fun _ => rfl) more

theorem copied_idle (other : s.call ≠ some .receive) : s.copied = s.machine.returned := by
  unfold copied
  rw [if_neg other, List.append_nil]

/-- The machine behind a step, and what it has copied. -/
theorem Inv.of_machine (inv : Inv c v s) {machine : Machine} {event : Event} (result : s.machine.step c (e, event) = machine)
    (shorter : machine.sock.packetbuffer <:+ s.sock.packetbuffer)
    (copied : machine.returned ++ (if machine.call = some .receive then machine.sock.applicationRecv else []) = s.copied)
    (endOfStream : machine.endOfStream = true → v.ended ∧ machine.returned = v.bytes)
    {listened : Bool} (hears : (s.step c e event).listened = listened)
    (next : v.Receives c machine.call listened s.copied machine.sock.receiveView) : Inv c v (s.step c e event) := by
  have calls := step_callInv (c := c) inv.calls (e, event)
  subst hears
  rw [result] at calls
  have copied' : (s.step c e event).copied = s.copied := by
    unfold StreamReceiver.copied StreamReceiver.call step
    dsimp only
    rw [result]
    exact copied
  refine ⟨?_, ?_, ?_, ?_⟩
  · change CallInv (s.machine.step c (e, event))
    rwa [result]
  · change List.Forall₂ v.Queues (s.machine.step c (e, event)).sock.packetbuffer
      (s.queued.drop (s.queued.length - (s.machine.step c (e, event)).sock.packetbuffer.length))
    rw [result]
    exact suffix_queue inv.queue shorter
  · rw [copied']
    change v.Receives c (s.machine.step c (e, event)).call _ _ (s.machine.step c (e, event)).sock.receiveView
    rwa [result]
  · change (s.machine.step c (e, event)).endOfStream = true → _ ∧ (s.machine.step c (e, event)).returned = _
    rwa [result]

/-- A step between calls of `receive`. -/
theorem Inv.between (inv : Inv c v s) (before : s.call ≠ some .receive) {sock : TcpSocket} {call : Option Call} {event : Event}
    (result : s.machine.step c (e, event) = { s.machine with sock := sock, call := call }) (other : call ≠ some .receive)
    (shorter : sock.packetbuffer <:+ s.sock.packetbuffer) {listened : Bool} (hears : (s.step c e event).listened = listened)
    (next : v.Receives c call listened s.copied sock.receiveView) : Inv c v (s.step c e event) := by
  refine inv.of_machine result shorter ?_ inv.endOfStream hears next
  rw [if_neg other, List.append_nil, copied_idle before]

theorem settle_listen (c : Config) (e : Env) {m : Machine} (call : m.call = some .listen) :
    (∃ r rest dport, m.sock.packetbuffer = r :: rest ∧
      m.settle c e = { m with sock := (Machine.taking m.sock rest dport).freeReceivedSegment r }) ∨
    m.settle c e = m ∨ m.settle c e = { m with call := none } ∨ m.settle c e = { m with sock := m.sock.listenBase c e } := by
  unfold settle
  rw [call]
  dsimp only
  split
  · rename_i s r _ taken
    obtain ⟨rest, packets, rfl⟩ := listenPacket_eq taken
    exact .inl ⟨r, rest, _, packets, rfl⟩
  · exact .inr (.inl rfl)
  · exact .inr (.inr (.inl rfl))
  · split_ifs
    · exact .inr (.inr (.inl rfl))
    · exact .inr (.inr (.inr rfl))

/-- A round that does not run the state machine. -/
theorem Inv.settles (inv : Inv c v s) (input : s.machine.inputOf e = none) : Inv c v (s.step c e .tick) := by
  have result : s.machine.step c (e, .tick) = s.machine.settle c e := by
    change s.machine.tick c e = _
    rw [Machine.tick, input]
  cases call : s.machine.call with
  | none =>
    have other : s.call ≠ some .receive := by simp [StreamReceiver.call, call]
    have settles : s.machine.settle c e = s.machine := by rw [Machine.settle, call]
    exact inv.between other (result.trans settles) other List.suffix_rfl rfl inv.receives
  | some running =>
    cases running with
    | receive =>
      have receive : s.call = some .receive := call
      have settles : s.machine.settle c e = ⟨s.sock, none, s.machine.returned ++ s.sock.applicationRecv,
          s.machine.endOfStream || (s.sock.applicationRecvLen = 0 ∧ s.sock.state = .closewait : Bool)⟩ := by
        rw [Machine.settle, call]
        rfl
      have copied : s.copied = s.machine.returned ++ s.sock.applicationRecv := by
        unfold StreamReceiver.copied
        rw [if_pos receive]
      refine inv.of_machine (result.trans settles) List.suffix_rfl ?_ (fun reported => ?_) rfl
        (inv.receives.calls (by simp) (by simp))
      · rw [if_neg (by simp), List.append_nil, copied]
      · dsimp only at reported ⊢
        rw [← copied]
        rcases Bool.or_eq_true_iff.mp reported with before | now
        · obtain ⟨ended, all⟩ := inv.endOfStream before
          refine ⟨ended, inv.receives.written.eq_of_length_le ?_⟩
          rw [← all, copied, List.length_append]
          exact Nat.le_add_right _ _
        · obtain ⟨none, closewait⟩ := of_decide_eq_true now
          have waiting := not_waiting input (.inr (.inr (.inl call)))
          exact ⟨(inv.receives.complete closewait).1, inv.receives.drained receive waiting closewait none⟩
    | poll processed =>
      have other : s.call ≠ some .receive := by simp [StreamReceiver.call, call]
      have settles : s.machine.settle c e = { s.machine with
          sock := if processed then (s.sock.updateHistory c e true).processAck c e else s.sock, call := none } := by
        rw [Machine.settle, call]
        rfl
      generalize update : (if processed then (s.sock.updateHistory c e true).processAck c e else s.sock) = sock at settles
      have view : sock.receiveView = s.sock.receiveView ∨ sock.receiveView = s.sock.receiveView.aborted := by
        rw [← update]
        cases processed with
        | false => exact .inl rfl
        | true => exact updateAck_receiveView c e s.sock
      have after : sock.receiveView.packetbuffer <:+ _ ∧ v.Receives c none s.listened s.copied sock.receiveView :=
        inv.receives.same_or_aborted (by simp) (by simp) view
      exact inv.between other (result.trans settles) (by simp) after.1 rfl after.2
    | listen =>
      have listening : s.call = some .listen := call
      have other : s.call ≠ some .receive := by simp [listening]
      have hears : s.listened = true := by
        cases listened : s.listened with
        | true => rfl
        | false => exact absurd listening (inv.receives.unopened listened).2
      rcases settle_listen c e call with ⟨r, rest, dport, packets, settles⟩ | settles | settles | settles
      · exact inv.between other (result.trans settles) other (packets ▸ List.suffix_cons r rest) rfl (inv.receives.packets rest)
      · exact inv.between other (result.trans settles) other List.suffix_rfl rfl inv.receives
      · exact inv.between other (result.trans settles) (by simp) List.suffix_rfl rfl (inv.receives.calls (by simp) (by simp))
      · have view := listenBase_receiveView c e s.sock
        have packets : (s.sock.listenBase c e).packetbuffer = s.sock.packetbuffer := by
          rcases view with same | ⟨-, moved⟩
          · exact congrArg ReceiveView.packetbuffer same
          · exact congrArg ReceiveView.packetbuffer moved
        refine inv.between other (result.trans settles) other (packets ▸ List.suffix_rfl) hears ?_
        rw [call]
        exact inv.receives.listens (.inr listening) view
    | connect | write | close =>
      have other : s.call ≠ some .receive := by simp [StreamReceiver.call, call]
      have settles : s.machine.settle c e = { s.machine with call := none } := by rw [Machine.settle, call]
      exact inv.between other (result.trans settles) (by simp) List.suffix_rfl rfl (inv.receives.calls (by simp) (by simp))

/-! ### Calls -/

/-- A call is not made while another one is in progress. -/
theorem Inv.busy (inv : Inv c v s) {event : Event} (result : s.machine.step c (e, event) = s.machine) :
    Inv c v (s.step c e event) := by
  have next : v.Receives c s.call (s.step c e event).listened s.copied s.sock.receiveView := by
    cases event with
    | listen => exact inv.receives.heard
    | _ => exact inv.receives
  exact inv.of_machine result List.suffix_rfl rfl inv.endOfStream rfl next

theorem receiveBase_wanted (s : TcpSocket) {buffer : List UInt8} (short : buffer.length < 2 ^ 31) :
    (s.receiveBase buffer).receiveView.wanted.toNat = buffer.length := by
  change (BitVec.ofNat 32 buffer.length &&& 0x7FFFFFFF).toNat = _
  have mask : (0x7FFFFFFF : BitVec 32).toNat = 2 ^ 31 - 1 := rfl
  rw [BitVec.toNat_and, BitVec.toNat_ofNat, mask, Nat.and_two_pow_sub_one_eq_mod]
  omega

/-- A call of the application begins. -/
theorem Inv.begins (inv : Inv c v s) (idle : s.call = none) {event : Event} (allowed : s.allowed e event)
    (ticks : event ≠ .tick) : Inv c v (s.step c e event) := by
  have other : s.call ≠ some .receive := by simp [idle]
  have quiet : s.sock.receiving = false := inv.calls.receiving other
  have begins : ∀ event', (if s.machine.call = none then s.machine.begin c e event' else s.machine) =
      s.machine.begin c e event' := fun event' => if_pos idle
  cases event with
  | connect => exact allowed.elim
  | arrive segment size => exact allowed.elim
  | tick => exact absurd rfl ticks
  | listen =>
    have result : s.machine.step c (e, .listen) = s.machine.begin c e .listen := begins .listen
    by_cases refused : s.sock.state = .established ∨ s.sock.sport = 0
    · exact inv.busy (result.trans (if_pos refused))
    · have view := listenBase_receiveView c e s.sock
      have packets : (s.sock.listenBase c e).packetbuffer = s.sock.packetbuffer := by
        rcases view with same | ⟨-, moved⟩
        · exact congrArg ReceiveView.packetbuffer same
        · exact congrArg ReceiveView.packetbuffer moved
      exact inv.between other (result.trans (if_neg refused)) (by simp) (packets ▸ List.suffix_rfl) rfl
        (inv.receives.listens (.inl allowed) view)
  | write data size_lt =>
    have result : s.machine.step c (e, .write data size_lt) = s.machine.begin c e (.write data size_lt) := begins _
    by_cases opened : s.sock.isOpen
    · have view : (s.sock.writeBase data).receiveView = { s.sock.receiveView with waiting := true } := by
        unfold TcpSocket.receiveView writeBase
        simp [quiet]
      have next : v.Receives c (some .write) s.listened s.copied (s.sock.writeBase data).receiveView := by
        rw [view]
        exact inv.receives.opened opened (by simp) (by simp) rfl
      exact inv.between other (result.trans (if_pos opened)) (by simp) List.suffix_rfl rfl next
    · exact inv.busy (result.trans (if_neg opened))
  | receive buffer size_lt =>
    have result : s.machine.step c (e, .receive buffer size_lt) = s.machine.begin c e (.receive buffer size_lt) := begins _
    by_cases opened : s.sock.isOpen
    · refine inv.of_machine (result.trans (if_pos opened)) List.suffix_rfl ?_ inv.endOfStream rfl ?_
      · rw [if_pos rfl, copied_idle other]
        exact List.append_nil _
      · refine inv.receives.opened opened (by simp) (fun _ => ⟨?_, rfl, ?_⟩) rfl
        · exact (receiveBase_wanted s.sock allowed.2).symm ▸ allowed.1
        · exact (receiveBase_wanted s.sock allowed.2).symm ▸ allowed.2
    · exact inv.busy (result.trans (if_neg opened))
  | close =>
    have result : s.machine.step c (e, .close) = s.machine.begin c e .close := begins _
    have after : (s.sock.closeBase c e).receiveView.packetbuffer <:+ s.sock.receiveView.packetbuffer ∧
        v.Receives c (some .close) s.listened s.copied (s.sock.closeBase c e).receiveView := by
      rcases closeBase_receiveView c e s.sock with same | aborted | ⟨opened, next, late, view⟩
      · exact inv.receives.same_or_aborted (by simp) (by simp) (.inl same)
      · exact inv.receives.same_or_aborted (by simp) (by simp) (.inr aborted)
      · exact inv.receives.closes (by simp) (by simp) opened late view
    exact inv.between other result (by simp) after.1 rfl after.2
  | poll =>
    have result : s.machine.step c (e, .poll) = s.machine.begin c e .poll := begins _
    by_cases opened : s.sock.isOpen
    · exact inv.between other (result.trans (if_pos opened)) (by simp) List.suffix_rfl rfl
        (inv.receives.calls (by simp) (by simp))
    · exact inv.busy (result.trans (if_neg opened))
  | setPorts sport dport =>
    have result : s.machine.step c (e, .setPorts sport dport) = s.machine.begin c e (.setPorts sport dport) := begins _
    exact inv.between other result other List.suffix_rfl rfl inv.receives
  | setMaxReceiveWindow max =>
    have result : s.machine.step c (e, .setMaxReceiveWindow max) = s.machine.begin c e (.setMaxReceiveWindow max) := begins _
    exact inv.between other result other List.suffix_rfl rfl inv.receives

theorem Inv.step (inv : Inv c v s) (sliding : c.slidingWindowReceive = true) (sound : v.Sound) {event : Event}
    (allowed : s.allowed e event) : Inv c v (s.step c e event) := by
  by_cases ticks : event = .tick
  · subst ticks
    cases input : s.machine.inputOf e with
    | none => exact inv.settles input
    | some taken =>
      obtain ⟨s₁, segment⟩ := taken
      cases segment with
      | none =>
        obtain rfl := Machine.inputOf_none input
        exact inv.idles sliding sound input
      | some r => exact inv.takes sliding sound allowed input
  · by_cases idle : s.call = none
    · exact inv.begins idle allowed ticks
    · have unchanged : ∀ event', (if s.machine.call = none then s.machine.begin c e event' else s.machine) = s.machine :=
        fun event' => if_neg idle
      cases event with
      | tick => exact absurd rfl ticks
      | arrive segment size => exact allowed.elim
      | _ => exact inv.busy (unchanged _)

/-- A segment of the stream arrives. -/
theorem Inv.deliver (inv : Inv c v s) (e : Env) {p : Packet} (places : v.Places p) {size : BitVec 16}
    (whole : size.toNat = p.segment.headerLen.toNat * 4 + p.segment.data.length) : Inv c v (s.deliver c e p size) := by
  have calls := step_callInv (c := c) inv.calls (e, .arrive p.segment size)
  have length := inv.queue.length_eq
  have view := addToReceiveQueue_receiveView c e s.sock p.segment size
  have recv : (s.sock.addToReceiveQueue c e p.segment size).applicationRecv = s.sock.applicationRecv := by
    rcases view with same | ⟨block, arrived⟩
    · exact congrArg ReceiveView.applicationRecv same
    · exact congrArg ReceiveView.applicationRecv arrived
  have copied : (s.deliver c e p size).copied = s.copied := by
    unfold StreamReceiver.copied
    change s.machine.returned ++ (if s.call = some .receive then (s.sock.addToReceiveQueue c e p.segment size).applicationRecv
      else []) = _
    rw [recv]
  refine ⟨calls, ?_, ?_, inv.endOfStream⟩
  · change List.Forall₂ v.Queues (s.sock.addToReceiveQueue c e p.segment size).packetbuffer
      ((s.queued ++ [p.position]).take (s.sock.addToReceiveQueue c e p.segment size).packetbuffer.length)
    rcases view with same | ⟨block, arrived⟩
    · have packets : (s.sock.addToReceiveQueue c e p.segment size).packetbuffer = s.sock.packetbuffer :=
        congrArg ReceiveView.packetbuffer same
      rw [packets, length, List.take_left]
      exact inv.queue
    · have packets : (s.sock.addToReceiveQueue c e p.segment size).packetbuffer =
          s.sock.packetbuffer ++ [⟨block, size, p.segment⟩] := congrArg ReceiveView.packetbuffer arrived
      rw [packets, List.take_of_length_le (by simp [length])]
      exact List.rel_append inv.queue (.cons ⟨places, whole⟩ .nil)
  · rw [copied]
    change v.Receives c s.call s.listened s.copied (s.sock.addToReceiveQueue c e p.segment size).receiveView
    rcases view with same | ⟨block, arrived⟩
    · rw [same]
      exact inv.receives
    · rw [arrived]
      exact inv.receives.packets _

/-- What was returned is the beginning of what was written. -/
theorem Inv.returned (inv : Inv c v s) : s.machine.returned <+: v.bytes := by
  refine List.IsPrefix.trans ?_ inv.receives.written
  exact List.prefix_append _ _

end StreamReceiver

end IPStack
