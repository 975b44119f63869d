import IPStack.Tcp.Ownership
import IPStack.Tcp.Stack

/-! The lengths of received segments, from the bytes of a packet to the receive buffer. -/

namespace IPStack

open TcpSocket Transition

variable {c : Config} {d : Round} {e : Env} {s s' : TcpSocket} {r : ReceiveBuffer}

/-- The header of the segment lies in the bytes that were copied, the payload length does not
wrap around, and the payload are the bytes behind the header. -/
structure ReceiveBuffer.Fits (r : ReceiveBuffer) : Prop where
  header : 20 ≤ 4 * r.segment.headerLen.toNat
  inside : 4 * r.segment.headerLen.toNat ≤ r.size.toNat
  payload : r.payloadLen.toNat = r.size.toNat - 4 * r.segment.headerLen.toNat
  data : r.segment.data.length = r.size.toNat - 4 * r.segment.headerLen.toNat

/-- The bytes of the element are bytes of the segment. -/
def TcpRecvElement.Inside (element : TcpRecvElement) : Prop := element.len.toNat ≤ element.data.length

instance (element : TcpRecvElement) : Decidable element.Inside := inferInstanceAs (Decidable (_ ≤ _))

structure SegmentsFit (s : TcpSocket) : Prop where
  queued : ∀ r ∈ s.packetbuffer, r.Fits
  stored : ∀ element ∈ s.receiveBuffer.list, element.Inside

/-- With the header in the copied bytes the subtraction does not wrap around. -/
theorem ReceiveBuffer.payloadLen_toNat (words : r.segment.headerLen.toNat < 2 ^ 8)
    (inside : 4 * r.segment.headerLen.toNat ≤ r.size.toNat) :
    r.payloadLen.toNat = r.size.toNat - 4 * r.segment.headerLen.toNat := by
  have header : (r.segment.headerLen.setWidth 32 * 4).toNat = 4 * r.segment.headerLen.toNat := by
    rw [BitVec.toNat_mul, BitVec.toNat_setWidth]
    change r.segment.headerLen.toNat % 2 ^ 32 * 4 % 2 ^ 32 = _
    omega
  have size : (r.size.setWidth 32).toNat = r.size.toNat := by
    have bound := r.size.isLt
    rw [BitVec.toNat_setWidth]
    omega
  unfold payloadLen
  rw [BitVec.toNat_sub_of_le (BitVec.le_def.mpr (by omega)), header, size]

/-! ### The receive buffer -/

theorem TcpRecvElement.Inside.increment {element : TcpRecvElement} (inside : element.Inside) {inc : BitVec 32}
    (least : inc ≤ element.len) : (element.increment inc).Inside := by
  have bound := BitVec.le_def.mp least
  unfold Inside TcpRecvElement.increment at *
  rw [List.length_drop, BitVec.toNat_sub_of_le least]
  omega

namespace TcpReceiveBuffer

variable {b b' : TcpReceiveBuffer}

/-- An element is what an increment by nothing leaves of it. -/
theorem increment_zero (old : TcpRecvElement) : ∃ inc ≤ old.len, old = old.increment inc :=
  ⟨0, BitVec.le_def.mpr (Nat.zero_le _), by simp [TcpRecvElement.increment]⟩

theorem consume_left (len : BitVec 32) (l : List TcpRecvElement) :
    ∀ element ∈ (consume len l).left, ∃ old ∈ l, ∃ inc ≤ old.len, element = old.increment inc := by
  induction l generalizing len with
  | nil => exact fun _ member => absurd member List.not_mem_nil
  | cons head rest ih =>
    unfold consume
    split_ifs with none whole
    · exact fun element member => ⟨element, member, increment_zero element⟩
    · intro element member
      obtain ⟨old, among, left⟩ := ih _ element member
      exact ⟨old, List.mem_cons_of_mem _ among, left⟩
    · intro element member
      rcases List.mem_cons.mp member with rfl | behind
      · exact ⟨head, List.mem_cons_self, len, BitVec.le_of_lt (BitVec.not_le.mp whole), rfl⟩
      · exact ⟨element, List.mem_cons_of_mem _ behind, increment_zero element⟩

/-- What a `copyData` of contiguous bytes leaves are elements or their last bytes. -/
theorem copyData_left {len : BitVec 32} (held : len ≤ b.getRecvBytes c) :
    ∀ element ∈ (b.copyData c len).2.2.list, ∃ old ∈ b.list, ∃ inc ≤ old.len, element = old.increment inc := by
  unfold copyData
  split_ifs with sliding
  · intro element member
    rcases List.mem_append.mp member with front | back
    · obtain ⟨old, among, left⟩ := consume_left _ _ element front
      exact ⟨old, List.mem_append_left _ among, left⟩
    · obtain ⟨old, among, left⟩ := consume_left _ _ element back
      exact ⟨old, List.mem_append_right _ among, left⟩
  · unfold getRecvBytes at held
    rw [if_neg sliding] at held
    unfold copyDataSingle
    cases elements : b.list with
    | nil => exact fun element member => ⟨element, elements ▸ member, increment_zero element⟩
    | cons head rest =>
      rw [elements] at held
      dsimp only
      split_ifs with whole
      · exact fun element member => ⟨element, List.mem_cons_of_mem _ member, increment_zero element⟩
      · intro element member
        rcases List.mem_cons.mp member with rfl | behind
        · exact ⟨head, List.mem_cons_self, len, held, rfl⟩
        · exact ⟨element, List.mem_cons_of_mem _ behind, increment_zero element⟩

end TcpReceiveBuffer

/-! ### Steps -/

theorem resendFirst_received (s : TcpSocket) :
    s.resendFirst.packetbuffer = s.packetbuffer ∧ s.resendFirst.receiveBuffer = s.receiveBuffer := by
  rw [resendFirst_eq]
  exact ⟨rfl, rfl⟩

/-- The segments a round works on fit. -/
structure Round.Fits (c : Config) (d : Round) : Prop where
  input : ∀ r, d.input = some r → r.Fits
  arrival : ∀ segment size, d.arrival = some (segment, size) → d.start.canQueue c d.env →
    ∀ block, ReceiveBuffer.Fits ⟨block, size, segment⟩

namespace SegmentsFit

/-- The received segments are the same. -/
theorem same (fit : SegmentsFit s) (packets : s'.packetbuffer = s.packetbuffer)
    (buffer : s'.receiveBuffer.list = s.receiveBuffer.list) : SegmentsFit s' where
  queued r member := fit.queued r (packets ▸ member)
  stored element member := fit.stored element (buffer ▸ member)

theorem emptied (fit : SegmentsFit s) (packets : s'.packetbuffer = [])
    (buffer : s'.receiveBuffer.list = s.receiveBuffer.list) : SegmentsFit s' where
  queued _ member := absurd (packets ▸ member) List.not_mem_nil
  stored element member := fit.stored element (buffer ▸ member)

theorem abort (fit : SegmentsFit s) : SegmentsFit s.abort := fit.emptied rfl rfl

theorem update (fit : SegmentsFit s) {doRetransmit : Bool} (updated : HistoryUpdated c e doRetransmit s s') :
    SegmentsFit s' := by
  refine fit.same ?_ ?_ <;> rw [updated.frame]

theorem dequeued {rest : List ReceiveBuffer} (fit : SegmentsFit s) (queued : s.packetbuffer = r :: rest) :
    SegmentsFit { s with packetbuffer := rest } where
  queued r member := fit.queued r (queued ▸ List.mem_cons_of_mem _ member)
  stored := fit.stored

/-- A new element is the payload of its segment. -/
theorem inserted {b : TcpReceiveBuffer} (fit : SegmentsFit s) (fits : r.Fits)
    (inserted : s.receiveBuffer.insert c r r.segment.seqnum r.payloadLen = some b) :
    SegmentsFit { s with receiveBuffer := b, ackTriggered := true } where
  queued := fit.queued
  stored element member := by
    obtain ⟨slot, elements⟩ := TcpReceiveBuffer.insert_list inserted
    rcases List.mem_cons.mp (elements.mem_iff.mp member) with rfl | before
    · exact (fits.payload.trans fits.data.symm).le
    · exact fit.stored element before

theorem queue {segment : TcpSegment} {size : BitVec 16} (fit : SegmentsFit s)
    (fits : s.canQueue c e → ∀ block, ReceiveBuffer.Fits ⟨block, size, segment⟩) :
    SegmentsFit (s.addToReceiveQueue c e segment size) := by
  unfold addToReceiveQueue
  split_ifs with full
  · exact fit
  · dsimp only
    split
    · rename_i granted
      refine ⟨fun r member => ?_, fit.stored⟩
      rcases List.mem_append.mp member with before | last
      · exact fit.queued r before
      · obtain rfl := List.mem_singleton.mp last
        exact fits ⟨by omega, granted⟩ _
    · exact fit.same rfl rfl

theorem read (fit : SegmentsFit s) {len : BitVec 32} (held : len ≤ s.receiveBuffer.getRecvBytes c) :
    SegmentsFit (s.copyToApplication c len) where
  queued := fit.queued
  stored element member := by
    obtain ⟨old, among, inc, least, rfl⟩ := TcpReceiveBuffer.copyData_left held element member
    exact (fit.stored old among).increment least

theorem readRest (fit : SegmentsFit s) : SegmentsFit (s.closewaitReceive c) := by
  unfold closewaitReceive
  dsimp only
  split_ifs with less
  · have all : SegmentsFit { s with applicationBuflen := s.receiveBuffer.getRecvBytes c } := fit.same rfl rfl
    exact (all.read (c := c) (BitVec.le_refl _)).same rfl rfl
  · exact (fit.read (BitVec.not_lt.mp less)).same rfl rfl

theorem acked (fit : SegmentsFit s) (e : Env) (acknum : SeqNum) : SegmentsFit (s.handleAck c e acknum) := by
  rw [handleAck_eq]
  exact fit.same rfl rfl

theorem refused (fit : SegmentsFit s) (e : Env) : SegmentsFit (s.requestSendBuffer e).2 := by
  have only := requestSendBuffer_historyOnly e s
  rw [only]
  exact fit.same rfl rfl

theorem action (round : d.Fits c) {x y : Bool × TcpSocket} (action : Action c d x y) (fit : SegmentsFit x.2) :
    SegmentsFit y.2 := by
  cases action with
  | dequeue input queued => exact fit.dequeued queued
  | abort reason => exact fit.abort
  | update runs interface alive => exact fit.update (updateHistoryBody_updated interface _ _)
  | kill runs interface aborts same overdue => exact (fit.update (updateHistoryBody_updated interface _ _)).abort
  | @send h s len isOpen waiting sending left amount room granted =>
    obtain ⟨record, block, history, packets, buffer, pool⟩ := sendSegmentIn_sent c d.env s.allocated s.mempool.nextBlock len
    exact fit.same packets (by rw [buffer]; rfl)
  | @resend h s state =>
    obtain ⟨packets, buffer⟩ := resendFirst_received s
    exact fit.same packets (by rw [buffer])
  | setMss state =>
    dsimp only
    rw [setMss_eq]
    exact fit.same rfl rfl
  | refuseSynAck state input other => exact fit.acked d.env _
  | @synAck h s r state input syn acked => exact (fit.acked (c := c) d.env r.segment.acknum).same rfl rfl
  | @simultaneous h s r state input syn noAck start requests =>
    rcases synsentSimultaneous_cases c d.env s r.segment with ⟨-, eq⟩ | ⟨refused, eq⟩ <;> dsimp only <;> rw [eq]
    · exact fit.same rfl rfl
    · have crossed : SegmentsFit (s.crossed r.segment) := fit.same rfl rfl
      exact crossed.refused d.env
  | @synrcvdAck h s r state input =>
    dsimp only
    unfold TcpSocket.synrcvdAck
    dsimp only
    split_ifs
    · exact (fit.acked (c := c) d.env r.segment.acknum).same rfl rfl
    · exact fit.acked d.env _
  | fin input state plain =>
    dsimp only
    rw [handleFin_eq]
    exact fit.same rfl rfl
  | insert input state plain payload inserted => exact fit.inserted (round.input _ input) inserted
  | window input isOpen plain same =>
    dsimp only
    unfold updateSendWindow
    split_ifs
    · exact fit.same rfl rfl
    · exact fit
  | arrive start arrival => exact fit.queue fun queues => round.arrival _ _ arrival (start ▸ queues)
  | @listen h s closed =>
    unfold listenBase genInitialSeqnum
    dsimp only
    split_ifs <;> exact fit.same rfl rfl
  | @initConnect h s closed =>
    unfold genInitialSeqnum
    dsimp only
    split_ifs <;> exact fit.same rfl rfl
  | read state receiving held fits => exact (fit.read held).same rfl rfl
  | readRest state receiving => exact fit.readRest
  | refuse refused => exact fit.refused d.env
  | _ => exact fit.same rfl rfl

end SegmentsFit

namespace Machine

variable {m : Machine}

/-- The segment a round processes was in the packet buffer. -/
theorem round_input (c : Config) (e : Env) (m : Machine) (event : Event) (taken : (m.round c e event).input = some r) :
    r ∈ m.sock.packetbuffer := by
  unfold round at taken
  split at taken
  · split at taken
    · rename_i calls
      obtain ⟨rest, dport, queued, rfl⟩ := inputOf_some calls
      obtain rfl := Option.some.inj taken
      exact queued ▸ List.mem_cons_self
    · cases taken
    · dsimp only at taken
      split_ifs at taken
      exact List.mem_of_head? taken
  all_goals cases taken

theorem round_arrival (c : Config) (e : Env) (m : Machine) (event : Event) {segment : TcpSegment} {size : BitVec 16}
    (arrival : (m.round c e event).arrival = some (segment, size)) :
    event = .arrive segment size ∧ (m.round c e event).start = m.sock := by
  unfold round at arrival ⊢
  cases event with
  | arrive segment' size' =>
    obtain ⟨rfl, rfl⟩ := Prod.mk.inj (Option.some.inj arrival)
    exact ⟨rfl, rfl⟩
  | tick =>
    dsimp only at arrival
    split at arrival <;> cases arrival
  | _ => cases arrival

/-- A step keeps the fit if the segment it queues fits. -/
theorem step_segmentsFit (fit : SegmentsFit m.sock) (event : Event)
    (arrives : ∀ segment size, event = .arrive segment size → m.sock.canQueue c e →
      ∀ block, ReceiveBuffer.Fits ⟨block, size, segment⟩) : SegmentsFit (m.step c (e, event)).sock := by
  have round : (m.round c e event).Fits c := by
    refine ⟨fun r taken => fit.queued r (round_input c e m event taken), fun segment size arrival queues => ?_⟩
    obtain ⟨arrive, start⟩ := round_arrival c e m event arrival
    rw [start, round_env] at queues
    exact arrives segment size arrive queues
  refine step_keeps (P := fun x => SegmentsFit x.2) (fun _ => fit) ?_ (fun x y action => SegmentsFit.action round action)
  intro r rest dport tick queued input start
  rw [start, ackedBy_eq]
  exact (fit.dequeued queued).same rfl rfl

theorem construct_segmentsFit (c : Config) (memory : TcpSocket) : SegmentsFit (construct c memory).sock := by
  have start : (construct c memory).sock = memory.construct c := rfl
  rw [start, construct_eq]
  exact ⟨fun _ member => absurd member List.not_mem_nil, fun _ member => absurd member List.not_mem_nil⟩

/-- A segment that finds room is in the packet buffer then. -/
theorem mem_arrive {segment : TcpSegment} {size : BitVec 16} (room : m.sock.canQueue c e) :
    ⟨m.sock.mempool.nextBlock, size, segment⟩ ∈ (m.step c (e, .arrive segment size)).sock.packetbuffer := by
  change _ ∈ (m.sock.addToReceiveQueue c e segment size).packetbuffer
  unfold addToReceiveQueue
  rw [if_neg (Nat.not_le.mpr room.1)]
  dsimp only
  have granted : e.alloc m.sock.mempool.requests = .ok := room.2
  rw [granted]
  exact List.mem_append_right _ List.mem_cons_self

end Machine

/-! ### The demultiplexer -/

namespace Stack

variable {n : Nat} {k : Fin n}

/-- The data offset of the segment in an IPv4 packet, in bytes, and the bytes of the segment. -/
def dataOffset (packet : Bytes) : Nat := 4 * (TcpSegment.getHeaderLen (Ipv4Packet.getData packet)).toNat

def segmentLen (packet : Bytes) (len : Nat) : Nat := len - Ipv4Packet.getIhl packet * 4

/-- `read` is given as many bytes as the packet has behind its header. -/
theorem length_read {packet : Bytes} {len : Nat} (held : len ≤ packet.length) :
    (TcpSegment.read (Ipv4Packet.getData packet) (segmentLen packet len)).data.length =
      segmentLen packet len - dataOffset packet := by
  unfold TcpSegment.read dataOffset segmentLen
  dsimp only
  rw [List.length_drop, List.length_take, Ipv4Packet.getData, List.length_drop]
  omega

/-- The segment of a packet fits exactly if its data offset does. -/
theorem fits_iff {packet : Bytes} {len : Nat} (held : len ≤ packet.length) (len_lt : len < 2 ^ 16) (block : Nat) :
    ReceiveBuffer.Fits ⟨block, BitVec.ofNat 16 (segmentLen packet len),
      TcpSegment.read (Ipv4Packet.getData packet) (segmentLen packet len)⟩ ↔
        20 ≤ dataOffset packet ∧ dataOffset packet ≤ segmentLen packet len := by
  have size : (BitVec.ofNat 16 (segmentLen packet len)).toNat = segmentLen packet len := by
    rw [BitVec.toNat_ofNat, Nat.mod_eq_of_lt]
    unfold segmentLen
    omega
  have offset : 4 * (TcpSegment.read (Ipv4Packet.getData packet) (segmentLen packet len)).headerLen.toNat =
      dataOffset packet := rfl
  constructor
  · rintro ⟨header, inside, -, -⟩
    dsimp only at header inside
    rw [offset] at header inside
    rw [size] at inside
    exact ⟨header, inside⟩
  · rintro ⟨header, inside⟩
    refine ⟨header, inside.trans size.symm.le, ?_, ?_⟩
    · exact ReceiveBuffer.payloadLen_toNat (BitVec.isLt _) (inside.trans size.symm.le)
    · dsimp only
      rw [size, offset]
      exact length_read held

/-- The socket that a packet is handed to. -/
def recipient (s : Stack n) (interface : Interface) (packet : Bytes) (len : Nat) : Option (Fin n) :=
  let bytes := Ipv4Packet.getData packet
  let csum := Ipv4Packet.computePseudoHeader packet (BitVec.ofNat 16 (segmentLen packet len)) TcpSegment.ipTypeTcp
  let segment := TcpSegment.read bytes (segmentLen packet len)
  if interface.ipv4Addr = 0 ∨ len < TcpSegment.minHeaderSize ∨ len < Ipv4Packet.getIhl packet * 4 ∨
      TcpSegment.checksumValid bytes csum (segmentLen packet len) interface = false then none
  else
    match Linked.search s.demux.next (s.isPeer packet segment) n s.demux.tcpHeadSocket with
    | none => none
    | some (some k) => some k
    | some none =>
      if segment.syn = false then none
      else
        (Linked.search s.demux.next (fun k => (s.machine k).sock.sport = segment.dport) n s.demux.tcpHeadListenSocket).join

/-- Only the recipient's machine takes a step. -/
theorem receiveTcp_machine (c : Config) (s : Stack n) (e : Env) (interface : Interface) (packet : Bytes) (len : Nat)
    (routeAddr : BitVec 32) :
    (s.receiveTcp c e interface packet len routeAddr).constructed = s.constructed ∧
      (s.receiveTcp c e interface packet len routeAddr).machine =
        match s.recipient interface packet len with
        | none => s.machine
        | some k =>
          Function.update s.machine k ((s.machine k).step c (e,
            .arrive (TcpSegment.read (Ipv4Packet.getData packet) (segmentLen packet len))
              (BitVec.ofNat 16 (segmentLen packet len)))) := by
  unfold receiveTcp recipient segmentLen
  dsimp only
  by_cases dropped : interface.ipv4Addr = 0 ∨ len < TcpSegment.minHeaderSize ∨ len < Ipv4Packet.getIhl packet * 4
  · rw [if_pos dropped, if_pos (by tauto)]
    exact ⟨rfl, rfl⟩
  rw [if_neg dropped]
  generalize TcpSegment.checksumValid _ _ _ _ = valid
  cases valid with
  | false =>
    rw [if_pos rfl, if_pos (by tauto)]
    exact ⟨rfl, rfl⟩
  | true =>
    rw [if_neg nofun, if_neg (by tauto)]
    generalize TcpSegment.read _ _ = segment, BitVec.ofNat 16 _ = size
    cases Linked.search s.demux.next (s.isPeer packet segment) n s.demux.tcpHeadSocket with
    | none => exact ⟨rfl, rfl⟩
    | some found =>
      cases found with
      | some k => exact ⟨rfl, rfl⟩
      | none =>
        unfold receiveListening
        dsimp only
        by_cases noSyn : segment.syn = false
        · rw [if_pos noSyn, if_pos noSyn]
          exact ⟨rfl, rfl⟩
        rw [if_neg noSyn, if_neg noSyn]
        cases Linked.search s.demux.next _ n s.demux.tcpHeadListenSocket with
        | none => exact ⟨rfl, rfl⟩
        | some listener =>
          cases listener with
          | none => exact ⟨rfl, rfl⟩
          | some k =>
            dsimp only
            split
            · split <;> exact ⟨rfl, rfl⟩
            · exact ⟨rfl, rfl⟩

/-- Every socket that exists has only segments that fit. -/
def Sized (s : Stack n) : Prop := ∀ k, s.constructed k → SegmentsFit (s.machine k).sock

/-- If a packet is handed to a socket that exists and has room for it, then the data offset is
at least the size of a header and the header lies in the bytes of the segment. -/
def offsetFits (c : Config) (s : Stack n) (event : StackEvent n) : Prop :=
  s.crash = none →
    match event with
    | .packet e interface packet len _ _ _ =>
      ∀ k ∈ s.recipient interface packet len, Ipv4Packet.getProtocol packet = TcpSegment.ipTypeTcp → s.constructed k →
        s.hasRoom c e k → 20 ≤ dataOffset packet ∧ dataOffset packet ≤ segmentLen packet len
    | _ => True

instance (c : Config) (s : Stack n) : (event : StackEvent n) → Decidable (s.offsetFits c event)
  | .packet .. => inferInstanceAs (Decidable (_ → ∀ k ∈ s.recipient _ _ _, _ → s.constructed k → s.hasRoom c _ k → _ ∧ _))
  | .construct .. | .destruct _ | .setAddresses .. | .call .. => inferInstanceAs (Decidable (_ → True))

def isArrival : Event → Bool
  | .arrive _ _ => true
  | _ => false

/-- The machines take steps that queue no segment, or none. -/
structure Stepped (c : Config) (s s' : Stack n) : Prop where
  constructed : s'.constructed = s.constructed
  machine : ∀ k, s'.machine k = s.machine k ∨
    ∃ e event, isArrival event = false ∧ s'.machine k = (s.machine k).step c (e, event)

variable {c : Config} {s s' : Stack n}

theorem Stepped.sized (stepped : Stepped c s s') (sized : Sized s) : Sized s' := by
  intro k constructed
  have fit := sized k (stepped.constructed ▸ constructed)
  rcases stepped.machine k with same | ⟨e, event, noArrival, step⟩
  · rw [same]
    exact fit
  · rw [step]
    exact Machine.step_segmentsFit fit event fun segment size arrive => by
      rw [arrive] at noArrival
      cases noArrival

theorem stepped_run (k : Fin n) (e : Env) {event : Event} (noArrival : isArrival event = false) :
    Stepped c s (s.run c k (e, event)) := by
  refine ⟨rfl, fun i => ?_⟩
  by_cases same : i = k
  · subst same
    exact .inr ⟨e, event, noArrival, Function.update_self ..⟩
  · exact .inl (Function.update_of_ne same ..)

/-- The same machines with other lists. -/
theorem Stepped.demux (stepped : Stepped c s s') (d : Demux n) : Stepped c s { s' with demux := d } :=
  ⟨stepped.constructed, stepped.machine⟩

theorem Stepped.crash (stepped : Stepped c s s') (crash : Option Crash) : Stepped c s { s' with crash := crash } :=
  ⟨stepped.constructed, stepped.machine⟩

theorem Stepped.refl : Stepped c s s := ⟨rfl, fun _ => .inl rfl⟩

theorem stepped_afterUnbind {k : Fin n} {next : Demux n → Stack n} (stepped : ∀ d, Stepped c s (next d)) :
    Stepped c s (s.afterUnbind k next) := by
  unfold afterUnbind
  split
  · exact stepped _
  · exact Stepped.refl.crash _
  · exact Stepped.refl.crash _

theorem stepped_connect (k : Fin n) (e : Env) : Stepped c s (s.connect c k e) := by
  unfold connect
  dsimp only
  split
  · split
    · exact (stepped_run k _ rfl).demux _
    · exact stepped_run k _ rfl
    · exact Stepped.refl.crash _
  · exact stepped_run k _ rfl

theorem stepped_listen (k : Fin n) (e : Env) : Stepped c s (s.listen c k e) := by
  unfold listen
  dsimp only
  split
  · exact (stepped_run k _ rfl).demux _
  · exact stepped_run k _ rfl

theorem stepped_listenRound (k : Fin n) (e : Env) : Stepped c s (s.listenRound c k e) := by
  unfold listenRound
  dsimp only
  split
  · split
    · exact stepped_run k _ rfl
    · unfold acceptPacket
      dsimp only
      split
      · exact (stepped_run k _ rfl).demux _
      · exact (stepped_run k _ rfl).demux _
      · exact Stepped.refl.crash _
  · split
    · exact stepped_run k _ rfl
    · exact stepped_afterUnbind fun d => (stepped_run k _ rfl).demux _

theorem stepped_call (k : Fin n) (e : Env) (event : Event) : Stepped c s (s.call c k e event) := by
  cases event with
  | arrive segment size => exact .refl
  | connect => exact stepped_connect k e
  | listen => exact stepped_listen k e
  | tick =>
    unfold call
    dsimp only
    split
    · exact stepped_listenRound k e
    · unfold closeRound
      split
      · exact stepped_run k _ rfl
      · exact stepped_afterUnbind fun d => (stepped_run k _ rfl).demux _
    · exact stepped_run k _ rfl
  | _ => exact stepped_run k e rfl

/-- A packet keeps the segments fitting if and only if its own segment fits where it is queued. -/
theorem receiveTcp_sized_iff (sized : Sized s) (e : Env) (interface : Interface) {packet : Bytes} {len : Nat}
    (routeAddr : BitVec 32) (held : len ≤ packet.length) (len_lt : len < 2 ^ 16) :
    Sized (s.receiveTcp c e interface packet len routeAddr) ↔
      ∀ k ∈ s.recipient interface packet len, s.constructed k → s.hasRoom c e k →
        20 ≤ dataOffset packet ∧ dataOffset packet ≤ segmentLen packet len := by
  obtain ⟨constructed, machine⟩ := receiveTcp_machine c s e interface packet len routeAddr
  unfold Sized
  rw [constructed, machine]
  cases s.recipient interface packet len with
  | none => exact iff_of_true sized nofun
  | some k =>
    dsimp only
    constructor
    · intro after k' found exists' room
      obtain rfl := Option.some.inj found
      have fit := after k exists'
      rw [Function.update_self] at fit
      refine (fits_iff held len_lt (s.machine k).sock.mempool.nextBlock).mp (fit.queued _ ?_)
      exact Machine.mem_arrive room
    · intro fits i exists'
      by_cases same : i = k
      · subst same
        rw [Function.update_self]
        refine Machine.step_segmentsFit (sized i exists') _ fun segment size arrive queues block => ?_
        obtain ⟨rfl, rfl⟩ := Event.arrive.inj arrive
        exact (fits_iff held len_lt block).mpr (fits i rfl exists' queues)
      · rw [Function.update_of_ne same]
        exact sized i exists'

theorem step_sized_iff (sized : Sized s) (event : StackEvent n) : Sized (s.step c event) ↔ s.offsetFits c event := by
  unfold step offsetFits
  cases crash : s.crash with
  | some crash' => exact iff_of_true sized nofun
  | none =>
    rw [imp_iff_right rfl, if_neg nofun]
    cases event with
    | construct k memory =>
      refine iff_of_true ?_ trivial
      dsimp only
      split_ifs
      · exact sized
      · intro i constructed
        dsimp only at constructed ⊢
        by_cases same : i = k
        · subst same
          rw [Function.update_self]
          exact Machine.construct_segmentsFit c memory
        · rw [Function.update_of_ne same] at constructed ⊢
          exact sized i constructed
    | destruct k =>
      refine iff_of_true ?_ trivial
      dsimp only
      split_ifs
      · unfold afterUnbind
        split
        · intro i constructed
          by_cases same : i = k
          · subst same
            dsimp only at constructed
            rw [Function.update_self] at constructed
            cases constructed
          · dsimp only at constructed
            rw [Function.update_of_ne same] at constructed
            exact sized i constructed
        · exact sized
        · exact sized
      · exact sized
    | setAddresses k src dst => exact iff_of_true sized trivial
    | call k e event =>
      refine iff_of_true ?_ trivial
      dsimp only
      split_ifs
      · exact (stepped_call k e event).sized sized
      · exact sized
    | packet e interface packet len routeAddr held len_lt =>
      dsimp only
      split_ifs with tcp
      · rw [receiveTcp_sized_iff sized e interface routeAddr held len_lt]
        exact forall₂_congr fun k found => (imp_iff_right tcp).symm
      · exact iff_of_true sized fun k found other => absurd other tcp

/-- All segments and all elements of the receive buffers fit in all states of a run if and
only if the data offset of every packet fits that a socket takes. -/
theorem segmentLengths_iff (c : Config) (memory : Fin n → Machine) (next : Fin n → Option (Fin n))
    (events : List (StackEvent n)) :
    (∀ l, l <+: events → Sized (l.foldl (step c) (start memory next))) ↔
      Follows (step c) (fun s event => s.offsetFits c event) (start memory next) events := by
  have steps : ∀ (s : Stack n) (event : StackEvent n), Sized s → (Sized (s.step c event) ↔ s.offsetFits c event) :=
    fun _ event sized => step_sized_iff sized event
  exact Follows.iff_forall_prefix steps (fun k constructed => by cases constructed) events

/-! ### Packets of a small stack -/

/-- The IPv4 header of a packet from 10.0.0.2 to 10.0.0.1. -/
def ipv4Header (totalLen : UInt8) : Bytes := [0x45, 0, 0, totalLen, 0, 0, 0, 0, 64, 6, 0, 0, 10, 0, 0, 2, 10, 0, 0, 1]

def synAckPacket : Bytes := ipv4Header 40 ++ [0, 80, 4, 0, 0, 0, 3, 0xE8, 0, 0, 0, 1, 0x50, 0x12, 4, 0, 0x8F, 0x97, 0, 0]

/-- The data offset is 60, and there are 20 bytes. -/
def longHeaderPacket : Bytes := ipv4Header 40 ++ [0, 80, 4, 0, 0, 0, 3, 0xE9, 0, 0, 0, 1, 0xF0, 0x10, 4, 0, 0xEF, 0x97, 0, 0]

def oneBytePacket : Bytes := ipv4Header 41 ++ [0, 80, 4, 0, 0, 0, 3, 0xE9, 0, 0, 0, 1, 0x50, 0x10, 4, 0, 0x88, 0x97, 0, 0, 7]

def sampleInterface : Interface := ⟨true, 0x0100000A, false, false⟩

/-- A packet arrives and is processed. -/
def receives (packet : Bytes) (held : packet.length < 2 ^ 16) : List (StackEvent 1) :=
  [.packet Sample.env sampleInterface packet packet.length 0 (Nat.le_refl _) held, .call single Sample.env .poll,
    .call single Sample.env .tick]

/-- The active open of a connection. -/
def connection : List (StackEvent 1) :=
  [.construct single Sample.memory, .setAddresses single 0x0100000A 0x0200000A, .call single Sample.env (.setPorts 0 80),
    .call single Sample.env .connect, .packet Sample.env sampleInterface synAckPacket 40 0 (by decide) (by decide),
    .call single Sample.env .tick, .call single Sample.env .tick]

/-- The payload length of a segment without room for its header wraps around, and almost
2^32 bytes behind the packet become data of the connection. -/
theorem longHeader_wraps :
    ((sample (connection ++ receives longHeaderPacket (by decide))).machine 0).sock.receiveBuffer.list.map
      (fun element => (element.len, element.data)) = [(0xFFFFFFD8#32, [])] ∧
    ¬Sized (sample (connection ++ receives longHeaderPacket (by decide))) := by
  have stored : (sample (connection ++ receives longHeaderPacket (by decide))).constructed 0 = true ∧
      ∃ element ∈ ((sample (connection ++ receives longHeaderPacket (by decide))).machine 0).sock.receiveBuffer.list,
        ¬element.Inside := by
    decide +kernel
  obtain ⟨constructed, element, member, outside⟩ := stored
  exact ⟨by decide +kernel, fun sized => outside ((sized 0 constructed).stored element member)⟩

theorem segmentLengths_oneByte : ∀ l, l <+: connection ++ receives oneBytePacket (by decide) → Sized (sample l) :=
  (segmentLengths_iff Sample.config _ _ (connection ++ receives oneBytePacket (by decide))).mpr (by decide +kernel)

end Stack

end IPStack
