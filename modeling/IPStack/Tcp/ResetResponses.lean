import IPStack.Ipv4.EchoReplies
import IPStack.Tcp.SegmentRounds
import IPStack.Tcp.Stack

/-! Resets end the connections whose segments they answer. -/

namespace IPStack

open Bytes

namespace TcpSegment

/-- What a reset for a segment with a payload of that length says to its sender. -/
structure IsResetFor (reset segment : TcpSegment) (payloadLen : BitVec 32) : Prop where
  sport : reset.sport = segment.dport
  dport : reset.dport = segment.sport
  rst : reset.rst = true
  syn : reset.syn = false
  fin : reset.fin = false
  ack : reset.ack = !segment.ack
  seqnum : reset.seqnum = if segment.ack then segment.acknum else 0
  acknum : segment.ack = false → reset.acknum = segment.seqnum + (payloadLen + if segment.syn ∨ segment.fin then 1 else 0)

variable {incoming reset : Bytes} {payloadLen : BitVec 32}

theorem netLong_networkLong {p : Bytes} {i : Nat} {value : BitVec 32}
    (high : p.netShort i = value.extractLsb' 16 16) (low : p.netShort (i + 2) = value.extractLsb' 0 16) : p.netLong i = value := by
  unfold netLong
  rw [high, low]
  exact BitVec.extractLsb'_append_extractLsb'_eq_extractLsb' (by omega) |>.trans BitVec.extractLsb'_eq_self

theorem netLong_networkLong_getD {p : Bytes} {i : Nat} {value : BitVec 32}
    (first : p.getD i 0 = .ofBitVec ((value.extractLsb' 16 16).extractLsb' 8 8))
    (second : p.getD (i + 1) 0 = .ofBitVec ((value.extractLsb' 16 16).extractLsb' 0 8))
    (third : p.getD (i + 2) 0 = .ofBitVec ((value.extractLsb' 0 16).extractLsb' 8 8))
    (fourth : p.getD (i + 3) 0 = .ofBitVec ((value.extractLsb' 0 16).extractLsb' 0 8)) : p.netLong i = value :=
  netLong_networkLong (netShort_networkBytes first second) (netShort_networkBytes third fourth)

/-- The bytes of a reset for a segment with the ACK flag. -/
theorem prepareResponse_of_ack (hasAck : incoming.byte 13 &&& 16 ≠ 0) :
    prepareResponse incoming payloadLen =
      networkBytes (incoming.netShort 2) ++ networkBytes (incoming.netShort 0) ++ (networkLong (incoming.netLong 8) ++ networkLong 0) ++
        [0x50, 4] ++ networkBytes 0 ++ [0, 0] ++ networkBytes 0 := by
  unfold prepareResponse
  dsimp only
  rw [if_pos hasAck, if_pos hasAck]

theorem prepareResponse_of_not_ack (noAck : ¬incoming.byte 13 &&& 16 ≠ 0) :
    prepareResponse incoming payloadLen =
      networkBytes (incoming.netShort 2) ++ networkBytes (incoming.netShort 0) ++ (networkLong 0 ++ networkLong (incoming.netLong 4 +
        (payloadLen + if incoming.byte 13 &&& 2 ≠ 0 ∨ incoming.byte 13 &&& 1 ≠ 0 then 1 else 0))) ++
        [0x50, 4 ||| 16] ++ networkBytes 0 ++ [0, 0] ++ networkBytes 0 := by
  have consumed : (if incoming.byte 13 &&& 2 ≠ 0 ∨ incoming.byte 13 &&& 1 ≠ 0 then payloadLen + 1 else payloadLen) =
      payloadLen + if incoming.byte 13 &&& 2 ≠ 0 ∨ incoming.byte 13 &&& 1 ≠ 0 then 1 else 0 := by
    split_ifs
    · rfl
    · exact (BitVec.add_zero payloadLen).symm
  unfold prepareResponse
  dsimp only
  rw [if_neg noAck, if_neg noAck, consumed]

theorem read_reset {response : Bytes} (same : ∀ i < 20, i ≠ 16 → i ≠ 17 → reset.byte i = response.byte i) (len : Nat) :
    (read reset len).sport = response.netShort 0 ∧ (read reset len).dport = response.netShort 2 ∧
      (read reset len).seqnum = response.netLong 4 ∧ (read reset len).acknum = response.netLong 8 ∧
      reset.byte 13 = response.byte 13 := by
  have short {i : Nat} (inside : i + 1 < 16) : reset.netShort i = response.netShort i := by
    unfold netShort
    rw [same i (by omega) (by omega) (by omega), same (i + 1) (by omega) (by omega) (by omega)]
  have long {i : Nat} (inside : i + 3 < 16) : reset.netLong i = response.netLong i := by
    unfold netLong
    rw [short (by omega), short (by omega)]
  exact ⟨short (by decide), short (by decide), long (by decide), long (by decide), same 13 (by decide) (by decide) (by decide)⟩

/-- The reset is read whatever its checksum and what lies behind it. -/
theorem read_prepareResponse (len len' : Nat)
    (same : ∀ i < 20, i ≠ 16 → i ≠ 17 → reset.byte i = (prepareResponse incoming payloadLen).byte i) :
    IsResetFor (read reset len) (read incoming len') payloadLen := by
  obtain ⟨sport, dport, seqnum, acknum, flags⟩ := read_reset same len
  by_cases hasAck : incoming.byte 13 &&& 16 ≠ 0
  · have ack : (read incoming len').ack = true := decide_eq_true hasAck
    rw [prepareResponse_of_ack hasAck] at sport dport seqnum acknum flags
    have bits : reset.byte 13 = 4 := flags.trans rfl
    refine ⟨sport.trans (netShort_networkBytes rfl rfl), dport.trans (netShort_networkBytes rfl rfl), ?_, ?_, ?_, ?_, ?_, ?_⟩
    · exact decide_eq_true (by rw [bits]; decide)
    · exact decide_eq_false (by rw [bits]; decide)
    · exact decide_eq_false (by rw [bits]; decide)
    · rw [ack]
      exact decide_eq_false (by rw [bits]; decide)
    · rw [ack, if_pos rfl]
      exact seqnum.trans (netLong_networkLong_getD rfl rfl rfl rfl)
    · intro noAck
      rw [ack] at noAck
      cases noAck
  · have ack : (read incoming len').ack = false := decide_eq_false hasAck
    rw [prepareResponse_of_not_ack hasAck] at sport dport seqnum acknum flags
    have bits : reset.byte 13 = 20 := flags.trans rfl
    refine ⟨sport.trans (netShort_networkBytes rfl rfl), dport.trans (netShort_networkBytes rfl rfl), ?_, ?_, ?_, ?_, ?_, ?_⟩
    · exact decide_eq_true (by rw [bits]; decide)
    · exact decide_eq_false (by rw [bits]; decide)
    · exact decide_eq_false (by rw [bits]; decide)
    · rw [ack]
      exact decide_eq_true (by rw [bits]; decide)
    · rw [ack, if_neg Bool.false_ne_true]
      exact seqnum.trans (netLong_networkLong_getD rfl rfl rfl rfl)
    · intro _
      rw [acknum, netLong_networkLong_getD rfl rfl rfl rfl]
      unfold read
      simp only [decide_eq_true_eq]

end TcpSegment

/-- A socket that has been aborted. -/
structure TcpSocket.Aborted (s : TcpSocket) : Prop where
  state : s.state = .closed
  waiting : s.waiting = false
  history : s.history = []
  aborted : s.trace.aborted = true

theorem TcpSocket.abort_aborted (s : TcpSocket) : s.abort.Aborted := ⟨rfl, rfl, rfl, rfl⟩

theorem TcpSocket.input_reset {s : TcpSocket} {r : ReceiveBuffer} (c : Config) (e : Env) (rst : r.segment.rst = true)
    (resets : s.resetBy r.segment) : (s.input c e (some r)).Aborted := by
  have handled : (s.handleRst r).Aborted := (s.freeReceivedSegment r).abort_aborted
  unfold resetBy at resets
  unfold input
  cases state : s.state with
  | closed =>
    rw [state] at resets
    exact resets.elim
  | listen =>
    simp only [listenState, listenSegment, rst, if_true]
    exact handled
  | synsent =>
    rw [state] at resets
    obtain ⟨ack, syn, -, acknum⟩ := resets
    have same : s.adoptMss c r.segment = s := by
      unfold adoptMss
      rw [syn, if_neg (by simp only [Bool.false_eq_true, false_and, and_false, not_false_eq_true])]
    simp only [synsent, synsentSegment, same, ack, syn, rst, if_true, Bool.false_eq_true, if_false]
    rw [if_pos (show r.segment.acknum = (s.freeReceivedSegment r).seqnumNext from acknum)]
    exact abort_aborted _
  | synrcvd =>
    simp only [synrcvd, synrcvdSegment, rst, if_true]
    exact handled
  | established =>
    simp only [established, establishedSegment, rst, if_true]
    exact handled
  | finwait1 =>
    simp only [finwait1, finwait1Segment, rst, if_true]
    exact handled
  | finwait2 =>
    simp only [finwait2, finwait2Segment, rst, if_true]
    exact handled
  | closewait =>
    simp only [closewait, closewaitSegment, rst, if_true]
    exact handled
  | closing =>
    simp only [closing, closingSegment, rst, if_true]
    exact handled
  | lastack =>
    simp only [lastack, lastackSegment, rst, if_true]
    exact handled
  | timewait =>
    simp only [timewait, timewaitSegment, rst, if_true]
    exact handled

/-- A reset without SYN aborts, or nothing happens in SYNSENT. -/
theorem TcpSocket.input_reset_iff {s : TcpSocket} {r : ReceiveBuffer} (c : Config) (e : Env) (used : s.state ≠ .closed)
    (rst : r.segment.rst = true) (noSyn : r.segment.syn = false) :
    (s.input c e (some r)).Aborted ↔ (s.state = .synsent → r.segment.ack = true ∧ r.segment.acknum = s.seqnumNext) := by
  by_cases opening : s.state = .synsent
  · have resets : s.resetBy r.segment ↔ r.segment.ack = true ∧ r.segment.acknum = s.seqnumNext := by
      unfold resetBy
      rw [opening]
      simp only [rst, noSyn, true_and]
    refine ⟨fun aborted _ => ?_, fun answers => input_reset c e rst (resets.mpr (answers opening))⟩
    by_contra other
    have same : s.adoptMss c r.segment = s := by
      unfold adoptMss
      rw [noSyn, if_neg (by simp only [Bool.false_eq_true, false_and, and_false, not_false_eq_true])]
    have stays : s.input c e (some r) = s.freeReceivedSegment r := by
      unfold input
      rw [opening]
      simp only [synsent, synsentSegment, same, noSyn, rst, if_true, Bool.false_eq_true, if_false]
      by_cases ack : r.segment.ack = true
      · have acknum : ¬r.segment.acknum = (s.freeReceivedSegment r).seqnumNext := fun next => other ⟨ack, next⟩
        rw [if_pos ack, if_neg acknum]
      · rw [if_neg ack]
    have state : s.state = .closed := by
      have closed := aborted.state
      rw [stays] at closed
      exact closed
    exact used state
  · refine iff_of_true (input_reset c e rst ?_) fun synsent => absurd synsent opening
    unfold resetBy
    cases state : s.state with
    | closed => exact absurd state used
    | synsent => exact absurd state opening
    | _ => exact rst

/-! ### At the sender of the segment -/

/-- The calls that handle one packet after the other. -/
def Machine.blocked (m : Machine) : Prop :=
  m.sock.waiting = true ∧ (m.call = some .connect ∨ m.call = some .write ∨ m.call = some .receive ∨ m.call = some .close)

theorem Machine.sock_tick {m : Machine} (blocked : m.blocked) {r : ReceiveBuffer} {rest : List ReceiveBuffer}
    (first : m.sock.packetbuffer = r :: rest) (c : Config) (e : Env) :
    (m.tick c e).sock = { m.sock with packetbuffer := rest }.input c e (some r) := by
  have next : nextPacket m.sock = ({ m.sock with packetbuffer := rest }, some r) := by
    unfold nextPacket
    rw [first]
  have input : m.inputOf e = some ({ m.sock with packetbuffer := rest }, some r) := by
    unfold inputOf
    rcases blocked.2 with call | call | call | call
    · rw [call]
      dsimp only
      rw [if_pos blocked.1, next]
    · rw [call]
      dsimp only
      rw [if_pos blocked.1, next]
    · rw [call]
      dsimp only
      rw [if_pos blocked.1, next]
    · rw [call]
      dsimp only
      rw [if_pos blocked.1, next]
  unfold tick
  rw [input]

namespace Stack

variable {n : Nat} {s : Stack n} {k : Fin n} {cfg : Config} {e : Env}

theorem machine_tick (live : s.crash = none) (constructed : s.constructed k = true) (blocked : (s.machine k).blocked) (e : Env) :
    (s.step cfg (.call k e .tick)).machine k = (s.machine k).tick cfg e := by
  have ran : (s.run cfg k (e, .tick)).machine k = (s.machine k).tick cfg e := Function.update_self ..
  unfold step
  rw [live, if_neg (by decide)]
  dsimp only
  rw [if_pos constructed]
  unfold Stack.call
  rcases blocked.2 with call | call | call | call
  · rw [call]
    exact ran
  · rw [call]
    exact ran
  · rw [call]
    exact ran
  · rw [call]
    dsimp only
    unfold closeRound
    rw [if_pos blocked.1]
    exact ran

/-- An arriving segment that finds no other one is handled in the next round. -/
theorem machine_arrive_tick (live : s.crash = none) (constructed : s.constructed k = true) (blocked : (s.machine k).blocked)
    (first : (s.machine k).sock.packetbuffer = []) (room : s.hasRoom cfg e k) (segment : TcpSegment) (size : BitVec 16) (later : Env) :
    ∃ s' : TcpSocket, ∃ r : ReceiveBuffer, r.segment = segment ∧ s'.state = (s.machine k).sock.state ∧
      s'.seqnumNext = (s.machine k).sock.seqnumNext ∧
      (((s.run cfg k (e, .arrive segment size)).step cfg (.call k later .tick)).machine k).sock = s'.input cfg later (some r) := by
  have arrived : (s.run cfg k (e, .arrive segment size)).machine k =
      { s.machine k with sock := (s.machine k).sock.addToReceiveQueue cfg e segment size } := Function.update_self ..
  have queued : (s.machine k).sock.addToReceiveQueue cfg e segment size =
      { (s.machine k).sock with
        mempool := { (s.machine k).sock.mempool with
          requests := (s.machine k).sock.mempool.requests + 1, nextBlock := (s.machine k).sock.mempool.nextBlock + 1 }
        packetbuffer := [⟨(s.machine k).sock.mempool.nextBlock, size, segment⟩] } := by
    unfold TcpSocket.addToReceiveQueue
    rw [if_neg (Nat.not_le.mpr room.1), room.2, first]
    rfl
  rw [queued] at arrived
  refine ⟨{ (s.machine k).sock with
    mempool := { (s.machine k).sock.mempool with
      requests := (s.machine k).sock.mempool.requests + 1, nextBlock := (s.machine k).sock.mempool.nextBlock + 1 }
    packetbuffer := [] }, ⟨(s.machine k).sock.mempool.nextBlock, size, segment⟩, rfl, rfl, rfl, ?_⟩
  have stays : ((s.run cfg k (e, .arrive segment size)).machine k).blocked := by
    rw [arrived]
    exact blocked
  rw [machine_tick (s := s.run cfg k (e, .arrive segment size)) live constructed stays, arrived]
  exact Machine.sock_tick (by exact blocked) rfl cfg later

/-- A segment with a valid checksum gets to the socket of its connection. -/
theorem step_packet {interface : Interface} {packet src dst content : _} {len : Nat} {routeAddr : BitVec 32}
    (carries : Ipv4Packet.Carries packet .tcp src dst content) (room : 20 ≤ content.length) (held : len ≤ packet.length)
    (len_lt : len < 2 ^ 16) (whole : len = 20 + content.length) (live : s.crash = none) (up : interface.ipv4Addr ≠ 0)
    (found : Linked.search s.demux.next (s.isPeer packet (TcpSegment.read (Ipv4Packet.getData packet) content.length)) n
      s.demux.tcpHeadSocket = some (some k)) :
    s.step cfg (.packet e interface packet len routeAddr held len_lt) =
      s.run cfg k (e, .arrive (TcpSegment.read (Ipv4Packet.getData packet) content.length) (.ofNat 16 content.length)) := by
  subst whole
  have ihl := carries.getIhl
  have usable : ¬(interface.ipv4Addr = 0 ∨ 20 + content.length < TcpSegment.minHeaderSize ∨ 20 + content.length < 5 * 4) := by
    unfold TcpSegment.minHeaderSize
    rintro (zero | short | short)
    · exact up zero
    · omega
    · omega
  have size : 20 + content.length - 5 * 4 = content.length := by omega
  have valid := carries.checksum interface
  change ipv4TcpChecksumValid packet (20 + content.length) interface = true at valid
  unfold ipv4TcpChecksumValid at valid
  rw [ihl, size] at valid
  have protocol : Ipv4Packet.getProtocol packet = TcpSegment.ipTypeTcp := carries.protocol
  unfold step
  rw [live, if_neg (by decide)]
  dsimp only
  rw [if_pos protocol]
  unfold receiveTcp
  dsimp only
  rw [ihl, if_neg usable, size, if_neg (by rw [valid]; decide), found]

end Stack

namespace Ipv4Host

variable {l : ManagementLayout} {n : Nat} {c : ResponseConfig} {h : Ipv4Host l n} {k : Fin n} {packet : Bytes} {len : Nat}
  {env : ResponseEnv} {m : Fin n × Bytes}

/-- The length of the data of a segment, from the lengths in its headers. -/
def payloadLen (packet : Bytes) : BitVec 32 :=
  .ofInt 32 (Ipv4Packet.getTotalLen packet -
    (Ipv4Packet.getIhl packet + (TcpSegment.getHeaderLen (Ipv4Packet.getData packet)).toNat) * 4 : Int)

theorem reset_sends (on : c.tcpReset = true) (tcp : Ipv4Packet.getProtocol packet = TcpSegment.ipTypeTcp)
    (member : m ∈ (h.ipv4Protocols c packet len k env).2) :
    EthFrame.Sends m.2 .tcp ((h.reset.setDstAddr h.router (Ipv4Packet.getSrcIpaddr packet)).getSrcAddr h.router)
      (Ipv4Packet.getSrcIpaddr packet) (TcpSegment.prepareResponse (Ipv4Packet.getData packet) (payloadLen packet)) := by
  unfold ipv4Protocols receiveTcp tcpReset at member
  rw [if_pos tcp] at member
  dsimp only at member
  split_ifs at member with _ _ _ without
  · cases member
  · cases member
  · cases member
  · exact absurd (on.symm.trans without) (by decide)
  · cases member
  · have room : Transport.headerSize .v4 .tcp ≤ (TcpSegment.prepareResponse (Ipv4Packet.getData packet) (payloadLen packet)).length := by
      rw [length_prepareResponse]
      exact Nat.le_refl 20
    obtain ⟨used, hw, -, -, sends⟩ := respond_sends (by decide) room (by decide) member
    rwa [Ipv4OnSocket.dstIpv4Addr_setDstAddr] at sends

/-- The connection of a socket whose segment is answered: the ports of the segment, to the address
that the answer comes from. -/
def connectionOf {n' : Nat} (s : Stack n') (segment : TcpSegment) (host sender : BitVec 32) (j : Fin n') : Bool :=
  (s.machine j).sock.sport = segment.sport ∧ (s.machine j).sock.dport = segment.dport ∧ s.dstAddr j = host ∧ s.srcAddr j = sender

/-- The reset that answers a segment ends the connection of the socket that the segment came from, in
any of its states but SYNSENT. There it does if and only if it acknowledges the SYN: the segment had
no ACK, and the socket has not sent anything behind it. -/
theorem reset_closes (on : c.tcpReset = true) (tcp : Ipv4Packet.getProtocol packet = TcpSegment.ipTypeTcp)
    (member : m ∈ (h.ipv4Protocols c packet len k env).2) {n' : Nat} {s : Stack n'} {j : Fin n'} {cfg : Config} {e later : Env}
    {interface : Interface} {rest : Bytes} {routeAddr : BitVec 32}
    (held : 40 ≤ (EthFrame.getData (m.2 ++ rest)).length) (live : s.crash = none) (up : interface.ipv4Addr ≠ 0)
    (constructed : s.constructed j = true) (blocked : (s.machine j).blocked) (first : (s.machine j).sock.packetbuffer = [])
    (room : s.hasRoom cfg e j) (used : (s.machine j).sock.state ≠ .closed)
    (found : Linked.search s.demux.next
      (connectionOf s (TcpSegment.read (Ipv4Packet.getData packet) len)
        ((h.reset.setDstAddr h.router (Ipv4Packet.getSrcIpaddr packet)).getSrcAddr h.router) (Ipv4Packet.getSrcIpaddr packet)) n'
      s.demux.tcpHeadSocket = some (some j)) :
    let segment := TcpSegment.read (Ipv4Packet.getData packet) len
    let arrived := s.step cfg (.packet e interface (EthFrame.getData (m.2 ++ rest)) 40 routeAddr held (by decide))
    ((arrived.step cfg (.call j later .tick)).machine j).sock.Aborted ↔ ((s.machine j).sock.state = .synsent →
      segment.ack = false ∧
        segment.seqnum + (payloadLen packet + if segment.syn ∨ segment.fin then 1 else 0) = (s.machine j).sock.seqnumNext) := by
  intro segment arrived
  have sends := reset_sends on tcp member
  have carries := sends.packet rest
  have length := length_prepareResponse (Ipv4Packet.getData packet) (payloadLen packet)
  have reset := TcpSegment.read_prepareResponse 20 len fun i inside first second =>
    carries.byte_getData (by omega) ⟨first, second⟩
  have peer : s.isPeer (EthFrame.getData (m.2 ++ rest)) (TcpSegment.read (Ipv4Packet.getData (EthFrame.getData (m.2 ++ rest))) 20) =
      connectionOf s segment ((h.reset.setDstAddr h.router (Ipv4Packet.getSrcIpaddr packet)).getSrcAddr h.router)
        (Ipv4Packet.getSrcIpaddr packet) := by
    funext i
    unfold Stack.isPeer connectionOf
    rw [reset.sport, reset.dport, carries.srcIpaddr, carries.dstIpaddr]
  rw [← peer, ← length] at found
  have stepped : arrived = s.run cfg j (e, .arrive
      (TcpSegment.read (Ipv4Packet.getData (EthFrame.getData (m.2 ++ rest)))
        (TcpSegment.prepareResponse (Ipv4Packet.getData packet) (payloadLen packet)).length)
      (.ofNat 16 (TcpSegment.prepareResponse (Ipv4Packet.getData packet) (payloadLen packet)).length)) :=
    Stack.step_packet carries (by omega) held (by decide) (by rw [length]) live up found
  rw [length] at stepped
  obtain ⟨s', r, same, state, next, handled⟩ := Stack.machine_arrive_tick live constructed blocked first room
    (TcpSegment.read (Ipv4Packet.getData (EthFrame.getData (m.2 ++ rest))) 20) (.ofNat 16 20) later
  have rst : r.segment.rst = true := by rw [same, reset.rst]
  have noSyn : r.segment.syn = false := by rw [same, reset.syn]
  rw [stepped, handled, TcpSocket.input_reset_iff cfg later (state ▸ used) rst noSyn, state, next, same,
    reset.ack, Bool.not_eq_true']
  exact imp_congr_right fun _ => and_congr_right fun noAck => by rw [reset.acknum noAck]

open Ipv4Network in
/-- The SYN of a socket at 10.0.0.1 to port 80 of 10.0.0.2. -/
def synPacket : Bytes :=
  Ipv4Packet.ofContent ((sampleHost 1).icmp.setDstAddr (sampleRouter 1) 0x0200000A) (sampleRouter 1) .tcp
    [4, 0, 0, 80, 0, 0, 0, 0, 0, 0, 0, 0, 0x50, 2, 2, 0x18, 0, 0, 0, 0]

/-- The socket. -/
def connecting : Stack 1 :=
  .sample [.construct Stack.single Sample.memory, .setAddresses Stack.single 0x0100000A 0x0200000A,
    .call Stack.single Sample.env (.setPorts 0 80), .call Stack.single Sample.env .connect]

open Ipv4Network in
/-- The answer. -/
def refusal : Bytes :=
  (sampleHost 2).frame ((sampleHost 2).reset.setDstAddr (sampleRouter 2) 0x0100000A) (Fin.last 0)
    ((sampleRouter 1).interfaces (Fin.last 0)).hwAddr .tcp (TcpSegment.prepareResponse (Ipv4Packet.getData synPacket) 0)

open Ipv4Network in
theorem reset_closes_refused : (((connecting.step Sample.config (.packet Sample.env ((sampleRouter 1).interfaces (Fin.last 0)).toInterface
    (EthFrame.getData (refusal ++ [])) 40 0 (by decide +kernel) (by decide))).step Sample.config
      (.call Stack.single Sample.env .tick)).machine Stack.single).sock.Aborted := by
  have member : (Fin.last 0, refusal) ∈ ((sampleHost 2).ipv4Protocols sampleConfig synPacket 40 (Fin.last 0) sampleEnv).2 := by
    decide +kernel
  have blocked : (connecting.machine Stack.single).blocked := ⟨by decide +kernel, .inl (by decide +kernel)⟩
  refine (reset_closes rfl (by decide +kernel) member (by decide +kernel) (by decide +kernel) (by decide +kernel)
    (by decide +kernel) blocked (by decide +kernel) (by decide +kernel) (by decide +kernel) (by decide +kernel)).mpr ?_
  decide +kernel

end Ipv4Host

end IPStack
