import IPStack.Ipv4.Packet
import IPStack.Tcp.Demux

/-! Any number of sockets with the demultiplexer that their calls and the arriving packets
work on. -/

namespace IPStack

/-- How the stack ends: it has read the pointer of the head of an empty list, or a loop along
a list does not end. -/
inductive Crash where
  | nullHead
  | endless
deriving DecidableEq, Repr

/-- `srcAddr` and `dstAddr` are what `ipv4.get_src_addr()` and `ipv4.get_dst_addr()` return. -/
structure Stack (n : Nat) where
  machine : Fin n → Machine
  constructed : Fin n → Bool
  srcAddr : Fin n → BitVec 32
  dstAddr : Fin n → BitVec 32
  demux : Demux n
  crash : Option Crash

/-- `packet` is what `ipv4_demux` gets. `routeAddr` is the address of the interface that the
router finds for the sender. -/
inductive StackEvent (n : Nat) where
  | construct (k : Fin n) (memory : TcpSocket)
  | destruct (k : Fin n)
  | setAddresses (k : Fin n) (src dst : BitVec 32)
  | call (k : Fin n) (e : Env) (event : Event)
  | packet (e : Env) (interface : Interface) (packet : Bytes) (len : Nat) (routeAddr : BitVec 32)
      (held : len ≤ packet.length) (len_lt : len < 2 ^ 16)

namespace Stack

variable {n : Nat}

def ports (s : Stack n) (k : Fin n) : BitVec 16 × BitVec 16 := ((s.machine k).sock.sport, (s.machine k).sock.dport)

def run (c : Config) (s : Stack n) (k : Fin n) (a : Env × Event) : Stack n :=
  { s with machine := Function.update s.machine k ((s.machine k).step c a) }

/-- The stack behind a removal from the list of bound sockets. -/
def afterUnbind (s : Stack n) (k : Fin n) (next : Demux n → Stack n) : Stack n :=
  match s.demux.unbind k with
  | .done head links => next { s.demux with tcpHeadSocket := head, next := links }
  | .nullHead => { s with crash := some .nullHead }
  | .endless => { s with crash := some .endless }

/-- `connect()` up to its `recv_loop`. -/
def connect (c : Config) (s : Stack n) (k : Fin n) (e : Env) : Stack n :=
  let m := s.machine k
  let e := { e with validAddresses := s.srcAddr k ≠ 0 ∧ s.dstAddr k ≠ 0 }
  if m.call = none ∧ e.validAddresses ∧ m.sock.state = .closed then
    match s.demux.bind (Function.update s.ports k (0, m.sock.dport)) k with
    | .bound d port => { s.run c k ({ e with freePort := port }, .connect) with demux := d }
    | .inUse => s.run c k (e, .setPorts 0 m.sock.dport)
    | .endless => { s with crash := some .endless }
  else s.run c k (e, .connect)

/-- `listen()` up to its loop for the SYN. -/
def listen (c : Config) (s : Stack n) (k : Fin n) (e : Env) : Stack n :=
  let m := s.machine k
  if m.call = none ∧ m.sock.state ≠ .established ∧ m.sock.sport ≠ 0 then
    { s.run c k (e, .listen) with demux := s.demux.listen k }
  else s.run c k (e, .listen)

/-- A packet that a listening socket takes is answered only if the socket can be bound. -/
def acceptPacket (c : Config) (s : Stack n) (k : Fin n) (e : Env) (r : ReceiveBuffer) : Stack n :=
  let m := s.machine k
  match s.demux.bind (Function.update s.ports k (m.sock.sport, r.segment.sport)) k with
  | .bound d _ => { s.run c k ({ e with bindResult := true }, .tick) with demux := d }
  | .inUse => { s.run c k ({ e with bindResult := false }, .tick) with demux := s.demux.listen k }
  | .endless => { s with crash := some .endless }

/-- The loops of `listen()`: for the SYN, `recv_loop`, and around both until a connection is
established. -/
def listenRound (c : Config) (s : Stack n) (k : Fin n) (e : Env) : Stack n :=
  let m := s.machine k
  if m.sock.state = .listen then
    match m.sock.packetbuffer with
    | [] => s.run c k (e, .tick)
    | r :: _ => s.acceptPacket c k e r
  else if m.sock.waiting ∨ m.sock.state = .established then s.run c k (e, .tick)
  else
    s.afterUnbind k fun d =>
      { s.run c k (e, .tick) with demux := if m.sock.sport = 0 then d else d.listen k }

/-- `close()` unbinds the socket behind its `recv_loop`. -/
def closeRound (c : Config) (s : Stack n) (k : Fin n) (e : Env) : Stack n :=
  if (s.machine k).sock.waiting then s.run c k (e, .tick)
  else s.afterUnbind k fun d => { s.run c k (e, .tick) with demux := d }

/-- Segments arrive through the demultiplexer only. -/
def call (c : Config) (s : Stack n) (k : Fin n) (e : Env) : Event → Stack n
  | .arrive _ _ => s
  | .connect => s.connect c k e
  | .listen => s.listen c k e
  | .tick =>
    match (s.machine k).call with
    | some .listen => s.listenRound c k e
    | some .close => s.closeRound c k e
    | _ => s.run c k (e, .tick)
  | event => s.run c k (e, event)

/-! ### Packets -/

/-- `packetBufferFull()` is false and `addToReceiveQueue` has the memory it needs. -/
def hasRoom (c : Config) (e : Env) (s : Stack n) (k : Fin n) : Prop :=
  (s.machine k).sock.packetbuffer.length + 1 < c.packetLimit ∧ e.alloc (s.machine k).sock.mempool.requests = .ok

instance (c : Config) (e : Env) (s : Stack n) (k : Fin n) : Decidable (s.hasRoom c e k) :=
  inferInstanceAs (Decidable (_ ∧ _))

/-- The socket of the connection a packet belongs to. -/
def isPeer (s : Stack n) (packet : Bytes) (segment : TcpSegment) (k : Fin n) : Bool :=
  (s.machine k).sock.sport = segment.dport ∧ (s.machine k).sock.dport = segment.sport ∧
    s.dstAddr k = Ipv4Packet.getSrcIpaddr packet ∧ s.srcAddr k = Ipv4Packet.getDstIpaddr packet

/-- `IPv4_TCP_Listen`: a listening socket takes the first SYN and gets no other one. -/
def receiveListening (c : Config) (s : Stack n) (e : Env) (packet : Bytes) (segment : TcpSegment) (size : BitVec 16)
    (routeAddr : BitVec 32) : Stack n :=
  if segment.syn = false then s
  else
    match Linked.search s.demux.next (fun k => (s.machine k).sock.sport = segment.dport) n s.demux.tcpHeadListenSocket with
    | none => { s with crash := some .endless }
    | some none => s
    | some (some k) =>
      let s' := s.run c k (e, .arrive segment size)
      if s.hasRoom c e k then
        match s.demux.deaf k with
        | .done head links =>
          { s' with
            demux := { s.demux with tcpHeadListenSocket := head, next := links }
            dstAddr := Function.update s.dstAddr k (Ipv4Packet.getSrcIpaddr packet)
            srcAddr := Function.update s.srcAddr k routeAddr }
        | .nullHead => { s' with crash := some .nullHead }
        | .endless => { s' with crash := some .endless }
      else s'

/-- `IPv4_TCP_Receive` behind the test of the protocol. -/
def receiveTcp (c : Config) (s : Stack n) (e : Env) (interface : Interface) (packet : Bytes) (len : Nat)
    (routeAddr : BitVec 32) : Stack n :=
  let header := Ipv4Packet.getIhl packet * 4
  if interface.ipv4Addr = 0 ∨ len < TcpSegment.minHeaderSize ∨ len < header then s
  else
    let size := len - header
    let bytes := Ipv4Packet.getData packet
    let csum := Ipv4Packet.computePseudoHeader packet (BitVec.ofNat 16 size) TcpSegment.ipTypeTcp
    if TcpSegment.checksumValid bytes csum size interface = false then s
    else
      let segment := TcpSegment.read bytes size
      match Linked.search s.demux.next (s.isPeer packet segment) n s.demux.tcpHeadSocket with
      | none => { s with crash := some .endless }
      | some (some k) => s.run c k (e, .arrive segment (BitVec.ofNat 16 size))
      | some none => s.receiveListening c e packet segment (BitVec.ofNat 16 size) routeAddr

/-- A destroyed socket is not used again before it is constructed, and a socket is not
destroyed during a call. -/
def step (c : Config) (s : Stack n) (event : StackEvent n) : Stack n :=
  if s.crash.isSome then s
  else
    match event with
    | .construct k memory =>
      if s.constructed k then s
      else
        { s with
          machine := Function.update s.machine k (Machine.construct c memory)
          constructed := Function.update s.constructed k true
          srcAddr := Function.update s.srcAddr k 0
          dstAddr := Function.update s.dstAddr k 0 }
    | .destruct k =>
      if s.constructed k ∧ (s.machine k).call = none then
        s.afterUnbind k fun d => { s with demux := d, constructed := Function.update s.constructed k false }
      else s
    | .setAddresses k src dst =>
      { s with srcAddr := Function.update s.srcAddr k src, dstAddr := Function.update s.dstAddr k dst }
    | .call k e event => if s.constructed k then s.call c k e event else s
    | .packet e interface packet len routeAddr _ _ =>
      if Ipv4Packet.getProtocol packet = TcpSegment.ipTypeTcp then s.receiveTcp c e interface packet len routeAddr else s

/-- No socket is constructed and both lists are empty. -/
def start (memory : Fin n → Machine) (next : Fin n → Option (Fin n)) : Stack n where
  machine := memory
  constructed := fun _ => false
  srcAddr := fun _ => 0
  dstAddr := fun _ => 0
  demux := { tcpHeadSocket := none, tcpHeadListenSocket := none, next := next, tcpLastDefaultPort := 0 }
  crash := none

/-! ### A small stack -/

/-- The one socket. -/
abbrev single : Fin 1 := ⟨0, Nat.one_pos⟩

/-- A run of one socket. -/
def sample (events : List (StackEvent 1)) : Stack 1 :=
  events.foldl (step Sample.config) (start (fun _ => ⟨Sample.memory, none, [], false⟩) fun _ => none)

end Stack

end IPStack
