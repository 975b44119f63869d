import IPStack.Lib.Linked
import IPStack.Tcp.Calls

/-! The lists of the bound and of the listening sockets. Both go through the same pointer
of a socket. -/

namespace IPStack

structure Demux (n : Nat) where
  tcpHeadSocket : Option (Fin n)
  tcpHeadListenSocket : Option (Fin n)
  next : Fin n → Option (Fin n)
  tcpLastDefaultPort : BitVec 16

namespace Demux

variable {n : Nat}

inductive BindResult (n : Nat) where
  | bound (d : Demux n) (sport : BitVec 16)
  | inUse
  | endless

def nextDefaultPort (port : BitVec 16) : BitVec 16 := if port + 1 < 1024#16 then 1024 else port + 1

/-- The search of `tcp_get_free_port`, which starts again at the head with every port. -/
def freePortFrom (sport : Fin n → BitVec 16) (d : Demux n) : Nat → BitVec 16 → Option (BitVec 16)
  | 0, _ => none
  | rounds + 1, port =>
    match Linked.search d.next (fun k => sport k = port) n d.tcpHeadSocket with
    | none => none
    | some none => some port
    | some (some _) => freePortFrom sport d rounds (nextDefaultPort port)

/-- After as many rounds as there are ports the search has no end. -/
def tcpGetFreePort (sport : Fin n → BitVec 16) (d : Demux n) : Option (BitVec 16) :=
  freePortFrom sport d (2 ^ 16) (nextDefaultPort d.tcpLastDefaultPort)

def insertBound (d : Demux n) (k : Fin n) : Demux n :=
  { d with next := Function.update d.next k d.tcpHeadSocket, tcpHeadSocket := some k }

def bind (ports : Fin n → BitVec 16 × BitVec 16) (d : Demux n) (k : Fin n) : BindResult n :=
  if (ports k).1 = 0 then
    match d.tcpGetFreePort (fun i => (ports i).1) with
    | none => .endless
    | some port => .bound ({ d with tcpLastDefaultPort := port }.insertBound k) port
  else
    -- `current = current->getNext()` stands behind the loop: the loop stays at the head, and
    -- with an empty list it reads from the null pointer what nobody uses
    match d.tcpHeadSocket with
    | none => .bound (d.insertBound k) (ports k).1
    | some current => if ports current = ports k then .inUse else .endless

def unbind (d : Demux n) (k : Fin n) : Linked.Removal (Fin n) := Linked.remove d.next d.tcpHeadSocket k n

/-- `listen` of a socket with a port. -/
def listen (d : Demux n) (k : Fin n) : Demux n :=
  { d with next := Function.update d.next k d.tcpHeadListenSocket, tcpHeadListenSocket := some k }

def deaf (d : Demux n) (k : Fin n) : Linked.Removal (Fin n) := Linked.remove d.next d.tcpHeadListenSocket k n

end Demux

end IPStack
