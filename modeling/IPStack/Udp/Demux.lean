import IPStack.Tcp.DemuxBind

/-! The list of the bound UDP sockets and the search for a free port. -/

open Linked

namespace IPStack

/-- The UDP part of the demultiplexer with the ports and the pointers of the sockets. -/
structure UdpDemux (n : Nat) where
  udpHeadSocket : Option (Fin n)
  next : Fin n → Option (Fin n)
  sport : Fin n → BitVec 16
  udpLastDefaultPort : BitVec 16

namespace UdpDemux

variable {n : Nat} {d d' : UdpDemux n} {k : Fin n} {l : List (Fin n)}

/-- `udp_get_free_port`: the text of `tcp_get_free_port` with the head and the counter of UDP. -/
def udpGetFreePort (d : UdpDemux n) : Option (BitVec 16) :=
  Demux.tcpGetFreePort d.sport ⟨d.udpHeadSocket, none, d.next, d.udpLastDefaultPort⟩

def insertBound (d : UdpDemux n) (k : Fin n) : UdpDemux n :=
  { d with next := Function.update d.next k d.udpHeadSocket, udpHeadSocket := some k }

/-- The result of `bind` and the sockets behind it; none if it does not end. -/
def bind (d : UdpDemux n) (k : Fin n) : Option (Bool × UdpDemux n) :=
  if d.sport k = 0 then
    match d.udpGetFreePort with
    | none => none
    | some port =>
      some (true, { d with udpLastDefaultPort := port, sport := Function.update d.sport k port }.insertBound k)
  else
    match Linked.search d.next (fun i => d.sport i = d.sport k) n d.udpHeadSocket with
    | none => none
    | some none => some (true, d.insertBound k)
    | some (some _) => some (false, d)

/-- None if the list is empty, where the source reads through a null pointer, or has no end. -/
def unbind (d : UdpDemux n) (k : Fin n) : Option (UdpDemux n) :=
  match Linked.remove d.next d.udpHeadSocket k n with
  | .done head next => some { d with udpHeadSocket := head, next := next }
  | .nullHead => none
  | .endless => none

/-- The calls for the sockets. The port of a socket is set while it is not bound. -/
inductive Event (n : Nat)
  | bind (k : Fin n)
  | unbind (k : Fin n)
  | setSport (k : Fin n) (port : BitVec 16)

def step (d : UdpDemux n) : Event n → Option (UdpDemux n)
  | .bind k => (d.bind k).map Prod.snd
  | .unbind k => d.unbind k
  | .setSport k port =>
    if k ∈ Linked.nodes d.next n d.udpHeadSocket then some d else some { d with sport := Function.update d.sport k port }

/-- The bound sockets form a list without a cycle, and no two of them have the same port. -/
structure Separate (d : UdpDemux n) (l : List (Fin n)) : Prop where
  chain : Chain d.next d.udpHeadSocket l
  used : ∀ k ∈ l, d.sport k ≠ 0
  distinct : (l.map d.sport).Nodup

theorem Separate.insertBound (separate : d.Separate l) (set : d.sport k ≠ 0) (unused : d.sport k ∉ l.map d.sport) :
    (d.insertBound k).Separate (k :: l) where
  chain := separate.chain.push fun member => unused (List.mem_map_of_mem member)
  used i member := by
    rcases List.mem_cons.mp member with rfl | later
    · exact set
    · exact separate.used i later
  distinct := List.nodup_cons.mpr ⟨unused, separate.distinct⟩

/-- A socket outside the list may get another port. -/
theorem Separate.setSport (separate : d.Separate l) (absent : k ∉ l) (port : BitVec 16) :
    ({ d with sport := Function.update d.sport k port } : UdpDemux n).Separate l := by
  have same : ∀ i ∈ l, Function.update d.sport k port i = d.sport i :=
    fun i member => Function.update_of_ne (fun equal : i = k => absent (equal ▸ member)) _ _
  refine ⟨separate.chain, fun i member => ?_, ?_⟩
  · exact fun zero => separate.used i member ((same i member).symm.trans zero)
  · change (l.map (Function.update d.sport k port)).Nodup
    rw [List.map_congr_left same]
    exact separate.distinct

/-! ### The search for a port -/

end UdpDemux

end IPStack
