import IPStack.Ipv6.DestinationFilter

/-! What a route is: its source address, its interface, and where both come from. -/

namespace IPStack

open AddressMemory

namespace Router

variable {n : Nat} (r : Router n) (dst : Ipv6Addr)

def Up (k : Fin n) : Prop := (r.interfaces k).ipv6Up = true

/-- An address of the interface has a prefix that matches. -/
def MatchesOn (k : Fin n) : Prop := ∃ i entry, (r.memory k).addressAt i = some entry ∧ ipv6FindRouteIsMatching dst entry = true

/-- The neighbour cache of the interface has a router that routes. -/
def HasRouter (k : Fin n) : Prop := ∃ i entry, (r.memory k).neighbourAt i = some entry ∧ entry.isRouting = true

/-- The first interface that is up and has a router. -/
def FirstRouter (k : Fin n) : Prop := r.Up k ∧ r.HasRouter k ∧ ∀ j < k, r.Up j → ¬r.HasRouter j

end Router

/-- A route as it is documented. The source address is one of its interface; it may be absent for
a multicast destination. An interface with a matching prefix is used if there is one, and a
default router is one of the interface. -/
structure RouteResult.Sound {n : Nat} (r : Router n) (dst : Ipv6Addr) (route : RouteResult n) : Prop where
  source : ∀ k, route.interface = some k →
    (route.proposedSrcAddr = none ∧ getIPv6AddressScope dst = .multicast) ∨
      ∃ i entry, route.proposedSrcAddr = some (k, i) ∧ (r.memory k).addressAt i = some entry
  matching : (∃ k, r.Up k ∧ r.MatchesOn dst k) → ∃ k, route.interface = some k ∧ r.Up k ∧ r.MatchesOn dst k
  defaultRouter : route.isDefaultRouter = true → ∀ k, route.interface = some k → r.HasRouter k

namespace Router

variable {n : Nat} {r : Router n} {dst : Ipv6Addr} {k : Fin n} {backup : RouteResult n}

/-- The last address of an interface that may be a source for a default router. -/
def globalSource (r : Router n) (k : Fin n) : Option (Fin n × Nat) :=
  (findLastAddress (r.memory k) fun entry => getIPv6AddressScope entry.ipv6 = .globalUnicast).map fun i => (k, i)

/-- What the interfaces of a list leave of the address that was proposed. -/
def proposedFrom (r : Router n) (list : List (Fin n)) (proposed : Option (Fin n × Nat)) : Option (Fin n × Nat) :=
  list.foldl (fun proposed k => if (r.interfaces k).ipv6Up then (r.globalSource k).or proposed else proposed) proposed

/-! ### The loop over the interfaces -/

section Round

variable {rest : List (Fin n)}

variable (up : r.Up k) (none : ¬r.MatchesOn dst k)

include up none

end Round

/-- What the loop leaves without a matching prefix: no interface, or the first one with a router,
and the last global address of this and of the interfaces in front of it. -/
inductive DefaultRoute (r : Router n) (list : List (Fin n)) (proposed : Option (Fin n × Nat)) (route : RouteResult n) : Prop
  | unknown (interface : route.interface = none) (absent : ∀ k ∈ list, r.Up k → ¬r.HasRouter k)
  | first (before : List (Fin n)) (k : Fin n) (after : List (Fin n)) (split : list = before ++ k :: after)
      (interface : route.interface = some k) (up : r.Up k) (router : r.HasRouter k)
      (absent : ∀ j ∈ before, r.Up j → ¬r.HasRouter j)
      (source : route.proposedSrcAddr = (r.globalSource k).or (r.proposedFrom before proposed))

theorem DefaultRoute.cons {rest : List (Fin n)} {proposed : Option (Fin n × Nat)} {route : RouteResult n}
    (skipped : r.Up k → ¬r.HasRouter k)
    (later : r.DefaultRoute rest (r.proposedFrom [k] proposed) route) : r.DefaultRoute (k :: rest) proposed route := by
  cases later with
  | unknown interface absent =>
    refine .unknown interface fun j member => ?_
    rcases List.mem_cons.mp member with rfl | member
    · exact skipped
    · exact absent j member
  | first before j after split interface up router absent source =>
    refine .first (k :: before) j after (by rw [split, List.cons_append]) interface up router (fun i member => ?_) source
    rcases List.mem_cons.mp member with rfl | member
    · exact skipped
    · exact absent i member

theorem FirstRouter.unique {j : Fin n} (first : r.FirstRouter k) (other : r.FirstRouter j) : j = k := by
  rcases lt_trichotomy j k with less | same | greater
  · exact absurd other.2.1 (first.2.2 j less other.1)
  · exact same
  · exact absurd first.2.1 (other.2.2 k greater first.1)

namespace Sample

def destination : Ipv6Addr := #v[0x20, 1, 0x0D, 0xB8, 0, 0, 0, 0, 0, 0, 0, 0, 0, 0, 0, 1]

end Sample

/-- The advice for multicast destinations does not change other routes. -/
theorem ipv6FindRoute_multicast (unicast : getIPv6AddressScope dst ≠ .multicast) :
    r.ipv6FindRoute true dst = r.ipv6FindRoute false dst := by
  unfold ipv6FindRoute
  rw [if_neg (by simpa using unicast), if_neg (by simp)]

end Router

end IPStack
