import Mathlib.Data.Fintype.Card
import IPStack.Lib.Reach
import IPStack.Tcp.Stack

/-! The lists of the demultiplexer over all sequences of calls and packets. -/

open Linked Transition

namespace IPStack

namespace Demux

variable {n : Nat} {d : Demux n} {k : Fin n} {bound listening : List (Fin n)}

/-- The pointers are two lists that end, in which no socket comes twice. -/
structure Represents (d : Demux n) (bound listening : List (Fin n)) : Prop where
  boundChain : Chain d.next d.tcpHeadSocket bound
  listenChain : Chain d.next d.tcpHeadListenSocket listening
  boundOnce : bound.Nodup
  listeningOnce : listening.Nodup
  disjoint : bound.Disjoint listening

def Lists (d : Demux n) : Prop := ∃ bound listening, d.Represents bound listening

/-- The bound sockets, found along the pointers. -/
def boundSockets (d : Demux n) : List (Fin n) := nodes d.next n d.tcpHeadSocket

def listeningSockets (d : Demux n) : List (Fin n) := nodes d.next n d.tcpHeadListenSocket

theorem length_le {l : List (Fin n)} (once : l.Nodup) : l.length ≤ n := by
  simpa using once.length_le_card

theorem unbind_nil (empty : d.tcpHeadSocket = none) : d.unbind k = .nullHead := by
  rw [unbind, empty, remove_nil]

namespace Represents

variable (lists : d.Represents bound listening)
include lists

theorem boundSockets_eq : d.boundSockets = bound := lists.boundChain.nodes_eq (length_le lists.boundOnce)

theorem listeningSockets_eq : d.listeningSockets = listening := lists.listenChain.nodes_eq (length_le lists.listeningOnce)

theorem bound_nil : bound = [] ↔ d.tcpHeadSocket = none := by
  have chain := lists.boundChain
  generalize d.tcpHeadSocket = head at chain
  cases chain with
  | nil => exact ⟨fun _ => rfl, fun _ => rfl⟩
  | cons => exact ⟨nofun, nofun⟩

theorem insertBound_iff : (d.insertBound k).Lists ↔ k ∉ bound ∧ k ∉ listening := by
  rw [← lists.boundChain.push_iff lists.listenChain lists.disjoint]
  exact ⟨fun ⟨a, b, represents⟩ => ⟨a, b, represents.boundChain, represents.listenChain, represents.disjoint⟩,
    fun ⟨a, b, first, second, apart⟩ => ⟨a, b, first, second, first.nodup, second.nodup, apart⟩⟩

theorem listen_iff : (d.listen k).Lists ↔ k ∉ bound ∧ k ∉ listening := by
  rw [and_comm, ← lists.listenChain.push_iff lists.boundChain lists.disjoint.symm]
  exact ⟨fun ⟨a, b, represents⟩ => ⟨b, a, represents.listenChain, represents.boundChain, represents.disjoint.symm⟩,
    fun ⟨a, b, first, second, apart⟩ => ⟨b, a, second, first, second.nodup, first.nodup, apart.symm⟩⟩

/-- Unbinding a socket that is not bound changes nothing. -/
theorem unbind_absent (some : d.tcpHeadSocket ≠ none) (absent : k ∉ bound) :
    d.unbind k = .done d.tcpHeadSocket d.next :=
  lists.boundChain.remove_absent (length_le lists.boundOnce) (fun empty => some (lists.bound_nil.mp empty)) absent

theorem deaf_absent (some : d.tcpHeadListenSocket ≠ none) (absent : k ∉ listening) :
    d.deaf k = .done d.tcpHeadListenSocket d.next := by
  refine lists.listenChain.remove_absent (length_le lists.listeningOnce) (fun empty => ?_) absent
  have chain := lists.listenChain
  rw [empty] at chain
  generalize d.tcpHeadListenSocket = head at some chain
  cases chain
  exact some rfl

/-- A list with a bound socket: the socket is taken out. -/
theorem unbind_done (some : d.tcpHeadSocket ≠ none) : ∃ head next, d.unbind k = .done head next ∧
    Represents { d with tcpHeadSocket := head, next := next } (bound.erase k) listening := by
  by_cases member : k ∈ bound
  · obtain ⟨head, next, result, chain, same⟩ := lists.boundChain.remove_member (length_le lists.boundOnce) member
    refine ⟨head, next, result, chain, ?_, chain.nodup, lists.listeningOnce, ?_⟩
    · exact lists.listenChain.congr fun i listed => same i fun both => lists.disjoint both listed
    · exact fun i left listed => lists.disjoint (List.mem_of_mem_erase left) listed
  · refine ⟨_, _, lists.unbind_absent some member, ?_⟩
    rw [List.erase_of_not_mem member]
    exact lists

theorem deaf_done (member : k ∈ listening) : ∃ head next, d.deaf k = .done head next ∧
    Represents { d with tcpHeadListenSocket := head, next := next } bound (listening.erase k) := by
  obtain ⟨head, next, result, chain, same⟩ := lists.listenChain.remove_member (length_le lists.listeningOnce) member
  refine ⟨head, next, result, ?_, chain, lists.boundOnce, chain.nodup, ?_⟩
  · exact lists.boundChain.congr fun i listed => same i fun both => lists.disjoint listed both
  · exact fun i listed left => lists.disjoint listed (List.mem_of_mem_erase left)

/-- A socket that is bound is inserted into the list. -/
theorem bind_cases (ports : Fin n → BitVec 16 × BitVec 16) :
    (∃ d' sport, d.bind ports k = .bound d' sport ∧ (d'.Lists ↔ k ∉ bound ∧ k ∉ listening)) ∨
      d.bind ports k = .inUse ∨ d.bind ports k = .endless := by
  unfold bind
  split
  · cases d.tcpGetFreePort fun i => (ports i).1 with
    | none => exact .inr (.inr rfl)
    | some port =>
      have lists' : Represents { d with tcpLastDefaultPort := port } bound listening :=
        ⟨lists.boundChain, lists.listenChain, lists.boundOnce, lists.listeningOnce, lists.disjoint⟩
      exact .inl ⟨_, _, rfl, lists'.insertBound_iff⟩
  · cases d.tcpHeadSocket with
    | none => exact .inl ⟨_, _, rfl, lists.insertBound_iff⟩
    | some current =>
      dsimp only
      split
      · exact .inr (.inl rfl)
      · exact .inr (.inr rfl)

end Represents

/-- The socket is inserted into the list. -/
def BindResult.inserts : BindResult n → Bool
  | .bound _ _ => true
  | _ => false

def BindResult.returns : BindResult n → Bool
  | .endless => false
  | _ => true

end Demux

namespace Stack

variable {n : Nat} {c : Config} {s : Stack n} {k : Fin n} {bound listening : List (Fin n)}

/-- Both lists end, have every socket at most once and no socket in common, and no pointer of
the head of an empty list was read. -/
structure Intact (s : Stack n) : Prop where
  lists : s.demux.Lists
  noNull : s.crash ≠ some .nullHead

/-! ### Which calls keep the lists -/

/-- The socket is in neither list. -/
def unlisted (s : Stack n) (k : Fin n) : Prop := k ∉ s.demux.boundSockets ∧ k ∉ s.demux.listeningSockets

instance (s : Stack n) (k : Fin n) : Decidable (s.unlisted k) := inferInstanceAs (Decidable (_ ∧ _))

/-- `connect()` inserts a socket that is in neither list. -/
def safeConnect (s : Stack n) (k : Fin n) : Prop :=
  (s.machine k).call = none ∧ (s.srcAddr k ≠ 0 ∧ s.dstAddr k ≠ 0) ∧ (s.machine k).sock.state = .closed →
    (s.demux.bind (Function.update s.ports k (0, (s.machine k).sock.dport)) k).inserts → s.unlisted k

/-- `listen()` inserts a socket that is in neither list. -/
def safeListen (s : Stack n) (k : Fin n) : Prop :=
  (s.machine k).call = none ∧ (s.machine k).sock.state ≠ .established ∧ (s.machine k).sock.sport ≠ 0 → s.unlisted k

/-- A listening socket that takes a packet is deaf and not bound yet, and there is a bound
socket when its failed connection is unbound. -/
def safeListenRound (s : Stack n) (k : Fin n) : Prop :=
  let sock := (s.machine k).sock
  if sock.state = .listen then
    ∀ r ∈ sock.packetbuffer.head?,
      (s.demux.bind (Function.update s.ports k (sock.sport, r.segment.sport)) k).returns → s.unlisted k
  else
    ¬(sock.waiting ∨ sock.state = .established) →
      s.demux.tcpHeadSocket.isSome ∧ (sock.sport ≠ 0 → k ∉ s.demux.listeningSockets)

def safeCall (s : Stack n) (k : Fin n) : Event → Prop
  | .connect => s.safeConnect k
  | .listen => s.safeListen k
  | .tick =>
    match (s.machine k).call with
    | some .listen => s.safeListenRound k
    | some .close => (s.machine k).sock.waiting = false → s.demux.tcpHeadSocket.isSome
    | _ => True
  | _ => True

/-- Some steps are safe whatever the state is. Of the others, `lists_intact_iff` says that they
keep the lists if and only if they are safe. -/
def safe (s : Stack n) (event : StackEvent n) : Prop :=
  s.crash = none →
    match event with
    | .destruct k => s.constructed k ∧ (s.machine k).call = none → s.demux.tcpHeadSocket.isSome
    | .call k _ event => s.constructed k → s.safeCall k event
    | _ => True

instance (s : Stack n) (k : Fin n) : Decidable (s.safeConnect k) := inferInstanceAs (Decidable (_ → _ → _))

instance (s : Stack n) (k : Fin n) : Decidable (s.safeListen k) := inferInstanceAs (Decidable (_ → _))

instance (s : Stack n) (k : Fin n) : Decidable (s.safeListenRound k) := inferInstanceAs (Decidable (ite _ _ _))

instance (s : Stack n) (k : Fin n) : (event : Event) → Decidable (s.safeCall k event)
  | .connect => inferInstanceAs (Decidable (s.safeConnect k))
  | .listen => inferInstanceAs (Decidable (s.safeListen k))
  | .tick =>
    match call : (s.machine k).call with
    | some .listen => decidable_of_iff (s.safeListenRound k) (by simp only [safeCall, call])
    | some .close =>
      decidable_of_iff ((s.machine k).sock.waiting = false → s.demux.tcpHeadSocket.isSome) (by simp only [safeCall, call])
    | none | some .connect | some .write | some .receive | some (.poll _) =>
      decidable_of_iff True (by simp only [safeCall, call])
  | .write .. | .receive .. | .close | .poll | .setPorts .. | .setMaxReceiveWindow _ | .arrive .. =>
    inferInstanceAs (Decidable True)

instance (s : Stack n) : (event : StackEvent n) → Decidable (s.safe event)
  | .destruct k => inferInstanceAs (Decidable (_ → _ ∧ (s.machine k).call = none → _))
  | .call k _ event => inferInstanceAs (Decidable (_ → _ → s.safeCall k event))
  | .construct .. | .setAddresses .. | .packet .. => inferInstanceAs (Decidable (_ → True))

/-! ### Steps -/

theorem unlisted_iff (lists : s.demux.Represents bound listening) : s.unlisted k ↔ k ∉ bound ∧ k ∉ listening := by
  rw [unlisted, lists.boundSockets_eq, lists.listeningSockets_eq]

theorem intact_iff_lists {s' : Stack n} (running : s'.crash = none) : Intact s' ↔ s'.demux.Lists := by
  refine ⟨fun intact => intact.lists, fun lists => ⟨lists, ?_⟩⟩
  rw [running]
  exact nofun

theorem run_intact (running : s.crash = none) (lists : s.demux.Lists) (a : Env × Event) : Intact (s.run c k a) :=
  have running' : (s.run c k a).crash = none := running
  (intact_iff_lists running').mpr lists

/-- With an empty list the head is read, else the lists are those without the socket. -/
theorem afterUnbind_iff {P : Prop} {next : Demux n → Stack n} (lists : s.demux.Represents bound listening)
    (rest : ∀ d : Demux n, d.Represents (bound.erase k) listening → (Intact (next d) ↔ P)) :
    Intact (s.afterUnbind k next) ↔ s.demux.tcpHeadSocket.isSome ∧ P := by
  unfold afterUnbind
  by_cases empty : s.demux.tcpHeadSocket = none
  · rw [Demux.unbind_nil empty, empty]
    exact ⟨fun intact => absurd rfl intact.noNull, fun both => absurd both.1 Bool.false_ne_true⟩
  · obtain ⟨head, links, result, left⟩ := lists.unbind_done (k := k) empty
    rw [result]
    dsimp only
    rw [rest _ left]
    exact (and_iff_right (Option.isSome_iff_ne_none.mpr empty)).symm

theorem connect_iff (running : s.crash = none) (intact : Intact s) (e : Env) :
    Intact (s.connect c k e) ↔ s.safeConnect k := by
  obtain ⟨bound, listening, lists⟩ := intact.lists
  unfold connect safeConnect
  dsimp only
  simp only [decide_eq_true_eq]
  split_ifs with calls
  · rw [imp_iff_right calls]
    rcases lists.bind_cases (Function.update s.ports k (0, (s.machine k).sock.dport)) (k := k) with
      ⟨d, port, result, inserted⟩ | result | result
    · rw [result]
      dsimp only
      rw [unlisted_iff lists, ← inserted]
      exact Iff.trans (intact_iff_lists running) (imp_iff_right rfl).symm
    · rw [result]
      exact iff_of_true (run_intact running intact.lists _) fun inserts => absurd inserts Bool.false_ne_true
    · rw [result]
      exact iff_of_true ⟨intact.lists, nofun⟩ fun inserts => absurd inserts Bool.false_ne_true
  · exact iff_of_true (run_intact running intact.lists _) fun called => absurd called calls

theorem listen_iff (running : s.crash = none) (intact : Intact s) (e : Env) :
    Intact (s.listen c k e) ↔ s.safeListen k := by
  obtain ⟨bound, listening, lists⟩ := intact.lists
  unfold listen safeListen
  dsimp only
  split_ifs with calls
  · rw [imp_iff_right calls, unlisted_iff lists, ← lists.listen_iff]
    exact intact_iff_lists running
  · exact iff_of_true (run_intact running intact.lists _) fun called => absurd called calls

theorem acceptPacket_iff (running : s.crash = none) (intact : Intact s) (e : Env) (r : ReceiveBuffer) :
    Intact (s.acceptPacket c k e r) ↔
      ((s.demux.bind (Function.update s.ports k ((s.machine k).sock.sport, r.segment.sport)) k).returns → s.unlisted k) := by
  obtain ⟨bound, listening, lists⟩ := intact.lists
  unfold acceptPacket
  dsimp only
  rcases lists.bind_cases (Function.update s.ports k ((s.machine k).sock.sport, r.segment.sport)) (k := k) with
    ⟨d, port, result, inserted⟩ | result | result
  · rw [result]
    dsimp only
    rw [unlisted_iff lists, ← inserted]
    exact Iff.trans (intact_iff_lists running) (imp_iff_right rfl).symm
  · rw [result]
    dsimp only
    rw [unlisted_iff lists, ← lists.listen_iff]
    exact Iff.trans (intact_iff_lists running) (imp_iff_right rfl).symm
  · rw [result]
    exact iff_of_true ⟨intact.lists, nofun⟩ fun returns => absurd returns Bool.false_ne_true

theorem listenRound_iff (running : s.crash = none) (intact : Intact s) (e : Env) :
    Intact (s.listenRound c k e) ↔ s.safeListenRound k := by
  unfold listenRound safeListenRound
  dsimp only
  by_cases state : (s.machine k).sock.state = .listen
  · rw [if_pos state, if_pos state]
    cases (s.machine k).sock.packetbuffer with
    | nil => exact iff_of_true (run_intact running intact.lists _) nofun
    | cons r rest =>
      refine (acceptPacket_iff running intact e r).trans ⟨fun safe r' first => ?_, fun safe => safe r rfl⟩
      obtain rfl := Option.some.inj first
      exact safe
  rw [if_neg state, if_neg state]
  by_cases more : (s.machine k).sock.waiting ∨ (s.machine k).sock.state = .established
  · rw [if_pos more]
    exact iff_of_true (run_intact running intact.lists _) fun ended => absurd more ended
  rw [if_neg more, imp_iff_right more]
  obtain ⟨bound, listening, lists⟩ := intact.lists
  refine afterUnbind_iff lists fun d left => ?_
  refine Iff.trans (intact_iff_lists running) ?_
  dsimp only
  rw [lists.listeningSockets_eq]
  by_cases port : (s.machine k).sock.sport = 0
  · rw [if_pos port]
    exact iff_of_true ⟨_, _, left⟩ fun ported => absurd port ported
  · rw [if_neg port, left.listen_iff, imp_iff_right port]
    exact and_iff_right lists.boundOnce.not_mem_erase

theorem closeRound_iff (running : s.crash = none) (intact : Intact s) (e : Env) :
    Intact (s.closeRound c k e) ↔ ((s.machine k).sock.waiting = false → s.demux.tcpHeadSocket.isSome) := by
  unfold closeRound
  by_cases waiting : (s.machine k).sock.waiting = true
  · rw [if_pos waiting]
    exact iff_of_true (run_intact running intact.lists _) fun ended => by rw [waiting] at ended; cases ended
  · rw [if_neg waiting, imp_iff_right (Bool.eq_false_iff.mpr waiting)]
    obtain ⟨bound, listening, lists⟩ := intact.lists
    refine Iff.trans (afterUnbind_iff (P := True) lists fun d left => ?_) (and_iff_left trivial)
    exact iff_of_true ⟨⟨_, _, left⟩, by rw [run, running]; exact nofun⟩ trivial

theorem call_iff (running : s.crash = none) (intact : Intact s) (e : Env) (event : Event) :
    Intact (s.call c k e event) ↔ s.safeCall k event := by
  have runs (a : Env × Event) : Intact (s.run c k a) := run_intact running intact.lists a
  cases event with
  | arrive segment size => exact iff_of_true intact trivial
  | connect => exact connect_iff running intact e
  | listen => exact listen_iff running intact e
  | tick =>
    unfold call safeCall
    dsimp only
    cases (s.machine k).call with
    | none => exact iff_of_true (runs _) trivial
    | some inside =>
      cases inside with
      | listen => exact listenRound_iff running intact e
      | close => exact closeRound_iff running intact e
      | _ => exact iff_of_true (runs _) trivial
  | _ => exact iff_of_true (runs _) trivial

/-- A packet only makes the listening socket deaf that takes it. -/
theorem receiveTcp_intact (running : s.crash = none) (intact : Intact s) (e : Env) (interface : Interface) (packet : Bytes)
    (len : Nat) (routeAddr : BitVec 32) : Intact (s.receiveTcp c e interface packet len routeAddr) := by
  obtain ⟨bound, listening, lists⟩ := intact.lists
  unfold receiveTcp
  dsimp only
  split_ifs
  · exact intact
  · exact intact
  · generalize TcpSegment.read _ _ = segment, BitVec.ofNat 16 _ = size
    rw [lists.boundChain.search_eq (Demux.length_le lists.boundOnce)]
    cases bound.find? (s.isPeer packet segment) with
    | some k => exact run_intact running intact.lists _
    | none =>
      unfold receiveListening
      dsimp only
      split_ifs
      · exact intact
      · rw [lists.listenChain.search_eq (Demux.length_le lists.listeningOnce)]
        cases found : listening.find? fun k => decide ((s.machine k).sock.sport = segment.dport) with
        | none => exact intact
        | some k =>
          dsimp only
          split_ifs
          · obtain ⟨head, links, result, left⟩ := lists.deaf_done (List.mem_of_find?_eq_some found)
            rw [result]
            exact ⟨⟨_, _, left⟩, by rw [run, running]; exact nofun⟩
          · exact run_intact running intact.lists _

theorem step_iff (intact : Intact s) (event : StackEvent n) : Intact (s.step c event) ↔ s.safe event := by
  unfold step safe
  cases crash : s.crash with
  | some crash' => exact iff_of_true intact nofun
  | none =>
    rw [imp_iff_right rfl]
    rw [if_neg nofun]
    cases event with
    | construct k memory =>
      refine iff_of_true ?_ trivial
      dsimp only
      split_ifs
      · exact intact
      · exact ⟨intact.lists, nofun⟩
    | destruct k =>
      dsimp only
      split_ifs with idle
      · obtain ⟨bound, listening, lists⟩ := intact.lists
        refine Iff.trans (afterUnbind_iff (P := True) lists fun d left => ?_) ?_
        · exact iff_of_true ⟨⟨_, _, left⟩, nofun⟩ trivial
        · rw [and_iff_left trivial, imp_iff_right idle]
      · exact iff_of_true intact fun destroyed => absurd destroyed idle
    | setAddresses k src dst => exact iff_of_true ⟨intact.lists, nofun⟩ trivial
    | call k e event =>
      dsimp only
      split_ifs with constructed
      · rw [imp_iff_right constructed]
        exact call_iff crash intact e event
      · exact iff_of_true intact fun called => absurd called constructed
    | packet e interface packet len routeAddr held len_lt =>
      refine iff_of_true ?_ trivial
      dsimp only
      split_ifs
      · exact receiveTcp_intact crash intact e interface packet len routeAddr
      · exact intact

theorem start_intact (memory : Fin n → Machine) (next : Fin n → Option (Fin n)) : Intact (start memory next) :=
  ⟨⟨[], [], .nil, .nil, List.nodup_nil, List.nodup_nil, List.disjoint_nil_left _⟩, nofun⟩

/-- The lists are intact in all states of a run if and only if all its steps are safe. Then
taking out a socket that is not on a list changes nothing, unless the list is empty. -/
theorem lists_intact_iff (c : Config) (memory : Fin n → Machine) (next : Fin n → Option (Fin n))
    (events : List (StackEvent n)) :
    ((∀ l, l <+: events → Intact (l.foldl (step c) (start memory next))) ↔
      Follows (step c) safe (start memory next) events) ∧
    ∀ s, Reach (step c) safe (start memory next) s → ∀ k,
      (k ∉ s.demux.boundSockets → s.demux.tcpHeadSocket ≠ none →
        s.demux.unbind k = .done s.demux.tcpHeadSocket s.demux.next) ∧
      (k ∉ s.demux.listeningSockets → s.demux.tcpHeadListenSocket ≠ none →
        s.demux.deaf k = .done s.demux.tcpHeadListenSocket s.demux.next) := by
  have steps : ∀ (s : Stack n) (event : StackEvent n), Intact s → (Intact (s.step c event) ↔ s.safe event) :=
    fun _ event intact => step_iff intact event
  refine ⟨Follows.iff_forall_prefix steps (start_intact memory next) events, fun s reach k => ?_⟩
  have intact := reach.invariant Intact (start_intact memory next) fun s event intact safe => (steps s event intact).mpr safe
  obtain ⟨bound, listening, lists⟩ := intact.lists
  rw [lists.boundSockets_eq, lists.listeningSockets_eq]
  exact ⟨fun absent some => lists.unbind_absent some absent, fun absent some => lists.deaf_absent some absent⟩

/-! ### A small stack -/

def withoutMemory : Env := { Sample.env with alloc := fun _ => .noMemory }

/-- `connect()` returns false and leaves the socket bound. -/
def failedConnect : List (StackEvent 1) :=
  [.construct single Sample.memory, .setAddresses single 0x0100007F 0x0200007F, .call single withoutMemory .connect,
    .call single withoutMemory .tick]

/-- A second `connect()` closes a cycle, and the destructor of a socket that was never bound
reads the head of the empty list. -/
theorem reconnect_cycles : (sample (failedConnect ++ [.call 0 withoutMemory .connect])).demux.next 0 = some 0 ∧
    ¬Intact (sample (failedConnect ++ [.call 0 withoutMemory .connect])) ∧
    (sample [.construct 0 Sample.memory, .destruct 0]).crash = some .nullHead := by
  have loop : (sample (failedConnect ++ [.call 0 withoutMemory .connect])).demux.next 0 = some 0 := by decide +kernel
  have head : (sample (failedConnect ++ [.call 0 withoutMemory .connect])).demux.tcpHeadSocket = some 0 := by
    decide +kernel
  refine ⟨loop, fun intact => ?_, by decide +kernel⟩
  obtain ⟨bound, listening, lists⟩ := intact.lists
  have chain := lists.boundChain
  rw [head] at chain
  exact Chain.not_self loop chain

theorem lists_intact_failedConnect : ∀ l, l <+: failedConnect ++ [.destruct 0] → Intact (sample l) :=
  (lists_intact_iff Sample.config _ _ (failedConnect ++ [.destruct 0])).1.mpr (by decide +kernel)

end Stack

end IPStack
