import IPStack.Arp.Host
import IPStack.Lib.Network

/-! Hosts that run ARP on some links, on which frames can be lost, repeated and reordered. -/

namespace IPStack

/-- A frame with an ARP packet for IPv4. -/
def EthFrame.isArp (frame : Bytes) : Prop :=
  EthFrame.getType frame = ArpPacket.ethTypeArp ∧
    ArpPacket.getProtocolType (EthFrame.getData frame) = ArpPacket.arpProtocolTypeIpv4

instance (frame : Bytes) : Decidable (EthFrame.isArp frame) := inferInstanceAs (Decidable (_ ∧ _))

namespace ArpHost

variable {n : Nat} {Owned Static : BitVec 32 → HwAddr → Prop} {hwAddr : Fin n → HwAddr} {h : ArpHost n}

/-! ### One host -/

/-- An ARP packet names an owner of the address that it says is the sender's. -/
def Truthful (Owned : BitVec 32 → HwAddr → Prop) (frame : Bytes) : Prop :=
  EthFrame.isArp frame → Owned (ArpPacket.srcIpv4Addr (EthFrame.getData frame)) (ArpPacket.srcHwAddr (EthFrame.getData frame))

/-- All that a host knows about others is true, and so is all that it tells about itself. -/
structure Sound (Owned Static : BitVec 32 → HwAddr → Prop) (hwAddr : Fin n → HwAddr) (h : ArpHost n) : Prop where
  hwAddrs : ∀ k, (h.interfaces k).hwAddr = hwAddr k
  own : ∀ k, Owned (h.interfaces k).ipv4Addr (hwAddr k)
  unique : h.cache.Unique
  entries : ∀ i, (h.cache.entries i).ipv4Addr ≠ 0 → Owned (h.cache.entries i).ipv4Addr (h.cache.entries i).hwAddr
  static : ∀ i, (h.staticEntries i).ipv4Addr ≠ 0 → Static (h.staticEntries i).ipv4Addr (h.staticEntries i).hwAddr
  answers : ∀ a ∈ h.answers, a.addr ≠ 0 → ∀ hw ∈ a.hwAddr, Owned a.addr hw ∨ Static a.addr hw
  requests : ∀ task l, h.lookups task = some l → l.requests ≤ maxRequests

/-- The outcome of a step. -/
def Keeps (Owned Static : BitVec 32 → HwAddr → Prop) (hwAddr : Fin n → HwAddr) (r : ArpHost n × List (Fin n × Bytes)) : Prop :=
  r.1.Sound Owned Static hwAddr ∧ ∀ m ∈ r.2, Truthful Owned m.2

theorem Sound.keeps (sound : h.Sound Owned Static hwAddr) : Keeps Owned Static hwAddr (h, []) :=
  ⟨sound, fun _ member => absurd member List.not_mem_nil⟩

theorem Sound.sendPacket (sound : h.Sound Owned Static hwAddr) (k : Fin n) (opcode : BitVec 16) (dst : HwAddr)
    (dstAddr : BitVec 32) (hasBeenSent : Bool) :
    Keeps Owned Static hwAddr (h.sendPacket k opcode dst dstAddr hasBeenSent) := by
  unfold ArpHost.sendPacket
  split
  · refine ⟨⟨sound.hwAddrs, sound.own, sound.unique, sound.entries, sound.static, sound.answers, sound.requests⟩, ?_⟩
    intro m member carries
    obtain rfl := List.mem_singleton.mp member
    rw [EthArpIpv4Packet.srcIpv4Addr_frame, EthArpIpv4Packet.srcHwAddr_frame]
    have own := sound.own k
    rw [← sound.hwAddrs k] at own
    exact own
  · exact sound.keeps

theorem Sound.update (sound : h.Sound Owned Static hwAddr) {addr : BitVec 32} {hw : HwAddr} (owned : Owned addr hw) :
    ({ h with cache := h.cache.ipv4Update addr hw } : ArpHost n).Sound Owned Static hwAddr := by
  refine ⟨sound.hwAddrs, sound.own, sound.unique.update addr hw, fun i proper => ?_, sound.static, sound.answers,
    sound.requests⟩
  dsimp only [ARPCache.ipv4Update] at proper ⊢
  by_cases same : i = h.cache.selectedIndex addr
  · subst same
    rw [Function.update_self]
    exact owned
  · rw [Function.update_of_ne same] at proper ⊢
    exact sound.entries i proper

theorem Sound.arpDemux (sound : h.Sound Owned Static hwAddr) {packet : Bytes} (len : Nat) (k : Fin n) (hasBeenSent : Bool)
    (owned : ArpPacket.getProtocolType packet = ArpPacket.arpProtocolTypeIpv4 →
      Owned (ArpPacket.srcIpv4Addr packet) (ArpPacket.srcHwAddr packet)) :
    Keeps Owned Static hwAddr (h.arpDemux packet len k hasBeenSent) := by
  unfold ArpHost.arpDemux
  split
  · rename_i ipv4
    split_ifs
    · exact sound.keeps
    · exact sound.keeps
    · exact sound.sendPacket ..
    · exact (sound.update (owned ipv4)).keeps
    · exact sound.keeps
    · exact sound.keeps
  · exact sound.keeps

theorem Sound.demux (sound : h.Sound Owned Static hwAddr) {frame : Bytes} (truthful : Truthful Owned frame) (k : Fin n)
    (hasBeenSent : Bool) : Keeps Owned Static hwAddr (h.demux frame k hasBeenSent) := by
  unfold ArpHost.demux
  split_ifs with size type short hardware
  · exact sound.keeps
  · exact sound.keeps
  · exact sound.keeps
  · exact sound.keeps
  · exact sound.arpDemux _ k hasBeenSent fun ipv4 => truthful ⟨not_not.mp type, ipv4⟩

theorem Sound.answer (sound : h.Sound Owned Static hwAddr) (task : Nat) {addr : BitVec 32} {result : Option HwAddr}
    (true : addr ≠ 0 → ∀ hw ∈ result, Owned addr hw ∨ Static addr hw) :
    Keeps Owned Static hwAddr (h.answer task addr result, []) := by
  refine Sound.keeps ⟨sound.hwAddrs, sound.own, sound.unique, sound.entries, sound.static, ?_, fun other l => ?_⟩
  · intro a member
    rcases List.mem_cons.mp member with rfl | old
    · exact true
    · exact sound.answers a old
  · intro waits
    dsimp only [ArpHost.answer] at waits
    by_cases same : other = task
    · subst same
      rw [Function.update_self] at waits
      cases waits
    · rw [Function.update_of_ne same] at waits
      exact sound.requests other l waits

theorem Sound.found (sound : h.Sound Owned Static hwAddr) {addr : BitVec 32} {i : Fin maxCacheEntries}
    (found : h.cache.ipv4Find addr = some i) (proper : addr ≠ 0) :
    ∀ hw ∈ some (h.cache.entries i).hwAddr, Owned addr hw ∨ Static addr hw := by
  intro hw member
  obtain rfl := Option.mem_some_iff.mp member
  have there : (h.cache.entries i).ipv4Addr = addr := Slots.key_of_find found
  have owned := sound.entries i (by rw [there]; exact proper)
  rw [there] at owned
  exact .inl owned

theorem Sound.beginRound (sound : h.Sound Owned Static hwAddr) (task : Nat) (addr : BitVec 32) (k : Fin n) (requests : Nat)
    (hasBeenSent : Bool) : Keeps Owned Static hwAddr (h.beginRound task addr k requests hasBeenSent) := by
  unfold ArpHost.beginRound
  cases found : h.cache.ipv4Find addr with
  | some i => exact sound.answer task (sound.found found)
  | none =>
    dsimp only
    split
    · rename_i more
      obtain ⟨asked, said⟩ := sound.sendPacket k ArpPacket.arpRequest .broadcast addr hasBeenSent
      refine ⟨⟨asked.hwAddrs, asked.own, asked.unique, asked.entries, asked.static, asked.answers, fun other l waits => ?_⟩, said⟩
      by_cases same : other = task
      · subst same
        dsimp only at waits
        rw [Function.update_self] at waits
        obtain rfl := Option.some.inj waits
        exact more
      · dsimp only at waits
        rw [Function.update_of_ne same] at waits
        exact sound.requests other l waits
    · exact sound.answer task fun _ _ none => absurd none (Option.not_mem_none _)

theorem Sound.ipv4Lookup (sound : h.Sound Owned Static hwAddr) (task : Nat) (addr : BitVec 32) (k : Fin n)
    (hasBeenSent : Bool) : Keeps Owned Static hwAddr (h.ipv4Lookup task addr k hasBeenSent) := by
  unfold ArpHost.ipv4Lookup
  cases found : h.staticFind addr with
  | some i =>
    refine sound.answer task fun proper hw member => .inr ?_
    obtain rfl := Option.mem_some_iff.mp member
    have there : (h.staticEntries i).ipv4Addr = addr := Slots.key_of_find found
    have static := sound.static i (by rw [there]; exact proper)
    rwa [there] at static
  | none => exact sound.beginRound task addr k 0 hasBeenSent

theorem Sound.setStatic (sound : h.Sound Owned Static hwAddr) (i : Fin maxStaticEntries) {e : CacheEntry}
    (static : e.ipv4Addr ≠ 0 → Static e.ipv4Addr e.hwAddr) :
    ({ h with staticEntries := Function.update h.staticEntries i e } : ArpHost n).Sound Owned Static hwAddr := by
  refine ⟨sound.hwAddrs, sound.own, sound.unique, sound.entries, fun j proper => ?_, sound.answers, sound.requests⟩
  dsimp only at proper ⊢
  by_cases same : j = i
  · subst same
    rw [Function.update_self] at proper ⊢
    exact static proper
  · rw [Function.update_of_ne same] at proper ⊢
    exact sound.static j proper

theorem Sound.setInterface (sound : h.Sound Owned Static hwAddr) (k : Fin n) {i : ArpInterface}
    (same : i.hwAddr = (h.interfaces k).hwAddr) (owned : Owned i.ipv4Addr (hwAddr k)) :
    ({ h with interfaces := Function.update h.interfaces k i } : ArpHost n).Sound Owned Static hwAddr := by
  refine ⟨fun j => ?_, fun j => ?_, sound.unique, sound.entries, sound.static, sound.answers, sound.requests⟩
  · dsimp only
    by_cases here : j = k
    · subst here
      rw [Function.update_self, same]
      exact sound.hwAddrs j
    · rw [Function.update_of_ne here]
      exact sound.hwAddrs j
  · dsimp only
    by_cases here : j = k
    · subst here
      rw [Function.update_self]
      exact owned
    · rw [Function.update_of_ne here]
      exact sound.own j

/-- What the events of a host tell it, and what it tells: the addresses that it is given, the static entries, and the
frames of other protocols that it sends. -/
def Honest (Owned Static : BitVec 32 → HwAddr → Prop) (hwAddr : Fin n → HwAddr) : ArpEvent n → Prop
  | .setIpv4Addr k addr => Owned addr (hwAddr k)
  | .insertStatic addr hw => Static addr hw
  | .arrive _ frame _ => Truthful Owned frame
  | .transmit _ frame => ¬ EthFrame.isArp frame
  | _ => True

theorem Sound.step (sound : h.Sound Owned Static hwAddr) {e : ArpEvent n} (honest : Honest Owned Static hwAddr e) :
    Keeps Owned Static hwAddr (h.step e) := by
  cases e with
  | lookup task addr k hasBeenSent =>
    change Keeps _ _ _ (h.callLookup task addr k hasBeenSent)
    unfold ArpHost.callLookup
    split
    · exact sound.keeps
    · exact sound.ipv4Lookup task addr k hasBeenSent
  | poll task =>
    change Keeps _ _ _ (h.pollTable task, [])
    unfold ArpHost.pollTable
    split
    · split
      · rename_i found
        exact sound.answer task (sound.found found)
      · exact sound.keeps
    · exact sound.keeps
  | timeout task hasBeenSent =>
    change Keeps _ _ _ (h.waitIsOver task hasBeenSent)
    unfold ArpHost.waitIsOver
    split
    · exact sound.beginRound ..
    · exact sound.keeps
  | arrive k frame hasBeenSent => exact sound.demux honest k hasBeenSent
  | clear =>
    exact Sound.keeps ⟨sound.hwAddrs, sound.own, ARPCache.Unique.clear _, fun _ proper => absurd rfl proper, sound.static,
      sound.answers, sound.requests⟩
  | insertStatic addr hw =>
    refine Sound.keeps ?_
    unfold ArpHost.ipv4Insert
    cases h.staticFind 0 with
    | none => exact sound
    | some i => exact sound.setStatic i fun _ => honest
  | removeStatic addr =>
    refine Sound.keeps ?_
    unfold ArpHost.ipv4Remove
    cases h.staticFind addr with
    | none => exact sound
    | some i => exact sound.setStatic i fun proper => absurd rfl proper
  | setIpv4Addr k addr => exact Sound.keeps (sound.setInterface k rfl honest)
  | setIpv4Up k up => exact Sound.keeps (sound.setInterface k rfl (sound.own k))
  | transmit k frame =>
    refine ⟨sound, fun m member carries => ?_⟩
    obtain rfl := List.mem_singleton.mp member
    exact absurd carries honest

/-! ### A request and its answer -/

/-- The request of an interface for an address. -/
def requestFrame (me : ArpInterface) (addr : BitVec 32) : Bytes :=
  (EthArpIpv4Packet.fill ArpPacket.arpRequest me.hwAddr me.ipv4Addr .broadcast addr).frame

/-- The answer of another interface. -/
def replyFrame (you me : ArpInterface) : Bytes :=
  (EthArpIpv4Packet.fill ArpPacket.arpReply you.hwAddr you.ipv4Addr me.hwAddr me.ipv4Addr).frame

end ArpHost

/-! ### The network -/

variable {ι Λ : Type} [DecidableEq ι] {n : ι → Nat}

/-- What a host takes from one of its links. -/
def ArpEvent.heard {n : Nat} (link : Fin n → Λ) : ArpEvent n → Option (Λ × Bytes)
  | .arrive k frame _ => some (link k, frame)
  | _ => none

/-- A host that transmits something else than ARP. -/
def ArpEvent.foreign {n : Nat} : ArpEvent n → Prop
  | .transmit _ frame => ¬ EthFrame.isArp frame
  | _ => True

instance {n : Nat} : (e : ArpEvent n) → Decidable e.foreign
  | .transmit _ frame => inferInstanceAs (Decidable ¬EthFrame.isArp frame)
  | .lookup .. | .poll .. | .timeout .. | .arrive .. | .clear | .insertStatic .. | .removeStatic .. | .setIpv4Addr ..
  | .setIpv4Up .. => inferInstanceAs (Decidable True)

/-- Hosts, each interface of which is on some link. All hosts on a link can hear all its frames. -/
def arpProtocol (link : ∀ i, Fin (n i) → Λ) : Protocol ι (fun i => ArpHost (n i)) (fun i => ArpEvent (n i)) (Λ × Bytes) where
  handle i h e := ((h.step e).1, (h.step e).2.map fun m => (link i m.1, m.2))
  hears i := ArpEvent.heard (link i)

namespace ArpNetwork

/-- Nothing has been sent, and no host knows anything. -/
def start (interfaces : ∀ i, Fin (n i) → ArpInterface) : Network ι (fun i => ArpHost (n i)) (Λ × Bytes) :=
  ⟨fun i => .start (interfaces i), []⟩

/-- An interface with the hardware address has the IPv4 address at some time of the run. -/
def owns (interfaces : ∀ i, Fin (n i) → ArpInterface) (events : List (Σ i, ArpEvent (n i))) (addr : BitVec 32) (hw : HwAddr) :
    Prop :=
  ∃ i k, (interfaces i k).hwAddr = hw ∧ ((interfaces i k).ipv4Addr = addr ∨ ⟨i, .setIpv4Addr k addr⟩ ∈ events)

variable {link : ∀ i, Fin (n i) → Λ} {interfaces : ∀ i, Fin (n i) → ArpInterface}

theorem sound (Owned : BitVec 32 → HwAddr → Prop) (Static : ι → BitVec 32 → HwAddr → Prop)
    {ok : ∀ i, ArpHost (n i) → ArpEvent (n i) → Prop}
    (own : ∀ i k, Owned (interfaces i k).ipv4Addr (interfaces i k).hwAddr)
    (honest : ∀ i h e, ok i h e → (∀ k frame b, e = .arrive k frame b → ArpHost.Truthful Owned frame) →
      ArpHost.Honest Owned (Static i) (fun k => (interfaces i k).hwAddr) e)
    {net : Network ι (fun i => ArpHost (n i)) (Λ × Bytes)}
    (reach : Transition.Reach (arpProtocol link).step ((arpProtocol link).allowed ok) (start interfaces) net) (i : ι) :
    (net.node i).Sound Owned (Static i) fun k => (interfaces i k).hwAddr := by
  refine (Protocol.sound (fun i h => h.Sound Owned (Static i) fun k => (interfaces i k).hwAddr)
    (fun m => ArpHost.Truthful Owned m.2) ?_ ?_ ?_ reach).1 i
  · intro i h e sound able heard
    have keeps := sound.step (honest i h e able fun k frame b arrives => by
      subst arrives
      exact heard (link i k, frame) rfl)
    refine ⟨keeps.1, fun m member => ?_⟩
    obtain ⟨sent, there, rfl⟩ := List.mem_map.mp member
    exact keeps.2 sent there
  · intro i
    exact ⟨fun _ => rfl, own i, ARPCache.Unique.clear .inst, fun _ proper => absurd rfl proper, fun _ proper => absurd rfl proper,
      fun _ none => absurd none List.not_mem_nil, fun _ _ none => by cases none⟩
  · exact fun _ none => absurd none List.not_mem_nil

/-- Whatever is lost, repeated and reordered, and whichever hosts come up, go down and change
their addresses: a cache binds an address to the hardware address of an interface that has it at
some time of the run, a lookup answers with such a binding or a static one, and sends at most
three requests. -/
theorem bindings_owned (events : List (Σ i, ArpEvent (n i)))
    (follows : Transition.Follows (arpProtocol link).step ((arpProtocol link).allowed fun _ _ e => e.foreign)
      (start interfaces) events) (i : ι) :
    let h := (events.foldl (arpProtocol link).step (start interfaces)).node i
    (∀ addr hw, h.cache.binding addr = some hw → owns interfaces events addr hw) ∧
    (∀ a ∈ h.answers, a.addr ≠ 0 → ∀ hw ∈ a.hwAddr,
      owns interfaces events a.addr hw ∨ ⟨i, .insertStatic a.addr hw⟩ ∈ events) ∧
    ∀ task l, h.lookups task = some l → l.requests ≤ 3 := by
  have all : Transition.Follows (arpProtocol link).step
      ((arpProtocol link).allowed fun i _ e => ⟨i, e⟩ ∈ events ∧ e.foreign) (start interfaces) events :=
    (follows.and fun _ member => member).mono fun net e both => ⟨⟨both.1, both.2.1⟩, both.2.2⟩
  have sound := sound (owns interfaces events) (fun i addr hw => ⟨i, .insertStatic addr hw⟩ ∈ events)
    (fun i k => ⟨i, k, rfl, .inl rfl⟩) ?_ (Transition.Reach.start.foldl all) i
  · refine ⟨fun addr hw bound => ?_, sound.answers, sound.requests⟩
    obtain ⟨slot, found, rfl⟩ := Option.map_eq_some_iff.mp bound
    have there := Slots.key_of_find found
    have owned := sound.entries slot (by rw [there]; exact addr.property)
    rwa [there] at owned
  · rintro i h e ⟨member, foreign⟩ truthful
    cases e with
    | setIpv4Addr k addr => exact ⟨i, k, rfl, .inr member⟩
    | insertStatic addr hw => exact member
    | arrive k frame hasBeenSent => exact truthful k frame hasBeenSent rfl
    | transmit k frame => exact foreign
    | lookup | poll | timeout | clear | removeStatic | setIpv4Up => trivial

/-! Two hosts on one link. -/

def sampleInterface (number : UInt8) : ArpInterface :=
  ⟨#v[2, 0, 0, 0, 0, number], 0x0A000000 + number.toNat, true⟩

def sampleInterfaces (second : Bool) (_ : Fin 1) : ArpInterface := sampleInterface (if second then 2 else 1)

def sampleProtocol : Protocol Bool (fun _ => ArpHost 1) (fun _ => ArpEvent 1) (Unit × Bytes) := arpProtocol fun _ _ => ()

/-- The first host asks for the address of the second one. The answer arrives twice, and the first
host is given another address in between. -/
def sampleExchange : List (Σ _ : Bool, ArpEvent 1) :=
  let port := Fin.last 0
  let reply := ArpHost.replyFrame (sampleInterface 2) (sampleInterface 1)
  [⟨false, .lookup 7 0x0A000002 port false⟩, ⟨true, .arrive port (ArpHost.requestFrame (sampleInterface 1) 0x0A000002) false⟩,
    ⟨false, .arrive port reply false⟩, ⟨false, .setIpv4Addr port 0x0A000003⟩, ⟨false, .arrive port reply false⟩, ⟨false, .poll 7⟩]

theorem bindings_owned_exchange :
    owns sampleInterfaces sampleExchange 0x0A000002 #v[2, 0, 0, 0, 0, 2] :=
  have exchange : Transition.Follows sampleProtocol.step (sampleProtocol.allowed fun _ _ e => e.foreign)
      (start sampleInterfaces) sampleExchange := by decide +kernel
  (bindings_owned sampleExchange exchange false).1 ⟨0x0A000002, by decide⟩ #v[2, 0, 0, 0, 0, 2] (by decide +kernel)

/-- A run from one state of the network to another. -/
def Leads (link : ∀ i, Fin (n i) → Λ) : (net later : Network ι (fun i => ArpHost (n i)) (Λ × Bytes)) → Prop :=
  Transition.Reach (arpProtocol link).step ((arpProtocol link).allowed fun _ _ e => e.foreign)

/-- No cache has an address twice. -/
theorem unique {net : Network ι (fun i => ArpHost (n i)) (Λ × Bytes)} (reach : Leads link (start interfaces) net) (i : ι) :
    (net.node i).cache.Unique := by
  refine (sound (fun _ _ => True) (fun _ _ _ => True) (fun _ _ => trivial) ?_ reach i).unique
  intro i h e foreign _
  cases e with
  | transmit k frame => exact foreign
  | arrive k frame hasBeenSent => exact fun _ => trivial
  | lookup | poll | timeout | clear | insertStatic | removeStatic | setIpv4Addr | setIpv4Up => trivial

/-- What was sent can still arrive. -/
theorem Leads.sent {net later : Network ι (fun i => ArpHost (n i)) (Λ × Bytes)} (leads : Leads link net later) :
    net.sent <+: later.sent := by
  refine leads.invariant (fun later => net.sent <+: later.sent) List.prefix_rfl ?_
  exact fun later e before _ => before.trans ((arpProtocol link).sent_step later e)

end ArpNetwork

end IPStack
