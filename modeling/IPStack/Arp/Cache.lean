import IPStack.Lib.EvictingMap
import IPStack.Lib.Simulation
import IPStack.Lib.Slots

/-! The ARP cache, which maps IPv4 addresses to hardware addresses. The static entries, which a
lookup asks first where a build has them, are a table apart from it. -/

namespace IPStack

/-- `cache_entry`; a slot is free if its address is zero. -/
structure CacheEntry where
  ipv4Addr : BitVec 32
  hwAddr : Vector UInt8 6
deriving DecidableEq

/-- `MAX_CACHE_ENTRIES`. -/
abbrev maxCacheEntries : Nat := 5

/-- `ARP_Cache` with the slice of the ARP requests. -/
structure ARPCache where
  entries : Fin maxCacheEntries → CacheEntry

/-- An IPv4 address of a host: not zero. -/
abbrev HostAddr := { addr : BitVec 32 // addr ≠ 0#32 }

/-- What an ARP packet says about its sender. -/
structure ArpSender where
  addr : HostAddr
  hwAddr : Vector UInt8 6

/-- What arrives while a lookup waits for the answer to one request: in front of each poll of
the table until the time is over, and in front of the last look at it. -/
structure Attempt where
  polls : List (List ArpSender)
  late : List ArpSender

namespace ARPCache

/-- The instance, in memory that is zero at the start. -/
def inst : ARPCache := ⟨fun _ => ⟨0, .replicate 6 0⟩⟩

/-- `clear` with the advice of the IPv4 slice. The global timeout calls it in front of a lookup. -/
def clear (c : ARPCache) : ARPCache := ⟨fun i => { c.entries i with ipv4Addr := 0 }⟩

/-- `ipv4_find`: the first slot with the address. -/
def ipv4Find (c : ARPCache) (addr : BitVec 32) : Option (Fin maxCacheEntries) := Slots.find CacheEntry.ipv4Addr c.entries addr

/-- The pass of `ipv4_update` over the slots. It ends at the slot with the address. -/
def selectFrom (c : ARPCache) (addr : BitVec 32) :
    List (Fin maxCacheEntries) → Option (Fin maxCacheEntries) → Fin maxCacheEntries
  | [], some firstFree => firstFree
  | [], none => 0
  | i :: rest, firstFree =>
    if (c.entries i).ipv4Addr = addr then i
    else if (c.entries i).ipv4Addr = 0 then c.selectFrom addr rest (firstFree.or (some i))
    else c.selectFrom addr rest firstFree

/-- `selected_index`. -/
def selectedIndex (c : ARPCache) (addr : BitVec 32) : Fin maxCacheEntries :=
  c.selectFrom addr (List.finRange maxCacheEntries) none

def ipv4Update (c : ARPCache) (ipv4Addr : BitVec 32) (hwAddr : Vector UInt8 6) : ARPCache :=
  ⟨Function.update c.entries (c.selectedIndex ipv4Addr) ⟨ipv4Addr, hwAddr⟩⟩

/-- An ARP packet is received. -/
def receive (c : ARPCache) (sender : ArpSender) : ARPCache := c.ipv4Update sender.addr sender.hwAddr

/-- `ipv4_wait`: the cache afterwards, and which packets came in meanwhile. -/
def ipv4Wait (c : ARPCache) (addr : BitVec 32) : List (List ArpSender) → ARPCache × List ArpSender
  | [] => (c, [])
  | senders :: rest =>
    let c := senders.foldl receive c
    match c.ipv4Find addr with
    | some _ => (c, senders)
    | none => ((c.ipv4Wait addr rest).1, senders ++ (c.ipv4Wait addr rest).2)

/-- The result of a lookup: the slot that the returned pointer leads to, the cache then, and
which packets came in since the call. -/
structure Resolved where
  slot : Option (Fin maxCacheEntries)
  cache : ARPCache
  arrived : List ArpSender

/-- The hardware address that is read through the pointer. -/
def Resolved.hwAddr (r : Resolved) : Option (Vector UInt8 6) := r.slot.map fun i => (r.cache.entries i).hwAddr

/-- The loop of `ipv4_lookup`. A request leaves the table alone; only what arrives changes it. -/
def retry (c : ARPCache) (addr : BitVec 32) : List Attempt → Resolved
  | [] => ⟨c.ipv4Find addr, c, []⟩
  | attempt :: rest =>
    match c.ipv4Find addr with
    | some i => ⟨some i, c, []⟩
    | none =>
      let waited := c.ipv4Wait addr attempt.polls
      let later := (attempt.late.foldl receive waited.1).retry addr rest
      { later with arrived := waited.2 ++ (attempt.late ++ later.arrived) }

/-- `ipv4_lookup` with up to three requests. -/
def ipv4Lookup (c : ARPCache) (addr : BitVec 32) (attempts : Vector Attempt 3) : Resolved := c.retry addr attempts.toList

/-- What is done with the cache. -/
inductive Call
  | update (sender : ArpSender)
  | lookup (addr : BitVec 32) (attempts : Vector Attempt 3)
  | clear

/-- The updates of a call, in their order, and its answer; a lookup of the address that marks
free slots is not an answer about a host. -/
def step (c : ARPCache) : Call → List (EvictingMap.Event HostAddr (Vector UInt8 6)) × ARPCache
  | .update sender => ([.stored sender.addr sender.hwAddr], c.receive sender)
  | .lookup addr attempts =>
    let resolved := c.ipv4Lookup addr attempts
    let stored := resolved.arrived.map fun sender => .stored sender.addr sender.hwAddr
    (if host : addr ≠ 0 then stored ++ [.answered ⟨addr, host⟩ resolved.hwAddr] else stored, resolved.cache)
  | .clear => ([.cleared], c.clear)

/-! ### The slots -/

/-- No two slots hold the same address. -/
def Unique (c : ARPCache) : Prop := Slots.Unique CacheEntry.ipv4Addr 0#32 c.entries

/-- The partial map in the slots. -/
def binding (c : ARPCache) (addr : HostAddr) : Option (Vector UInt8 6) :=
  (c.ipv4Find addr).map fun i => (c.entries i).hwAddr

variable {c : ARPCache} {addr : BitVec 32} {i : Fin maxCacheEntries}

/-- The pass prefers the slot with the address, then the first free slot. -/
theorem selectFrom_eq (c : ARPCache) (addr : BitVec 32) (l : List (Fin maxCacheEntries))
    (firstFree : Option (Fin maxCacheEntries)) :
    c.selectFrom addr l firstFree =
      ((l.find? fun i => decide ((c.entries i).ipv4Addr = addr)).or
        (firstFree.or (l.find? fun i => decide ((c.entries i).ipv4Addr = 0)))).getD 0 := by
  induction l generalizing firstFree with
  | nil => cases firstFree <;> simp only [selectFrom, List.find?_nil, Option.or_none, Option.none_or, Option.getD]
  | cons i rest ih =>
    unfold selectFrom
    split
    · rename_i match_
      rw [List.find?_cons_of_pos (by simpa using match_), Option.some_or, Option.getD_some]
    · rename_i other
      rw [List.find?_cons_of_neg (by simpa using other)]
      split
      · rename_i unused
        rw [ih, List.find?_cons_of_pos (by simpa using unused)]
        cases firstFree <;> simp only [Option.or_some, Option.some_or, Option.getD_some]
      · rename_i used
        rw [ih, List.find?_cons_of_neg (by simpa using used)]

theorem selectedIndex_cases (c : ARPCache) (addr : BitVec 32) :
    c.ipv4Find addr = some (c.selectedIndex addr) ∨
    c.ipv4Find addr = none ∧ c.ipv4Find 0 = some (c.selectedIndex addr) ∨
    c.ipv4Find addr = none ∧ c.ipv4Find 0 = none := by
  unfold selectedIndex
  rw [selectFrom_eq]
  change let found := c.ipv4Find addr
    let unused := c.ipv4Find 0
    found = some ((found.or (none.or unused)).getD 0) ∨
      found = none ∧ unused = some ((found.or (none.or unused)).getD 0) ∨ found = none ∧ unused = none
  cases c.ipv4Find addr <;> cases c.ipv4Find 0 <;> simp

/-- An address is stored in the slot that has it already. -/
theorem Unique.stored_elsewhere (unique : c.Unique) (j : Fin maxCacheEntries) (other : j ≠ c.selectedIndex addr)
    (there : (c.entries j).ipv4Addr = addr) : addr = 0 := by
  by_contra proper
  have found : c.ipv4Find addr = some j := (Slots.Unique.find_eq_some_iff unique proper).mpr there
  rcases c.selectedIndex_cases addr with same | ⟨absent, _⟩ | ⟨absent, _⟩
  · exact other (Option.some.inj (found.symm.trans same))
  · exact absurd (found.symm.trans absent) (Option.some_ne_none j)
  · exact absurd (found.symm.trans absent) (Option.some_ne_none j)

theorem Unique.update (unique : c.Unique) (addr : BitVec 32) (hwAddr : Vector UInt8 6) : (c.ipv4Update addr hwAddr).Unique :=
  Slots.Unique.update unique fun j other there => unique.stored_elsewhere j other there

theorem Unique.clear (c : ARPCache) : c.clear.Unique := fun _ _ _ proper => absurd rfl proper

theorem find_receive (unique : c.Unique) (s : ArpSender) : (c.receive s).ipv4Find s.addr = some (c.selectedIndex s.addr) := by
  refine (Slots.Unique.find_eq_some_iff (unique.update _ _) s.addr.property).mpr ?_
  simp only [ipv4Update, Function.update_self]

theorem binding_receive_self (unique : c.Unique) (s : ArpSender) : (c.receive s).binding s.addr = some s.hwAddr := by
  rw [binding, find_receive unique]
  simp only [receive, ipv4Update, Option.map_some, Function.update_self]

/-- Another address loses its binding exactly if it was in the slot that is overwritten. -/
theorem binding_receive_of_ne (unique : c.Unique) (s : ArpSender) {k : HostAddr} (other : k ≠ s.addr) :
    (c.receive s).binding k =
      if (c.entries (c.selectedIndex s.addr)).ipv4Addr = k then none else c.binding k := by
  have apart : s.addr.val ≠ k.val := fun same => other (Subtype.ext same.symm)
  unfold binding
  rw [receive, ipv4Find, ipv4Update, Slots.Unique.find_update_of_ne unique k.property apart]
  split
  · simp only [Option.map_none]
  · rename_i kept
    refine Option.map_congr fun j found => ?_
    have there : (c.entries j).ipv4Addr = k := Slots.key_of_find found
    have elsewhere : j ≠ c.selectedIndex s.addr := fun same => kept (same ▸ there)
    dsimp only
    rw [Function.update_of_ne elsewhere]

/-- An update stores its binding; if it evicts another one, no slot was free. -/
theorem binding_receive (unique : c.Unique) (s : ArpSender) :
    ∃ victim : Option HostAddr,
      (c.receive s).binding = Function.update (EvictingMap.evict c.binding victim) s.addr (some s.hwAddr) ∧
      (victim ≠ none → ∀ i, (c.entries i).ipv4Addr ≠ 0) := by
  have single (victim : Option HostAddr)
      (lost : ∀ k : HostAddr, k ≠ s.addr → (victim = some k ↔ (c.entries (c.selectedIndex s.addr)).ipv4Addr = k)) :
      (c.receive s).binding = Function.update (EvictingMap.evict c.binding victim) s.addr (some s.hwAddr) := by
    funext k
    rcases eq_or_ne k s.addr with rfl | other
    · rw [Function.update_self, binding_receive_self unique]
    · rw [Function.update_of_ne other, binding_receive_of_ne unique s other, EvictingMap.evict]
      exact if_congr (lost k other).symm rfl rfl
  rcases c.selectedIndex_cases s.addr with same | ⟨_, unused⟩ | ⟨absent, full⟩
  · have there := Slots.key_of_find same
    refine ⟨none, single none fun k other => ?_, fun some_victim => absurd rfl some_victim⟩
    exact iff_of_false (by simp) fun taken => other (Subtype.ext (taken.symm.trans there))
  · have there := Slots.key_of_find unused
    refine ⟨none, single none fun k _ => ?_, fun some_victim => absurd rfl some_victim⟩
    exact iff_of_false (by simp) fun taken => k.property (taken.symm.trans there)
  · have occupied := Slots.find_eq_none_iff.mp full
    refine ⟨some ⟨_, occupied (c.selectedIndex s.addr)⟩, single _ fun k _ => ?_, fun _ => occupied⟩
    rw [Option.some.injEq, Subtype.ext_iff]

/-! ### Lookups -/

theorem ipv4Wait_eq (c : ARPCache) (addr : BitVec 32) (polls : List (List ArpSender)) :
    (c.ipv4Wait addr polls).1 = (c.ipv4Wait addr polls).2.foldl receive c := by
  induction polls generalizing c with
  | nil => simp only [ipv4Wait, List.foldl_nil]
  | cons senders rest ih =>
    unfold ipv4Wait
    dsimp only
    split
    · simp only
    · rw [List.foldl_append, ← ih]

/-- A lookup leads to the slot of the address in the cache as the arrived packets have left it. -/
theorem retry_spec (c : ARPCache) (addr : BitVec 32) (attempts : List Attempt) :
    (c.retry addr attempts).cache = (c.retry addr attempts).arrived.foldl receive c ∧
    (c.retry addr attempts).slot = (c.retry addr attempts).cache.ipv4Find addr := by
  induction attempts generalizing c with
  | nil => simp only [retry, List.foldl_nil, and_self]
  | cons attempt rest ih =>
    unfold retry
    split
    · rename_i i found
      exact ⟨by simp only [List.foldl_nil], found.symm⟩
    · obtain ⟨cache, slot⟩ := ih (attempt.late.foldl receive (c.ipv4Wait addr attempt.polls).1)
      refine ⟨?_, slot⟩
      simp only [List.foldl_append]
      rw [← ipv4Wait_eq, ← cache]

theorem ipv4Lookup_of_find (found : c.ipv4Find addr = some i) (attempts : Vector Attempt 3) :
    c.ipv4Lookup addr attempts = ⟨some i, c, []⟩ := by
  unfold ipv4Lookup
  cases attempts.toList with
  | nil => rw [retry, found]
  | cons attempt rest => rw [retry, found]

theorem ipv4Lookup_hwAddr (c : ARPCache) (k : HostAddr) (attempts : Vector Attempt 3) :
    (c.ipv4Lookup k attempts).hwAddr = (c.ipv4Lookup k attempts).cache.binding k := by
  rw [Resolved.hwAddr, binding, ipv4Lookup, (c.retry_spec k attempts.toList).2]

/-! ### Runs -/

theorem run_receive (unique : c.Unique) (senders : List ArpSender) :
    (senders.foldl receive c).Unique ∧
    EvictingMap.Run c.binding (senders.map fun s => .stored s.addr s.hwAddr) (senders.foldl receive c).binding := by
  induction senders generalizing c with
  | nil => exact ⟨unique, .done⟩
  | cons s rest ih =>
    obtain ⟨kept, later⟩ := ih (unique.update s.addr s.hwAddr)
    obtain ⟨victim, stored, _⟩ := binding_receive unique s
    have first : EvictingMap.Step c.binding (.stored s.addr s.hwAddr) (c.receive s).binding := by
      rw [stored]
      exact .stored s.addr s.hwAddr victim
    exact ⟨kept, .step first later⟩

theorem binding_clear (c : ARPCache) : c.clear.binding = fun _ => none := by
  funext k
  have absent : c.clear.ipv4Find k = none := Slots.find_eq_none_iff.mpr fun _ there => k.property there.symm
  rw [binding, absent, Option.map_none]

theorem step_run (unique : c.Unique) (call : Call) :
    (c.step call).2.Unique ∧ EvictingMap.Run c.binding (c.step call).1 (c.step call).2.binding := by
  cases call with
  | update sender => exact run_receive unique [sender]
  | lookup addr attempts =>
    have arrived := run_receive unique (c.ipv4Lookup addr attempts).arrived
    rw [ipv4Lookup, ← (c.retry_spec addr attempts.toList).1, ← ipv4Lookup] at arrived
    refine ⟨arrived.1, ?_⟩
    unfold step
    dsimp only
    split
    · rename_i host
      refine arrived.2.append (.step ?_ .done)
      rw [c.ipv4Lookup_hwAddr ⟨addr, host⟩ attempts]
      exact .answered (⟨addr, host⟩ : HostAddr)
    · exact arrived.2
  | clear =>
    refine ⟨Unique.clear c, .step ?_ .done⟩
    rw [step, binding_clear]
    exact .cleared

theorem final_run (unique : c.Unique) (calls : List Call) :
    (Simulation.final step c calls).Unique ∧
    EvictingMap.Run c.binding (Simulation.outputs step c calls).flatten (Simulation.final step c calls).binding := by
  induction calls generalizing c with
  | nil => exact ⟨unique, .done⟩
  | cons call rest ih =>
    obtain ⟨next, first⟩ := step_run unique call
    obtain ⟨kept, later⟩ := ih next
    exact ⟨kept, first.append later⟩

theorem clear_inst : inst.clear = inst := by rw [clear, inst]

/-- After any calls no address is in two slots, a lookup right behind an update finds what was
stored, and an update changes no other binding but for one that it may evict from a full table;
all answers are those of a partial map with eviction. -/
theorem refines_map (calls : List Call) :
    let c := Simulation.final step inst calls
    (∀ i j, (c.entries i).ipv4Addr = (c.entries j).ipv4Addr → (c.entries i).ipv4Addr ≠ 0 → i = j) ∧
    (∀ (s : ArpSender) (attempts : Vector Attempt 3),
      ((c.receive s).ipv4Lookup s.addr attempts).hwAddr = some s.hwAddr ∧
      ((c.receive s).ipv4Lookup s.addr attempts).cache = c.receive s) ∧
    (∀ s : ArpSender, ∃ victim : Option HostAddr,
      (c.receive s).binding = Function.update (EvictingMap.evict c.binding victim) s.addr (some s.hwAddr) ∧
      (victim ≠ none → ∀ i, (c.entries i).ipv4Addr ≠ 0)) ∧
    EvictingMap.Run (fun _ => none) (Simulation.outputs step inst calls).flatten c.binding := by
  obtain ⟨unique, run⟩ := final_run (Unique.clear inst) calls
  rw [binding_clear] at run
  rw [clear_inst] at unique run
  refine ⟨unique, fun s attempts => ?_, binding_receive unique, run⟩
  have found := find_receive unique s
  have stored := binding_receive_self unique s
  rw [binding, found] at stored
  rw [ipv4Lookup_of_find found]
  exact ⟨stored, rfl⟩

end ARPCache

end IPStack
