import IPStack.Lib.Reach
import IPStack.Ipv6.DestinationCache

/-! The expire values of the neighbour caches, over all sequences of reservations, uses,
changes of the importance, suspicions and refresh cycles. -/

namespace IPStack

open AddressMemory Transition

inductive NDPCacheEntryImportance where
  | notImportant
  | goodToKnow
  | solicitationRenew
  | router
  | important
  | alwaysKeep
deriving DecidableEq, Repr

def NDPCacheEntryImportance.code : NDPCacheEntryImportance → BitVec 8
  | .notImportant => 0
  | .goodToKnow => NDPCacheEntry.importanceGoodToKnow
  | .solicitationRenew => NDPCacheEntry.importanceSolicitationRenew
  | .router => NDPCacheEntry.importanceRouter
  | .important => 128
  | .alwaysKeep => NDPCacheEntry.importanceAlwaysKeep

namespace NDPCacheEntry

/-- Both refreshes are the basic methods. An aspect may send a solicitation instead. -/
def ipv6RouterEntryRefresh (entry : NDPCacheEntry) : NDPCacheEntry := { entry with expireValue := importanceRouter }

def ipv6NonrouterEntryRefresh (entry : NDPCacheEntry) : NDPCacheEntry :=
  { entry with expireValue := importanceGoodToKnow }

def ipv6Useentry (entry : NDPCacheEntry) : NDPCacheEntry :=
  if entry.expireValue < tresholdRequireSolicitation then
    -- marked as "to be renewed"
    if entry.expireValue = 1 then entry
    else
      let entry := { entry with expireValue := 1 }
      if entry.isRouter then entry.ipv6RouterEntryRefresh else entry.ipv6NonrouterEntryRefresh
  else if entry.expireValue &&& 1 ≠ 0 then
    { entry with expireValue := entry.expireValue + (expireRatePerMinute - 1) }
  else entry

/-- What a refresh cycle leaves of an entry. -/
def aged (entry : NDPCacheEntry) : Option NDPCacheEntry :=
  if entry.expireValue < expireRatePerMinute then none
  else if entry.expireValue ≠ 255 then
    some { entry with expireValue := (entry.expireValue - expireRatePerMinute) ||| 1 }
  else some entry

end NDPCacheEntry

/-- A reservation is the end of `addNDPCacheEntry` for an unknown address, and takes the first
free slot. -/
inductive ExpireEvent (n : Nat) where
  | reserve (k : Fin n) (addr : Ipv6Addr) (state : NDPCacheState)
  | dropUnused (k : Fin n)
  | useentry (k : Fin n) (i : Nat)
  | updateImportance (k : Fin n) (i : Nat) (importanceLevel : NDPCacheEntryImportance)
  | suspectUnreachable (k : Fin n) (addr : Ipv6Addr)
  | releaseOldEntries (k : Fin n)
deriving DecidableEq

/-- `kept` says of the entry in a slot that it was given `IMPORTANCE_always_keep`, and not
suspected since. The program does not keep it. -/
structure ExpireState (n : Nat) where
  router : Router n
  kept : Fin n → Nat → Bool

namespace ExpireState

variable {n : Nat}

def start (r : Router n) : ExpireState n := ⟨r, fun _ _ => false⟩

def setKept (s : ExpireState n) (k : Fin n) (i : Nat) (kept : Bool) : Fin n → Nat → Bool :=
  fun k' i' => if k' = k ∧ i' = i then kept else s.kept k' i'

def step (s : ExpireState n) : ExpireEvent n → ExpireState n
  | .reserve k addr state =>
    match (s.router.memory k).findEntry .free 0 with
    | none => s
    | some i => ⟨s.router.reserveNDPCacheEntry k i addr state, s.setKept k i false⟩
  | .dropUnused k => { s with router := s.router.dropUnused k }
  | .useentry k i =>
    { s with router := s.router.setMemory k ((s.router.memory k).modifyNeighbour i NDPCacheEntry.ipv6Useentry) }
  | .updateImportance k i importanceLevel =>
    ⟨s.router.setMemory k ((s.router.memory k).updateImportance i importanceLevel.code),
      if importanceLevel = .alwaysKeep then s.setKept k i true else s.kept⟩
  | .suspectUnreachable k addr =>
    ⟨s.router.suspectUnreachable k addr,
      match (s.router.memory k).ndpcacheFind addr with
      | none => s.kept
      | some i => s.setKept k i false⟩
  | .releaseOldEntries k => { s with router := s.router.releaseOldEntries k }

/-- The expire value of the entry in a slot. -/
def value (s : ExpireState n) (k : Fin n) (i : Nat) : Option (BitVec 8) :=
  ((s.router.memory k).neighbourAt i).map (·.expireValue)

/-! ### What the value is for -/

/-- The events that raise the value of the entry in a slot. -/
def Raises (k : Fin n) (i : Nat) : ExpireEvent n → Prop
  | .useentry k' i' => k' = k ∧ i' = i
  | .updateImportance k' i' _ => k' = k ∧ i' = i
  | _ => False

/-- Whatever else happens, the entry is freed before so many refresh cycles are over. -/
def FreedWithin (s : ExpireState n) (k : Fin n) (i cycles : Nat) : Prop :=
  ∀ events : List (ExpireEvent n), (∀ e ∈ events, ¬Raises k i e) → cycles ≤ events.count (.releaseOldEntries k) →
    ∃ l, l <+: events ∧ (l.foldl step s).value k i = none

/-- The entries that are kept have the value for it, and no others. -/
def KeepsExactly (s : ExpireState n) : Prop := ∀ k i v, s.value k i = some v → (v = 255 ↔ s.kept k i = true)

/-- And the others are freed in time. -/
structure Expires (s : ExpireState n) : Prop where
  keeps : s.KeepsExactly
  frees : ∀ k i v, s.value k i = some v → s.kept k i = false → s.FreedWithin k i (v.toNat / 5 + 1)

/-- A use does not lower the value. -/
def UseRaises (s : ExpireState n) : ExpireEvent n → Prop
  | .useentry k i => ∀ v, s.value k i = some v → ∃ v', (s.step (.useentry k i)).value k i = some v' ∧ v ≤ v'
  | _ => True

/-- No entry with an odd value from 251 on is used, and another importance than `always_keep`
leaves a bit that is not set. -/
def ExpiryExact (s : ExpireState n) : ExpireEvent n → Prop
  | .useentry k i => ∀ v, s.value k i = some v → ¬(251 ≤ v ∧ v &&& 1 = 1)
  | .updateImportance k i importanceLevel => importanceLevel ≠ .alwaysKeep →
    ∀ v, s.value k i = some v → v ≠ 255 → ~~~v &&& ~~~importanceLevel.code ≠ 0
  | _ => True

end ExpireState

/-! ### Values -/

namespace NDPCacheEntry

variable {entry : NDPCacheEntry}

theorem useentry_value : entry.ipv6Useentry.expireValue =
    if entry.expireValue < 18 then
      if entry.expireValue = 1 then 1 else if entry.isRouter then 100 else 50
    else if entry.expireValue &&& 1 ≠ 0 then entry.expireValue + 5 else entry.expireValue := by
  unfold ipv6Useentry
  change (if entry.expireValue < 18 then _ else _ : NDPCacheEntry).expireValue = _
  split_ifs with low renewed router odd
  · exact renewed
  · exact congrArg expireValue (if_pos router)
  · exact congrArg expireValue (if_neg router)
  · rfl
  · rfl

theorem le_useentry : entry.expireValue ≤ entry.ipv6Useentry.expireValue ↔
    ¬(251 ≤ entry.expireValue ∧ entry.expireValue &&& 1 = 1) := by
  have table : ∀ (router : Bool) (v : BitVec 8), v ≤ (if v < 18 then
      if v = 1 then 1 else if router then 100 else 50
    else if v &&& 1 ≠ 0 then v + 5 else v) ↔ ¬(251 ≤ v ∧ v &&& 1 = 1) := by decide +kernel
  rw [useentry_value]
  exact table ..

theorem useentry_ne : entry.ipv6Useentry.expireValue ≠ 255 := by
  have table : ∀ (router : Bool) (v : BitVec 8), (if v < 18 then
      if v = 1 then 1 else if router then 100 else 50
    else if v &&& 1 ≠ 0 then v + 5 else v) ≠ (255 : BitVec 8) := by decide +kernel
  rw [useentry_value]
  exact table _ _

theorem important_ne_iff {v code : BitVec 8} : v ||| code = 255 ↔ ~~~v &&& ~~~code = 0 := by
  rw [← BitVec.not_or]
  constructor
  · intro all
    rw [all]
    rfl
  · intro none
    have back := congrArg (~~~·) none
    simpa using back

theorem aged_cases : entry.aged = none ∨
    ∃ entry', entry.aged = some entry' ∧ (entry'.expireValue = 255 ↔ entry.expireValue = 255) ∧
      (entry.expireValue ≠ 255 → entry'.expireValue.toNat + 5 ≤ entry.expireValue.toNat) := by
  have table : ∀ v : BitVec 8, ¬v < 6 → v ≠ 255 →
      (v - 6) ||| 1 ≠ 255 ∧ ((v - 6) ||| 1).toNat + 5 ≤ v.toNat := by decide +kernel
  unfold aged
  split_ifs with old fixed
  · exact .inl rfl
  · obtain ⟨other, lower⟩ := table entry.expireValue old fixed
    exact .inr ⟨_, rfl, ⟨fun eq => absurd eq other, fun eq => absurd eq fixed⟩, fun _ => lower⟩
  · rw [not_not] at fixed
    exact .inr ⟨entry, rfl, .rfl, absurd fixed⟩

end NDPCacheEntry

/-! ### Slots -/

namespace AddressMemory

variable {m : AddressMemory} {i j nextEntry rounds : Nat}

theorem neighbourAt_eq_none (other : (m.getEntryAtPosition i).id ≠ .neighbour) : m.neighbourAt i = none := by
  unfold neighbourAt
  cases here : m.getEntryAtPosition i with
  | neighbour entry =>
    rw [here] at other
    exact absurd rfl other
  | _ => rfl

theorem neighbourAt_outside (outside : m.size ≤ i) : m.neighbourAt i = none :=
  neighbourAt_free (by rw [getEntryAtPosition_outside outside]; rfl)

section Local

/- A body that changes or frees the visited neighbour only. -/
variable {σ : Type} (memory : σ → AddressMemory) {state : σ} {act : σ → Nat → σ}
  {f : NDPCacheEntry → Option NDPCacheEntry}
  (size : ∀ s i, (memory (act s i)).size = (memory s).size)
  (inSlot : ∀ s i j, (memory (act s i)).neighbourAt j =
    if j = i then ((memory s).neighbourAt j).bind f else (memory s).neighbourAt j)

include size inSlot

theorem neighbourAt_visitFrom (enough : (memory state).size - nextEntry ≤ rounds) :
    (memory (visitFrom memory .neighbour act rounds state nextEntry).1).neighbourAt j =
      if nextEntry ≤ j then ((memory state).neighbourAt j).bind f else (memory state).neighbourAt j := by
  induction rounds generalizing state nextEntry with
  | zero =>
    change (memory state).neighbourAt j = _
    split_ifs with later
    · rw [neighbourAt_outside (by omega)]
      rfl
    · rfl
  | succ rounds ih =>
    unfold visitFrom
    cases found : (memory state).findEntry .neighbour nextEntry with
    | none =>
      split_ifs with later
      · have unused : (memory state).neighbourAt j = none := by
          by_cases inside : j < (memory state).size
          · exact neighbourAt_eq_none (findEntry_none.mp found j later inside)
          · exact neighbourAt_outside (by omega)
        rw [unused]
        rfl
      · rfl
    | some i =>
      obtain ⟨low, inside, -, before⟩ := findEntry_some found
      dsimp only
      rw [ih (by rw [size]; omega), inSlot]
      obtain ahead | rfl | behind := Nat.lt_trichotomy i j
      · rw [if_pos (by omega), if_neg (by omega), if_pos (by omega)]
      · rw [if_neg (by omega), if_pos rfl, if_pos low]
      · rw [if_neg (by omega), if_neg (by omega)]
        split_ifs with later
        · rw [neighbourAt_eq_none (before j later behind)]
          rfl
        · rfl

theorem neighbourAt_visit :
    (memory (visit memory .neighbour act state).1).neighbourAt j = ((memory state).neighbourAt j).bind f :=
  (neighbourAt_visitFrom memory size inSlot (Nat.sub_le ..)).trans (if_pos (Nat.zero_le j))

end Local

end AddressMemory

namespace Router

variable {n : Nat} {r : Router n} {k k' : Fin n} {i j : Nat}

theorem size_freeNDPCacheEntry : ((r.freeNDPCacheEntry k i).memory k).size = (r.memory k).size := by
  unfold freeNDPCacheEntry
  rw [memory_setMemory, memory_clearDestinationCacheEntry, freeEntry, size_write]
  split_ifs
  · exact size_visit removeRouter_inSlot
  · rfl

theorem neighbourAt_releaseOldEntries :
    ((r.releaseOldEntries k).memory k).neighbourAt j = ((r.memory k).neighbourAt j).bind NDPCacheEntry.aged := by
  refine neighbourAt_visit (fun r : Router n => r.memory k) (fun r i => ?_) fun r i j => ?_
  · cases (r.memory k).neighbourAt i with
    | none => rfl
    | some entry =>
      dsimp only
      split_ifs
      · exact size_freeNDPCacheEntry
      · rw [memory_setMemory, modifyNeighbour, size_write]
      · rfl
  · by_cases here : j = i
    · subst here
      rw [if_pos rfl]
      cases old : (r.memory k).neighbourAt j with
      | none => exact old
      | some entry =>
        dsimp only [Option.bind_some, NDPCacheEntry.aged]
        split_ifs
        · rw [neighbourAt_freeNDPCacheEntry, if_pos rfl]
        · rw [memory_setMemory, neighbourAt_modifyNeighbour, if_pos rfl, old]
          rfl
        · exact old
    · rw [if_neg here]
      cases (r.memory k).neighbourAt i with
      | none => rfl
      | some entry =>
        dsimp only
        split_ifs
        · rw [neighbourAt_freeNDPCacheEntry, if_neg here]
        · rw [memory_setMemory, neighbourAt_modifyNeighbour, if_neg (Ne.symm here)]
        · rfl

theorem memory_releaseOldEntries_other (other : k' ≠ k) : (r.releaseOldEntries k).memory k' = r.memory k' := by
  refine visit_keeps (P := fun r' : Router n => r'.memory k' = r.memory k') rfl fun r' i same _ _ => ?_
  rw [← same]
  cases (r'.memory k).neighbourAt i with
  | none => rfl
  | some entry =>
    dsimp only
    split_ifs
    · exact memory_freeNDPCacheEntry_other other
    · exact memory_setMemory_other other
    · rfl

theorem memory_dropUnused_other (other : k' ≠ k) : (r.dropUnused k).memory k' = r.memory k' := by
  unfold dropUnused releaseEntryBelowImportance
  cases ((r.memory k).oldestEntry NDPCacheEntry.importanceGoodToKnow).1 with
  | none => rfl
  | some i => exact memory_freeNDPCacheEntry_other other

theorem neighbourAt_dropUnused (r : Router n) (k k' : Fin n) (j : Nat) :
    ((r.dropUnused k).memory k').neighbourAt j = (r.memory k').neighbourAt j ∨
      ((r.dropUnused k).memory k').neighbourAt j = none := by
  by_cases here : k' = k
  · subst here
    unfold dropUnused releaseEntryBelowImportance
    cases ((r.memory k').oldestEntry NDPCacheEntry.importanceGoodToKnow).1 with
    | none => exact .inl rfl
    | some i =>
      dsimp only
      rw [neighbourAt_freeNDPCacheEntry]
      split_ifs
      · exact .inr rfl
      · exact .inl rfl
  · exact .inl (by rw [memory_dropUnused_other here])

theorem neighbourAt_setMemory_modify {f : NDPCacheEntry → NDPCacheEntry} :
    ((r.setMemory k ((r.memory k).modifyNeighbour i f)).memory k').neighbourAt j =
      if k' = k ∧ j = i then ((r.memory k').neighbourAt j).map f else (r.memory k').neighbourAt j := by
  by_cases here : k' = k
  · subst here
    rw [memory_setMemory, neighbourAt_modifyNeighbour]
    exact if_congr (by rw [eq_comm, and_iff_right rfl]) rfl rfl
  · rw [memory_setMemory_other here, if_neg fun both => here both.1]

end Router

/-! ### Events -/

namespace ExpireState

variable {n : Nat} {s : ExpireState n} {k k' : Fin n} {i j : Nat} {v : BitVec 8} {e : ExpireEvent n}

theorem value_reserve (s : ExpireState n) (k k' : Fin n) (j : Nat) (addr : Ipv6Addr) (state : NDPCacheState) :
    (s.step (.reserve k addr state)).value k' j = s.value k' j ∧ (s.step (.reserve k addr state)).kept k' j = s.kept k' j ∨
      s.value k' j = none ∧ (s.step (.reserve k addr state)).value k' j = some 24 ∧
        (s.step (.reserve k addr state)).kept k' j = false := by
  unfold step
  dsimp only
  cases found : (s.router.memory k).findEntry .free 0 with
  | none => exact .inl ⟨rfl, rfl⟩
  | some i =>
    obtain ⟨-, inside, unused, -⟩ := findEntry_some found
    dsimp only [value, setKept, Router.reserveNDPCacheEntry]
    by_cases here : k' = k
    · subst here
      rw [Router.memory_setMemory, neighbourAt_write]
      by_cases slot : i = j
      · subst slot
        rw [neighbourAt_free unused, if_pos ⟨rfl, inside⟩, if_pos ⟨rfl, rfl⟩]
        exact .inr ⟨rfl, rfl, rfl⟩
      · rw [if_neg fun both => slot both.1, if_neg fun both => slot both.2.symm]
        exact .inl ⟨rfl, rfl⟩
    · rw [Router.memory_setMemory_other here, if_neg fun both => here both.1]
      exact .inl ⟨rfl, rfl⟩

theorem value_dropUnused (s : ExpireState n) (k k' : Fin n) (j : Nat) :
    (s.step (.dropUnused k)).value k' j = s.value k' j ∨ (s.step (.dropUnused k)).value k' j = none := by
  obtain same | freed := s.router.neighbourAt_dropUnused k k' j
  · exact .inl (congrArg (Option.map _) same)
  · exact .inr (congrArg (Option.map _) freed)

theorem value_useentry : (s.step (.useentry k i)).value k' j =
    if k' = k ∧ j = i then ((s.router.memory k').neighbourAt j).map (·.ipv6Useentry.expireValue) else s.value k' j := by
  dsimp only [value, step]
  rw [Router.neighbourAt_setMemory_modify, apply_ite (Option.map _), Option.map_map]
  rfl

theorem value_updateImportance {importanceLevel : NDPCacheEntryImportance} :
    (s.step (.updateImportance k i importanceLevel)).value k' j =
      if k' = k ∧ j = i then (s.value k' j).map (· ||| importanceLevel.code) else s.value k' j := by
  dsimp only [value, step, updateImportance]
  rw [Router.neighbourAt_setMemory_modify, apply_ite (Option.map _), Option.map_map, Option.map_map]
  rfl

theorem value_suspectUnreachable (s : ExpireState n) (k k' : Fin n) (j : Nat) (addr : Ipv6Addr) :
    (s.step (.suspectUnreachable k addr)).value k' j = s.value k' j ∧
        (s.step (.suspectUnreachable k addr)).kept k' j = s.kept k' j ∨
      (s.step (.suspectUnreachable k addr)).value k' j = (s.value k' j).map (fun _ => 0) ∧
        (s.step (.suspectUnreachable k addr)).kept k' j = false := by
  dsimp only [value, step, Router.suspectUnreachable]
  cases (s.router.memory k).ndpcacheFind addr with
  | none => exact .inl ⟨rfl, rfl⟩
  | some i =>
    dsimp only [setKept]
    rw [Router.neighbourAt_setMemory_modify]
    by_cases here : k' = k ∧ j = i
    · rw [if_pos here, if_pos here, Option.map_map, Option.map_map]
      exact .inr ⟨rfl, rfl⟩
    · rw [if_neg here, if_neg here]
      exact .inl ⟨rfl, rfl⟩

theorem value_releaseOldEntries : (s.step (.releaseOldEntries k)).value k' j =
    if k' = k then ((s.router.memory k').neighbourAt j).bind fun entry => entry.aged.map (·.expireValue)
    else s.value k' j := by
  dsimp only [value, step]
  split_ifs with here
  · subst here
    rw [Router.neighbourAt_releaseOldEntries, Option.map_bind]
    rfl
  · rw [Router.memory_releaseOldEntries_other here]

/-- What is left of an entry after a cycle. -/
theorem value_aged (before : s.value k i = some v) : (s.step (.releaseOldEntries k)).value k i = none ∨
    ∃ v', (s.step (.releaseOldEntries k)).value k i = some v' ∧ (v' = 255 ↔ v = 255) ∧
      (v ≠ 255 → v'.toNat + 5 ≤ v.toNat) := by
  obtain ⟨entry, here, rfl⟩ := Option.map_eq_some_iff.mp before
  rw [value_releaseOldEntries, if_pos rfl, here, Option.bind_some]
  obtain none | ⟨entry', left, fixed, lower⟩ := entry.aged_cases
  · rw [none]
    exact .inl rfl
  · rw [left]
    exact .inr ⟨_, rfl, fixed, lower⟩

/-! ### Entries that are not raised -/

/-- The entry is freed, or has at most the value it had, and less after a cycle. -/
def Sinks (s : ExpireState n) (e : ExpireEvent n) (k : Fin n) (i : Nat) (v : BitVec 8) : Prop :=
  (s.step e).value k i = none ∨ ∃ v', (s.step e).value k i = some v' ∧ v' ≠ 255 ∧ v'.toNat ≤ v.toNat ∧
    (e = .releaseOldEntries k → v'.toNat + 5 ≤ v.toNat)

theorem step_sinks (unraised : ¬Raises k i e) (before : s.value k i = some v) (loose : v ≠ 255) : s.Sinks e k i v := by
  have same : (s.step e).value k i = s.value k i → e ≠ .releaseOldEntries k → s.Sinks e k i v := fun same other =>
    .inr ⟨v, same.trans before, loose, le_rfl, fun cycle => absurd cycle other⟩
  cases e with
  | reserve k₀ addr state =>
    obtain ⟨unchanged, -⟩ | ⟨unused, -⟩ := value_reserve s k₀ k i addr state
    · exact same unchanged nofun
    · cases unused.symm.trans before
  | dropUnused k₀ =>
    obtain unchanged | freed := value_dropUnused s k₀ k i
    · exact same unchanged nofun
    · exact .inl freed
  | useentry k₀ i₀ => exact same (value_useentry.trans (if_neg fun here => unraised ⟨here.1.symm, here.2.symm⟩)) nofun
  | updateImportance k₀ i₀ importanceLevel =>
    exact same (value_updateImportance.trans (if_neg fun here => unraised ⟨here.1.symm, here.2.symm⟩)) nofun
  | suspectUnreachable k₀ addr =>
    obtain ⟨unchanged, -⟩ | ⟨suspected, -⟩ := value_suspectUnreachable s k₀ k i addr
    · exact same unchanged nofun
    · exact .inr ⟨0, by rw [suspected, before]; rfl, by decide, Nat.zero_le _, nofun⟩
  | releaseOldEntries k₀ =>
    by_cases here : k = k₀
    · subst here
      obtain freed | ⟨v', left, fixed, lower⟩ := value_aged before
      · exact .inl freed
      · have less := lower loose
        exact .inr ⟨v', left, fun eq => loose (fixed.mp eq), by omega, fun _ => less⟩
    · exact same (value_releaseOldEntries.trans (if_neg here)) fun eq => here (by cases eq; rfl)

/-- A cycle takes at least 5 from the value of an entry, or frees it. -/
theorem freedWithin_of_lt {cycles : Nat} (before : s.value k i = some v) (loose : v ≠ 255)
    (enough : v.toNat < 5 * cycles) : s.FreedWithin k i cycles := by
  intro events unraised long
  induction events generalizing s v cycles with
  | nil =>
    rw [List.count_nil] at long
    omega
  | cons e rest ih =>
    obtain ⟨first, later⟩ := List.forall_mem_cons.mp unraised
    obtain freed | ⟨v', left, loose', lower, cycle⟩ := step_sinks first before loose
    · exact ⟨[e], List.cons_prefix_cons.mpr ⟨rfl, List.nil_prefix⟩, freed⟩
    rw [List.count_cons] at long
    have counted : v'.toNat < 5 * (cycles - if e = .releaseOldEntries k then 1 else 0) := by
      split_ifs with here
      · have := cycle here
        omega
      · omega
    obtain ⟨l, shorter, freed⟩ := ih left loose' counted later (by
      rw [Nat.sub_le_iff_le_add]
      simpa [beq_iff_eq] using long)
    exact ⟨e :: l, List.cons_prefix_cons.mpr ⟨rfl, shorter⟩, freed⟩

theorem expires_iff : s.Expires ↔ s.KeepsExactly := by
  refine ⟨Expires.keeps, fun keeps => ⟨keeps, fun k i v here unkept => ?_⟩⟩
  have loose : v ≠ 255 := fun eq => by
    have kept := (keeps k i v here).mp eq
    rw [unkept] at kept
    cases kept
  exact freedWithin_of_lt here loose (by omega)

theorem step_keepsExactly (keeps : s.KeepsExactly) (e : ExpireEvent n) :
    s.UseRaises e ∧ (s.step e).KeepsExactly ↔ s.ExpiryExact e := by
  cases e with
  | reserve k addr state =>
    refine iff_of_true ⟨trivial, fun k' j v here => ?_⟩ trivial
    obtain ⟨same, kept⟩ | ⟨-, new, unkept⟩ := value_reserve s k k' j addr state
    · rw [kept]
      exact keeps k' j v (same.symm.trans here)
    · rw [unkept, ← Option.some.inj (new.symm.trans here)]
      decide
  | dropUnused k =>
    refine iff_of_true ⟨trivial, fun k' j v here => ?_⟩ trivial
    obtain same | freed := value_dropUnused s k k' j
    · exact keeps k' j v (same.symm.trans here)
    · cases freed.symm.trans here
  | useentry k i =>
    constructor
    · rintro ⟨raises, -⟩ v here
      obtain ⟨entry, there, rfl⟩ := Option.map_eq_some_iff.mp here
      obtain ⟨v', used, le⟩ := raises _ here
      rw [value_useentry, if_pos ⟨rfl, rfl⟩, there] at used
      cases used
      exact NDPCacheEntry.le_useentry.mp le
    · intro exact
      refine ⟨fun v here => ?_, fun k' j v here => ?_⟩
      · obtain ⟨entry, there, rfl⟩ := Option.map_eq_some_iff.mp here
        refine ⟨entry.ipv6Useentry.expireValue, ?_, NDPCacheEntry.le_useentry.mpr (exact _ here)⟩
        rw [value_useentry, if_pos ⟨rfl, rfl⟩, there]
        rfl
      · change v = 255 ↔ s.kept k' j = true
        rw [value_useentry] at here
        split_ifs at here with slot
        · obtain ⟨rfl, rfl⟩ := slot
          obtain ⟨entry, there, rfl⟩ := Option.map_eq_some_iff.mp here
          have before : s.value k' j = some entry.expireValue := Option.map_eq_some_iff.mpr ⟨entry, there, rfl⟩
          refine iff_of_false NDPCacheEntry.useentry_ne fun kept => ?_
          have fixed := (keeps k' j _ before).mpr kept
          exact exact _ before (by rw [fixed]; decide)
        · exact keeps k' j v here
  | updateImportance k i importanceLevel =>
    have other : ∀ k' j, ¬(k' = k ∧ j = i) → ∀ v,
        (s.step (.updateImportance k i importanceLevel)).value k' j = some v →
        (v = 255 ↔ (s.step (.updateImportance k i importanceLevel)).kept k' j = true) := by
      intro k' j elsewhere v here
      rw [value_updateImportance, if_neg elsewhere] at here
      have kept : s.setKept k i true k' j = s.kept k' j := if_neg elsewhere
      dsimp only [step]
      split_ifs
      · rw [kept]
        exact keeps k' j v here
      · exact keeps k' j v here
    have raised : ∀ v, s.value k i = some v →
        (s.step (.updateImportance k i importanceLevel)).value k i = some (v ||| importanceLevel.code) := fun v here => by
      rw [value_updateImportance, if_pos ⟨rfl, rfl⟩, here]
      rfl
    constructor
    · rintro ⟨-, later⟩ level v here loose none
      have fixed := NDPCacheEntry.important_ne_iff.mpr none
      have kept : (if importanceLevel = .alwaysKeep then s.setKept k i true else s.kept) k i = true :=
        (later k i _ (raised v here)).mp fixed
      rw [if_neg level] at kept
      exact loose ((keeps k i v here).mpr kept)
    · intro exact
      refine ⟨trivial, fun k' j v here => ?_⟩
      by_cases slot : k' = k ∧ j = i
      case neg => exact other k' j slot v here
      obtain ⟨rfl, rfl⟩ := slot
      rw [value_updateImportance, if_pos ⟨rfl, rfl⟩] at here
      obtain ⟨before, there, rfl⟩ := Option.map_eq_some_iff.mp here
      change _ ↔ (if importanceLevel = .alwaysKeep then s.setKept k' j true else s.kept) k' j = true
      by_cases level : importanceLevel = .alwaysKeep
      · subst level
        rw [if_pos rfl]
        exact iff_of_true (BitVec.or_allOnes (x := before)) (if_pos ⟨rfl, rfl⟩)
      · rw [if_neg level, ← keeps k' j before there]
        constructor
        · intro fixed
          by_contra loose
          exact exact level before there loose (NDPCacheEntry.important_ne_iff.mp fixed)
        · rintro rfl
          exact BitVec.allOnes_or
  | suspectUnreachable k addr =>
    refine iff_of_true ⟨trivial, fun k' j v here => ?_⟩ trivial
    obtain ⟨same, kept⟩ | ⟨suspected, unkept⟩ := value_suspectUnreachable s k k' j addr
    · rw [kept]
      exact keeps k' j v (same.symm.trans here)
    · rw [suspected] at here
      obtain ⟨-, -, rfl⟩ := Option.map_eq_some_iff.mp here
      rw [unkept]
      decide
  | releaseOldEntries k =>
    refine iff_of_true ⟨trivial, fun k' j v here => ?_⟩ trivial
    change v = 255 ↔ s.kept k' j = true
    by_cases cycle : k' = k
    · subst cycle
      cases before : s.value k' j with
      | none =>
        rw [value_releaseOldEntries, if_pos rfl, Option.map_eq_none_iff.mp before] at here
        cases here
      | some old =>
        obtain freed | ⟨v', left, fixed, -⟩ := value_aged before
        · cases freed.symm.trans here
        · cases left.symm.trans here
          rw [fixed]
          exact keeps k' j old before
    · rw [value_releaseOldEntries, if_neg cycle] at here
      exact keeps k' j v here

/-- What `addNDPCacheEntry` does to the values: an unknown address is reserved, if need be after
an unused entry is dropped, and the entry of a known one keeps its value. -/
theorem addNDPCacheEntry_unknown {addr : Ipv6Addr} {state : NDPCacheState}
    (unknown : (s.router.memory k).ndpcacheFind addr = none) : ∃ dropped : List (ExpireEvent n),
      dropped ⊆ [.dropUnused k] ∧
        (s.router.addNDPCacheEntry k addr state).1 = ((dropped ++ [ExpireEvent.reserve k addr state]).foldl step s).router := by
  unfold Router.addNDPCacheEntry
  rw [unknown]
  cases free : (s.router.memory k).findEntry .free 0 with
  | some i =>
    refine ⟨[], List.nil_subset _, ?_⟩
    change _ = (s.step (.reserve k addr state)).router
    dsimp only [step]
    rw [free]
  | none =>
    refine ⟨[.dropUnused k], List.Subset.refl _, ?_⟩
    change _ = ((s.step (.dropUnused k)).step (.reserve k addr state)).router
    dsimp only [step]
    cases ((s.router.dropUnused k).memory k).findEntry .free 0 with
    | none => rfl
    | some i => rfl

theorem addNDPCacheEntry_known {addr : Ipv6Addr} {state : NDPCacheState}
    (known : (s.router.memory k).ndpcacheFind addr = some i) :
    (⟨(s.router.addNDPCacheEntry k addr state).1, s.kept⟩ : ExpireState n).value k' j = s.value k' j := by
  dsimp only [value, Router.addNDPCacheEntry]
  rw [known, Router.neighbourAt_setMemory_modify]
  split_ifs
  · rw [Option.map_map]
    rfl
  · rfl

end ExpireState

open ExpireState in
/-- From empty caches on, uses never lower a value and entries expire as they should in exactly
the runs without a use of an entry with an odd value from 251 on and without an importance that
completes the bits of a value. -/
theorem expires_run_iff {n : Nat} (r : Router n) (empty : ∀ k i, (r.memory k).neighbourAt i = none)
    (events : List (ExpireEvent n)) :
    Follows step UseRaises (start r) events ∧ (∀ l, l <+: events → (l.foldl step (start r)).Expires) ↔
      Follows step ExpiryExact (start r) events := by
  refine Follows.iff_forall_prefix_and (fun s e expires => ?_) (expires_iff.mpr fun k i v here => ?_) events
  · rw [expires_iff]
    exact step_keepsExactly expires.keeps e
  · dsimp only [value, start] at here
    rw [empty] at here
    cases here

namespace ExpireState.Sample

theorem oneSlot : 1 < 256 := by decide

/-- One interface whose memory has room for an entry. -/
def router : Router 1 := ⟨fun _ => ⟨.construct ⟨1, oneSlot⟩, .replicate 6 0, true⟩, []⟩

def reserved : ExpireEvent 1 := .reserve ⟨0, Nat.one_pos⟩ unspecifiedIPv6Address .reachable

def used : ExpireEvent 1 := .useentry ⟨0, Nat.one_pos⟩ 0

def raise (importanceLevel : NDPCacheEntryImportance) : ExpireEvent 1 :=
  .updateImportance ⟨0, Nat.one_pos⟩ 0 importanceLevel

def cycle : ExpireEvent 1 := .releaseOldEntries ⟨0, Nat.one_pos⟩

theorem router_empty (k : Fin 1) (i : Nat) : (router.memory k).neighbourAt i = none :=
  congrArg Slot.neighbour? (List.getElem?_getD_replicate_default_eq Slot.free 1 i)

end ExpireState.Sample

open ExpireState Sample in
/-- The value of an entry that is kept wraps when the entry is used. -/
theorem keptEntry_used : ∃ (r : Router 1) (events : List (ExpireEvent 1)), (∀ k i, (r.memory k).neighbourAt i = none) ∧
    ¬(Follows step UseRaises (start r) events ∧ ∀ l, l <+: events → (l.foldl step (start r)).Expires) := by
  refine ⟨router, [reserved, raise .alwaysKeep, used], router_empty, fun both => ?_⟩
  have last := (both.2 _ List.prefix_rfl).keeps ⟨0, Nat.one_pos⟩ 0 4 (by decide +kernel)
  exact absurd (last.mpr (by decide +kernel)) (by decide)

open ExpireState Sample in
/-- The values of an entry that is never kept reach 255 by the importances of routers and
renewals alone. -/
example : ([reserved, raise .solicitationRenew, raise .router, cycle, raise .solicitationRenew, used,
    raise .solicitationRenew, raise .router, cycle, raise .solicitationRenew, raise .router, used,
    raise .solicitationRenew, raise .router, cycle, raise .solicitationRenew, raise .router, used,
    raise .solicitationRenew, cycle, raise .solicitationRenew, used, raise .solicitationRenew,
    cycle, raise .solicitationRenew].foldl step (start router)).value ⟨0, Nat.one_pos⟩ 0 = some 255 := by decide +kernel

open ExpireState Sample in
theorem expires_run_router :
    (Follows step UseRaises (start router) [reserved, raise .router, cycle, used] ∧
      ∀ l, l <+: [reserved, raise .router, cycle, used] → (l.foldl step (start router)).Expires) ↔
    Follows step ExpiryExact (start router) [reserved, raise .router, cycle, used] :=
  expires_run_iff router router_empty [reserved, raise .router, cycle, used]

end IPStack
