import IPStack.Ipv6.RouterAdvertisement

/-! The addresses of an interface after a router advertisement, and after the same
advertisement again. -/

namespace IPStack

open AddressMemory NDPMessages NDPRouterAdvertisement

/-! ### The messages and what they ask for -/

/-- The options fill the message, each with the pointer to it; a prefix information has 32 bytes. -/
inductive NDPMessages.Options : Bytes → BitVec 32 → List Bytes → Prop where
  | done {data : Bytes} : Options data 0 []
  | next {data : Bytes} {remaining : BitVec 32} {options : List Bytes} (nonempty : optionLength data ≠ 0)
      (fits : optionLength data ≤ remaining) (whole : optionType data = 3 → optionLength data = OptionPrefixInformation.size)
      (rest : Options (data.drop (optionLength data).toNat) (remaining - optionLength data) options) :
      Options data remaining (data :: options)

structure RouterAdvertisementMessage.WellFormed (message : RouterAdvertisementMessage) (payloadlen : BitVec 32)
    (options : List Bytes) : Prop where
  type : message.type = 134
  code : message.code = 0
  header : RouterAdvertisementMessage.size ≤ payloadlen
  options : NDPMessages.Options message.options (payloadlen - RouterAdvertisementMessage.size) options

/-- The prefix informations that are meant for autoconfiguration. -/
def autoconfigurationPrefixes (options : List Bytes) : List Ipv6Addr :=
  (options.filter fun option => optionType option = 3 &&
    OptionPrefixInformation.useForStatelessAddressConfiguration option).map OptionPrefixInformation.ipv6Prefix

/-- An address made of a 64-bit prefix. -/
def AddressEntry.DerivedFrom (e : AddressEntry) (ipv6Prefix : Ipv6Addr) : Prop :=
  e.prefixlen = 64 ∧ ∀ i : Fin 8, e.ipv6[i.val] = ipv6Prefix[i.val]

/-- The addresses attributed to a router are exactly one for each prefix. -/
structure OnePerPrefix (m : AddressMemory) (routerPosition : Nat) (prefixes : List Ipv6Addr) : Prop where
  one : ∀ p ∈ prefixes, ∃! i, ∃ e, m.addressAt i = some e ∧ e.routerEntryPosition = routerPosition ∧ e.DerivedFrom p
  only : ∀ i e, m.addressAt i = some e → e.routerEntryPosition = routerPosition → ∃ p ∈ prefixes, e.DerivedFrom p

def AddressEntry.withoutLifetimes (e : AddressEntry) : AddressEntry :=
  { e with validTimeMinutes := 0, preferredTimeMinutes := 0 }

def SameButLifetimes (m m' : AddressMemory) : Prop :=
  ∀ i, (m.getEntryAtPosition i).mapAddress AddressEntry.withoutLifetimes =
    (m'.getEntryAtPosition i).mapAddress AddressEntry.withoutLifetimes

/-- What a router advertisement is to do: it leaves one address for each prefix, and the
same advertisement again changes lifetimes only, so it removes no address. -/
def Maintains {n : Nat} (r : Router n) (k : Fin n) (src : Ipv6Addr) (message : RouterAdvertisementMessage)
    (payloadlen : BitVec 32) (routerPosition : Nat) (prefixes : List Ipv6Addr) : Prop :=
  ∃ fuel r₁ fuel' r₂, r.receiveRouterAdvertisement fuel k src message payloadlen = some r₁ ∧
    r₁.receiveRouterAdvertisement fuel' k src message payloadlen = some r₂ ∧
    OnePerPrefix (r₁.memory k) routerPosition prefixes ∧ SameButLifetimes (r₁.memory k) (r₂.memory k)

variable {n : Nat} {r r' : Router n} {k : Fin n} {src : Ipv6Addr} {message : RouterAdvertisementMessage}
  {payloadlen remaining : BitVec 32} {routerPosition fuel nextEntry i j rounds : Nat} {m m' : AddressMemory}
  {interface : Ipv6Interface} {option data : Bytes} {options : List Bytes} {foundMac : Bool} {e : AddressEntry} {s : Slot}

/-! ### The passes, slot by slot -/

def flag (routerPosition : Nat) (e : AddressEntry) : AddressEntry :=
  if e.routerEntryPosition = routerPosition then { e with toBeRemoved := true } else e

def sweep (routerPosition : Nat) : Slot → Slot
  | .address e => if e.routerEntryPosition = routerPosition ∧ e.toBeRemoved then .free else .address e
  | other => other

/-- The slot that `addPrefix` writes: of the address found, or of the one it makes. -/
def NDPRouterAdvertisement.renewedSlot (routerPosition : Nat) (option : Bytes) (m : AddressMemory) (nextEntry : Nat) :
    Option Nat :=
  if !OptionPrefixInformation.useForStatelessAddressConfiguration option then none
  else (findPrefix routerPosition option m m.size nextEntry).1.or (m.findEntry .free 0)

theorem flagAll_entry : (flagAll routerPosition m).1.getEntryAtPosition j =
    (m.getEntryAtPosition j).mapAddress (flag routerPosition) := by
  have inSlot : ∀ (m : AddressMemory) i, (m.modifyAddress i fun entry =>
      if entry.routerEntryPosition = routerPosition then { entry with toBeRemoved := true } else entry) =
      m.write i ((m.getEntryAtPosition i).mapAddress (flag routerPosition)) := fun _ _ => rfl
  rw [flagAll, visit_entry inSlot (by decide)]
  cases m.getEntryAtPosition j <;> rfl

theorem lt_flagAll (used : m.addressAt j = some e) : j < (flagAll routerPosition m).2 := by
  refine lt_visit (f := Slot.mapAddress (flag routerPosition)) (fun _ _ => rfl) (by decide) ?_
  rw [Slot.address?_eq_some.mp used]
  rfl

theorem removeFlagged_inSlot (m : AddressMemory) (i : Nat) :
    (if (m.addressAt i).any fun entry => entry.routerEntryPosition = routerPosition && entry.toBeRemoved then
      m.freeEntry i else m) = m.write i (sweep routerPosition (m.getEntryAtPosition i)) := by
  unfold addressAt
  cases entry : m.getEntryAtPosition i with
  | address e =>
    by_cases flagged : e.routerEntryPosition = routerPosition ∧ e.toBeRemoved
    · simp [Slot.address?, sweep, flagged, freeEntry]
    · rw [sweep, if_neg flagged, ← entry, write_same, if_neg]
      simpa [Slot.address?, entry] using flagged
  | free => simp [Slot.address?, sweep, ← entry]
  | neighbour e => simp [Slot.address?, sweep, ← entry]
  | multicast e => simp [Slot.address?, sweep, ← entry]

theorem size_removeFlagged : (removeFlagged routerPosition m).size = m.size := size_visit removeFlagged_inSlot

theorem removeFlagged_entry :
    (removeFlagged routerPosition m).getEntryAtPosition j = sweep routerPosition (m.getEntryAtPosition j) := by
  rw [removeFlagged, visit_entry removeFlagged_inSlot (by decide)]
  cases m.getEntryAtPosition j <;> rfl

theorem le_findPrefix : nextEntry ≤ (findPrefix routerPosition option m rounds nextEntry).2 := by
  induction rounds generalizing nextEntry with
  | zero => exact le_refl _
  | succ rounds ih =>
    unfold findPrefix
    cases found : m.findEntry .address nextEntry with
    | none => exact le_refl _
    | some i =>
      have after := (findEntry_some found).1
      dsimp only
      split_ifs
      · dsimp only
        omega
      · exact (by omega : nextEntry ≤ i + 1).trans ih

/-- The search finds no address before `nextEntry`. -/
theorem findPrefix_some (found : (findPrefix routerPosition option m rounds nextEntry).1 = some i) :
    nextEntry ≤ i ∧ i < m.size ∧ ∃ e, m.addressAt i = some e ∧ e.routerEntryPosition = routerPosition := by
  induction rounds generalizing nextEntry with
  | zero => cases found
  | succ rounds ih =>
    unfold findPrefix at found
    cases first : m.findEntry .address nextEntry with
    | none =>
      rw [first] at found
      cases found
    | some j =>
      obtain ⟨after, inside, -, -⟩ := findEntry_some first
      rw [first] at found
      dsimp only at found
      split_ifs at found with made
      · cases found
        cases here : m.addressAt i with
        | none =>
          rw [here] at made
          cases made
        | some e =>
          rw [here] at made
          exact ⟨after, inside, e, rfl, of_decide_eq_true (Bool.and_eq_true_iff.mp made).1⟩
      · obtain ⟨later, rest⟩ := ih found
        exact ⟨by omega, rest⟩

/-- What one prefix option can do: nothing but move `nextEntry` on, or write an address of the
router, over one that is not before `nextEntry` or into a free slot. -/
theorem addPrefix_cases (interface : Ipv6Interface) (message : RouterAdvertisementMessage) (routerPosition : Nat)
    (option : Bytes) (m : AddressMemory) (nextEntry : Nat) :
    ∃ later, nextEntry ≤ later ∧
      (renewedSlot routerPosition option m nextEntry = none ∧
          addPrefix interface message routerPosition option m nextEntry = (m, later) ∨
        ∃ i e, renewedSlot routerPosition option m nextEntry = some i ∧
          addPrefix interface message routerPosition option m nextEntry =
            (m.write i (.address (refreshPrefix message option e)), later) ∧
          i < m.size ∧ e.routerEntryPosition = routerPosition ∧
          (nextEntry ≤ i ∧ (∃ old, m.addressAt i = some old ∧ old.routerEntryPosition = routerPosition) ∨
            (m.getEntryAtPosition i).id = .free)) := by
  unfold renewedSlot addPrefix
  by_cases unused : (!OptionPrefixInformation.useForStatelessAddressConfiguration option) = true
  · rw [if_pos unused, if_pos unused]
    exact ⟨nextEntry, le_refl _, .inl ⟨rfl, rfl⟩⟩
  rw [if_neg unused, if_neg unused]
  refine ⟨(findPrefix routerPosition option m m.size nextEntry).2, le_findPrefix, ?_⟩
  cases search : (findPrefix routerPosition option m m.size nextEntry).1 with
  | some i =>
    obtain ⟨after, inside, old, here, mine⟩ := findPrefix_some search
    refine .inr ⟨i, old, rfl, ?_, inside, mine, .inl ⟨after, old, here, mine⟩⟩
    dsimp only
    rw [search]
    dsimp only
    rw [modifyAddress, Slot.address?_eq_some.mp here, Slot.mapAddress]
  | none =>
    rw [Option.none_or]
    cases found : m.findEntry .free 0 with
    | none =>
      refine .inl ⟨rfl, ?_⟩
      dsimp only
      rw [search]
      simp only [Ipv6Interface.makeIPv6AddressByPrefix, found]
    | some i =>
      obtain ⟨-, inside, kind, -⟩ := findEntry_some found
      refine .inr ⟨i, interface.newAddress (OptionPrefixInformation.ipv6Prefix option)
        (OptionPrefixInformation.prefixLength option) routerPosition, rfl, ?_, inside, rfl, .inr kind⟩
      dsimp only
      rw [search]
      simp only [Ipv6Interface.makeIPv6AddressByPrefix, found, modifyAddress, getEntryAtPosition_write, inside,
        and_self, if_true, Slot.mapAddress, write_write]

/-! ### The neighbour cache -/

theorem addPrefixes_none : addPrefixes interface message routerPosition fuel m nextEntry none remaining = some m := by
  cases fuel <;> rfl

/-- What every prefix option keeps, the loop over the options keeps. -/
theorem addPrefixes_keeps {P : AddressMemory → Nat → Prop} {option : Option Bytes}
    (ended : addPrefixes interface message routerPosition fuel m nextEntry option remaining = some m')
    (start : P m nextEntry)
    (round : ∀ option m nextEntry, P m nextEntry →
      P (addPrefix interface message routerPosition option m nextEntry).1
        (addPrefix interface message routerPosition option m nextEntry).2) :
    ∃ later, P m' later := by
  induction fuel generalizing m nextEntry option remaining with
  | zero =>
    cases option with
    | none =>
      cases ended
      exact ⟨nextEntry, start⟩
    | some option => cases ended
  | succ fuel ih =>
    cases option with
    | none =>
      rw [addPrefixes_none] at ended
      cases ended
      exact ⟨nextEntry, start⟩
    | some option => exact ih ended (round option m nextEntry start)

/-- The same for the second pass, between the flags and the removal of what is flagged. -/
theorem updatePrefixes_keeps {P : AddressMemory → Nat → Prop}
    (ended : updatePrefixes fuel interface message remaining routerPosition m = some m')
    (start : P (flagAll routerPosition m).1 (flagAll routerPosition m).2)
    (round : ∀ option m nextEntry, P m nextEntry →
      P (addPrefix interface message routerPosition option m nextEntry).1
        (addPrefix interface message routerPosition option m nextEntry).2) :
    ∃ added later, P added later ∧ m' = removeFlagged routerPosition added := by
  unfold updatePrefixes at ended
  obtain ⟨added, passed, rfl⟩ := Option.map_eq_some_iff.mp ended
  split_ifs at passed
  · cases passed
    exact ⟨_, _, start, rfl⟩
  · obtain ⟨later, kept⟩ := addPrefixes_keeps passed start round
    exact ⟨added, later, kept, rfl⟩

theorem addPrefix_sameNeighbours :
    m.SameNeighbours (addPrefix interface message routerPosition option m nextEntry).1 := by
  obtain ⟨later, -, ⟨-, same⟩ | ⟨i, e, -, written, -, -, place⟩⟩ :=
    addPrefix_cases interface message routerPosition option m nextEntry
  · rw [same]
    exact .refl m
  · rw [written]
    refine .write_unused ?_ rfl
    rcases place with ⟨-, old, here, -⟩ | unused
    · rw [Slot.address?_eq_some.mp here]
      nofun
    · rw [unused]
      decide

theorem flagAll_sameNeighbours : m.SameNeighbours (flagAll routerPosition m).1 := by
  refine ⟨size_visit fun _ _ => rfl, fun i => ?_⟩
  unfold neighbourAt
  rw [flagAll_entry, Slot.neighbour?_mapAddress]

theorem removeFlagged_sameNeighbours : m.SameNeighbours (removeFlagged routerPosition m) := by
  refine ⟨size_removeFlagged, fun i => ?_⟩
  unfold neighbourAt
  rw [removeFlagged_entry]
  cases m.getEntryAtPosition i with
  | address e =>
    dsimp only [sweep]
    split_ifs <;> rfl
  | _ => rfl

theorem updatePrefixes_sameNeighbours
    (ended : updatePrefixes fuel interface message remaining routerPosition m = some m') : m.SameNeighbours m' := by
  obtain ⟨added, -, kept, rfl⟩ := updatePrefixes_keeps (P := fun m' _ => (flagAll routerPosition m).1.SameNeighbours m')
    ended (.refl _) fun _ _ _ same => same.trans addPrefix_sameNeighbours
  exact (flagAll_sameNeighbours.trans kept).trans removeFlagged_sameNeighbours

/-! ### A flagged address that is not found again -/

/-- An address before `nextEntry` is not touched, and stays before it. -/
theorem addPrefix_kept (interface : Ipv6Interface) (message : RouterAdvertisementMessage) (routerPosition : Nat)
    (option : Bytes) (used : (m.getEntryAtPosition j).id = .address) (behind : j < nextEntry) :
    (addPrefix interface message routerPosition option m nextEntry).1.getEntryAtPosition j = m.getEntryAtPosition j ∧
      j < (addPrefix interface message routerPosition option m nextEntry).2 := by
  obtain ⟨later, after, ⟨-, same⟩ | ⟨i, e, -, written, -, -, place⟩⟩ :=
    addPrefix_cases interface message routerPosition option m nextEntry
  · rw [same]
    exact ⟨rfl, by dsimp only; omega⟩
  · rw [written]
    refine ⟨getEntryAtPosition_write_other ?_, by dsimp only; omega⟩
    rintro rfl
    rcases place with ⟨notBefore, -⟩ | unused
    · omega
    · rw [unused] at used
      cases used

/-- Every address of the router that was there before is removed. -/
theorem updatePrefixes_removes (ended : updatePrefixes fuel interface message remaining routerPosition m = some m')
    (used : m.addressAt j = some e) (mine : e.routerEntryPosition = routerPosition) :
    m'.getEntryAtPosition j = .free := by
  have here := Slot.address?_eq_some.mp used
  have flagged : (flagAll routerPosition m).1.getEntryAtPosition j = .address { e with toBeRemoved := true } := by
    rw [flagAll_entry, here, Slot.mapAddress, flag, if_pos mine]
  obtain ⟨added, -, ⟨kept, -⟩, rfl⟩ := updatePrefixes_keeps (P := fun m' nextEntry =>
      m'.getEntryAtPosition j = .address { e with toBeRemoved := true } ∧ j < nextEntry) ended ⟨flagged, lt_flagAll used⟩
    fun option m' nextEntry ⟨same, before⟩ => by
      obtain ⟨kept, later⟩ := addPrefix_kept interface message routerPosition option (by rw [same]; rfl) before
      exact ⟨kept.trans same, later⟩
  rw [removeFlagged_entry, kept, sweep]
  exact if_pos ⟨mine, rfl⟩

/-! ### The entry of the router -/

/-- What an advertisement changes in the entry of its router. -/
def refreshed (message : RouterAdvertisementMessage) (foundMac : Bool) (e : NDPCacheEntry) : NDPCacheEntry :=
  { e with
    expireValue := if foundMac then e.expireValue ||| NDPCacheEntry.importanceRouter else e.expireValue
    isRouting := message.routerLifetime ≠ 0 }

theorem refreshed_refreshed {e : NDPCacheEntry} :
    refreshed message foundMac (refreshed message foundMac e) = refreshed message foundMac e := by
  cases foundMac
  · rfl
  · simp [refreshed, BitVec.or_assoc]

theorem refreshRouter_eq : refreshRouter message foundMac routerPosition m =
    m.modifyNeighbour routerPosition (refreshed message foundMac) := by
  cases foundMac with
  | false => rfl
  | true => exact modifyNeighbour_modifyNeighbour

theorem refreshRouter_find : (refreshRouter message foundMac routerPosition m).ndpcacheFind src = m.ndpcacheFind src := by
  rw [refreshRouter_eq]
  refine ndpcacheFind_congr size_write fun i => ?_
  rw [neighbourAt_modifyNeighbour]
  split_ifs
  · cases m.neighbourAt i <;> rfl
  · rfl

/-- The entry of the router that an advertisement comes from. -/
def Router.advertisingRouter (r : Router n) (k : Fin n) (src : Ipv6Addr) (foundMac : Bool) : Router n × Option Nat :=
  match (r.memory k).ndpcacheFind src with
  | some i => (r, some i)
  | none => r.addNDPCacheEntry k src (if foundMac then .stale else .incomplete)

/-- What a message can do: nothing if it is no advertisement; else the entry of its router is
found or made, and if there is one the addresses of the router are updated. -/
theorem Router.receiveRouterAdvertisement_cases
    (received : r.receiveRouterAdvertisement fuel k src message payloadlen = some r') :
    (¬(message.type = 134 ∧ message.code = 0) ∨ payloadlen < RouterAdvertisementMessage.size) ∧ r' = r ∨
    ((message.type = 134 ∧ message.code = 0) ∧ ¬payloadlen < RouterAdvertisementMessage.size) ∧
      ∃ foundMac, getOptionLinklayerAddress .sourceLinkLayer message.options
          (payloadlen - RouterAdvertisementMessage.size) = foundMac ∧
        ((r.advertisingRouter k src foundMac).2 = none ∧ r' = (r.advertisingRouter k src foundMac).1 ∨
          ∃ routerPosition m, (r.advertisingRouter k src foundMac).2 = some routerPosition ∧
            updatePrefixes fuel ((r.advertisingRouter k src foundMac).1.interfaces k) message
              (payloadlen - RouterAdvertisementMessage.size) routerPosition (refreshRouter message foundMac routerPosition
                ((r.advertisingRouter k src foundMac).1.memory k)) = some m ∧
            r' = (r.advertisingRouter k src foundMac).1.setMemory k m) := by
  unfold receiveRouterAdvertisement at received
  by_cases kind : message.type = 134 ∧ message.code = 0
  case neg =>
    rw [if_pos kind] at received
    exact .inl ⟨.inl kind, (Option.some.inj received).symm⟩
  rw [if_neg (not_not.mpr kind)] at received
  by_cases short : payloadlen < RouterAdvertisementMessage.size
  case pos =>
    rw [if_pos short] at received
    exact .inl ⟨.inr short, (Option.some.inj received).symm⟩
  rw [if_neg short] at received
  refine .inr ⟨⟨kind, short⟩, _, rfl, ?_⟩
  dsimp only at received
  generalize getOptionLinklayerAddress .sourceLinkLayer message.options
    (payloadlen - RouterAdvertisementMessage.size) = foundMac at received ⊢
  unfold advertisingRouter
  cases known : (r.memory k).ndpcacheFind src with
  | some i =>
    rw [known] at received
    obtain ⟨m, updated, same⟩ := Option.map_eq_some_iff.mp received
    exact .inr ⟨i, m, rfl, updated, same.symm⟩
  | none =>
    rw [known] at received
    dsimp only at received ⊢
    generalize r.addNDPCacheEntry k src (if foundMac then .stale else .incomplete) = added at received ⊢
    obtain ⟨r₀, entry⟩ := added
    cases entry with
    | none => exact .inl ⟨rfl, (Option.some.inj received).symm⟩
    | some routerPosition =>
      obtain ⟨m, updated, same⟩ := Option.map_eq_some_iff.mp received
      exact .inr ⟨routerPosition, m, rfl, updated, same.symm⟩

theorem receive_eq (wellFormed : message.WellFormed payloadlen options)
    (known : (r.memory k).ndpcacheFind src = some routerPosition) :
    r.receiveRouterAdvertisement fuel k src message payloadlen =
      (updatePrefixes fuel (r.interfaces k) message (payloadlen - RouterAdvertisementMessage.size) routerPosition
        (refreshRouter message (getOptionLinklayerAddress .sourceLinkLayer message.options
          (payloadlen - RouterAdvertisementMessage.size)) routerPosition (r.memory k))).map (r.setMemory k) := by
  unfold Router.receiveRouterAdvertisement
  rw [if_neg (not_not.mpr ⟨wellFormed.type, wellFormed.code⟩), if_neg (BitVec.not_lt.mpr wellFormed.header)]
  dsimp only
  rw [known]

/-- The same advertisement again finds the same router, and removes all its addresses. -/
theorem received_again (wellFormed : message.WellFormed payloadlen options)
    (known : (r.memory k).ndpcacheFind src = some routerPosition)
    (first : r.receiveRouterAdvertisement fuel k src message payloadlen = some r') :
    (r'.memory k).ndpcacheFind src = some routerPosition := by
  rw [receive_eq wellFormed known] at first
  obtain ⟨m', updated, rfl⟩ := Option.map_eq_some_iff.mp first
  rw [Router.memory_setMemory, (updatePrefixes_sameNeighbours updated).find, refreshRouter_find, known]

theorem received_removes (wellFormed : message.WellFormed payloadlen options)
    (known : (r.memory k).ndpcacheFind src = some routerPosition)
    (received : r.receiveRouterAdvertisement fuel k src message payloadlen = some r')
    (used : (r.memory k).addressAt j = some e) (mine : e.routerEntryPosition = routerPosition) :
    (r'.memory k).getEntryAtPosition j = .free := by
  rw [receive_eq wellFormed known] at received
  obtain ⟨m', updated, rfl⟩ := Option.map_eq_some_iff.mp received
  rw [Router.memory_setMemory]
  refine updatePrefixes_removes updated ?_ mine
  rw [refreshRouter_eq, addressAt_modifyNeighbour, used]

/-! ### An advertisement without autoconfiguration -/

theorem getOption_of_matching (nonempty : optionLength option ≠ 0) (fits : optionLength option ≤ remaining) :
    getOption (optionType option) option remaining = some option := by
  unfold getOption findOption
  rw [if_neg (not_or.mpr ⟨nonempty, BitVec.not_lt.mpr fits⟩), if_pos rfl]

theorem getOption_of_short (short : remaining < optionLength option) {type : BitVec 8} :
    getOption type option remaining = none := by
  unfold getOption findOption
  rw [if_pos (.inr short)]

/-- The option found is one of the message's, and inside it. -/
theorem findOption_mem {type : BitVec 8} (parts : NDPMessages.Options data remaining options)
    (found : findOption type rounds data remaining = some option) :
    option ∈ options ∧ optionType option = type ∧ optionLength option ≤ remaining ∧
      (type = 3 → optionLength option = OptionPrefixInformation.size) := by
  induction parts generalizing rounds with
  | @done data =>
    cases rounds with
    | zero => cases found
    | succ rounds =>
      unfold findOption at found
      rw [if_pos] at found
      · cases found
      · by_cases empty : optionLength data = 0
        · exact .inl empty
        · exact .inr (BitVec.lt_def.mpr (Nat.pos_of_ne_zero fun zero => empty (BitVec.eq_of_toNat_eq zero)))
  | @next data remaining options nonempty fits whole rest ih =>
    cases rounds with
    | zero => cases found
    | succ rounds =>
      unfold findOption at found
      rw [if_neg (not_or.mpr ⟨nonempty, BitVec.not_lt.mpr fits⟩)] at found
      split_ifs at found with matching
      · cases found
        exact ⟨List.mem_cons_self, matching, fits, fun three => whole (matching.trans three)⟩
      · obtain ⟨member, kind, inside, size⟩ := ih found
        refine ⟨List.mem_cons_of_mem _ member, kind, ?_, size⟩
        rw [BitVec.le_def, BitVec.toNat_sub_of_le fits] at inside
        rw [BitVec.le_def]
        omega

/-- An option without the flag is looked at again and again, until the rest is too short. -/
theorem addPrefixes_plain (kind : optionType option = 3) (whole : optionLength option = OptionPrefixInformation.size)
    (plain : OptionPrefixInformation.useForStatelessAddressConfiguration option = false)
    (fits : OptionPrefixInformation.size ≤ remaining) (enough : remaining.toNat < 32 * (fuel + 1)) :
    addPrefixes interface message routerPosition fuel m nextEntry (some option) remaining = some m := by
  have long : 32 ≤ remaining.toNat := BitVec.le_def.mp fits
  induction fuel generalizing remaining with
  | zero => omega
  | succ fuel ih =>
    have same : addPrefix interface message routerPosition option m nextEntry = (m, nextEntry) := by
      rw [addPrefix, plain]
      rfl
    have less : (remaining - OptionPrefixInformation.size).toNat = remaining.toNat - 32 := BitVec.toNat_sub_of_le fits
    unfold addPrefixes
    rw [same]
    dsimp only
    by_cases again : OptionPrefixInformation.size ≤ remaining - OptionPrefixInformation.size
    · have found : getPrefixOption option (remaining - OptionPrefixInformation.size) = some option := by
        rw [getPrefixOption, ← kind]
        exact getOption_of_matching (by rw [whole]; decide) (by rwa [whole])
      rw [found]
      exact ih again (by omega) (BitVec.le_def.mp again)
    · have none : getPrefixOption option (remaining - OptionPrefixInformation.size) = none :=
        getOption_of_short (by rw [whole]; exact BitVec.not_le.mp again)
      rw [none, addPrefixes_none]

/-- Without a prefix for autoconfiguration the router's addresses are removed and the others
are left as they are. -/
theorem updatePrefixes_plain (wellFormed : message.WellFormed payloadlen options)
    (plain : autoconfigurationPrefixes options = []) :
    ∃ fuel, updatePrefixes fuel interface message (payloadlen - RouterAdvertisementMessage.size) routerPosition m =
      some (removeFlagged routerPosition (flagAll routerPosition m).1) := by
  refine ⟨(payloadlen - RouterAdvertisementMessage.size).toNat, ?_⟩
  unfold updatePrefixes
  dsimp only
  split_ifs
  · rfl
  · cases found : getPrefixOption message.options (payloadlen - RouterAdvertisementMessage.size) with
    | none =>
      rw [addPrefixes_none]
      rfl
    | some option =>
      obtain ⟨member, kind, fits, whole⟩ := findOption_mem wellFormed.options found
      have unused : OptionPrefixInformation.useForStatelessAddressConfiguration option = false := by
        by_contra used
        have listed : OptionPrefixInformation.ipv6Prefix option ∈ autoconfigurationPrefixes options :=
          List.mem_map_of_mem (List.mem_filter.mpr ⟨member, by simpa [kind] using used⟩)
        rw [plain] at listed
        cases listed
      rw [whole rfl] at fits
      have long : 32 ≤ (payloadlen - RouterAdvertisementMessage.size).toNat := BitVec.le_def.mp fits
      rw [addPrefixes_plain kind (whole rfl) unused fits (by omega)]
      rfl

theorem removeFlagged_flagAll : (removeFlagged routerPosition (flagAll routerPosition m).1).getEntryAtPosition j =
    withoutRouter routerPosition (m.getEntryAtPosition j) := by
  rw [removeFlagged_entry, flagAll_entry]
  cases m.getEntryAtPosition j with
  | address e =>
    by_cases mine : e.routerEntryPosition = routerPosition
    · simp [Slot.mapAddress, flag, sweep, withoutRouter, mine]
    · simp [Slot.mapAddress, flag, sweep, withoutRouter, mine]
  | _ => rfl

theorem withoutRouter_withoutRouter :
    withoutRouter routerPosition (withoutRouter routerPosition s) = withoutRouter routerPosition s := by
  cases s with
  | address e =>
    by_cases mine : e.routerEntryPosition = routerPosition
    · simp [withoutRouter, mine]
    · simp [withoutRouter, mine]
  | _ => rfl

/-! ### Which advertisements keep the addresses in order -/

theorem not_maintains {p : Ipv6Addr} {prefixes : List Ipv6Addr} (wellFormed : message.WellFormed payloadlen options)
    (known : (r.memory k).ndpcacheFind src = some routerPosition) (listed : p ∈ prefixes) :
    ¬Maintains r k src message payloadlen routerPosition prefixes := by
  rintro ⟨fuel, r₁, fuel', r₂, first, second, onePerPrefix, same⟩
  obtain ⟨i, ⟨e, used, mine, -⟩, -⟩ := onePerPrefix.one p listed
  have again := received_again wellFormed known first
  have removed := received_removes wellFormed again second used mine
  have unchanged := same i
  rw [removed, Slot.address?_eq_some.mp used] at unchanged
  cases unchanged

theorem withoutRouter_mapNeighbour {f : NDPCacheEntry → NDPCacheEntry} :
    withoutRouter routerPosition (s.mapNeighbour f) = (withoutRouter routerPosition s).mapNeighbour f := by
  cases s with
  | address e =>
    dsimp only [withoutRouter, Slot.mapNeighbour]
    split_ifs <;> rfl
  | _ => rfl

theorem mapNeighbour_refreshed :
    (s.mapNeighbour (refreshed message foundMac)).mapNeighbour (refreshed message foundMac) =
      s.mapNeighbour (refreshed message foundMac) := by
  cases s with
  | neighbour e => exact congrArg Slot.neighbour refreshed_refreshed
  | _ => rfl

/-- A slot after an advertisement without autoconfiguration. -/
def receivedSlot (message : RouterAdvertisementMessage) (foundMac : Bool) (routerPosition : Nat) (m : AddressMemory)
    (j : Nat) : Slot :=
  withoutRouter routerPosition <|
    if routerPosition = j then (m.getEntryAtPosition j).mapNeighbour (refreshed message foundMac)
    else m.getEntryAtPosition j

theorem received_plain (wellFormed : message.WellFormed payloadlen options)
    (known : (r.memory k).ndpcacheFind src = some routerPosition) (plain : autoconfigurationPrefixes options = []) :
    ∃ fuel r', r.receiveRouterAdvertisement fuel k src message payloadlen = some r' ∧
      ∀ j, (r'.memory k).getEntryAtPosition j =
        receivedSlot message (getOptionLinklayerAddress .sourceLinkLayer message.options
          (payloadlen - RouterAdvertisementMessage.size)) routerPosition (r.memory k) j := by
  obtain ⟨fuel, updated⟩ := updatePrefixes_plain wellFormed plain
  refine ⟨fuel, _, (receive_eq wellFormed known).trans (congrArg _ updated), fun j => ?_⟩
  rw [Router.memory_setMemory, removeFlagged_flagAll, refreshRouter_eq, getEntryAtPosition_modifyNeighbour]
  rfl

theorem maintains_plain (wellFormed : message.WellFormed payloadlen options)
    (known : (r.memory k).ndpcacheFind src = some routerPosition) (plain : autoconfigurationPrefixes options = []) :
    Maintains r k src message payloadlen routerPosition [] := by
  obtain ⟨fuel, r₁, first, slots⟩ := received_plain wellFormed known plain
  obtain ⟨fuel', r₂, second, slots'⟩ := received_plain wellFormed (received_again wellFormed known first) plain
  refine ⟨fuel, r₁, fuel', r₂, first, second, ⟨fun p listed => absurd listed List.not_mem_nil, fun i e used mine => ?_⟩, fun i => ?_⟩
  · have kept := slots i
    rw [Slot.address?_eq_some.mp used] at kept
    exact absurd mine (ne_of_withoutRouter kept.symm)
  · rw [slots' i, receivedSlot, slots i, receivedSlot]
    split_ifs
    · rw [← withoutRouter_mapNeighbour, mapNeighbour_refreshed, withoutRouter_withoutRouter]
    · rw [withoutRouter_withoutRouter]

/-- An advertisement leaves one address for each of its prefixes, and nothing to change for
the same advertisement again, exactly if it carries no prefix for autoconfiguration. -/
theorem maintains_iff (wellFormed : message.WellFormed payloadlen options)
    (known : (r.memory k).ndpcacheFind src = some routerPosition) :
    Maintains r k src message payloadlen routerPosition (autoconfigurationPrefixes options) ↔
      autoconfigurationPrefixes options = [] := by
  constructor
  · intro maintains
    by_contra some_
    obtain ⟨p, listed⟩ := List.exists_mem_of_ne_nil _ some_
    exact not_maintains wellFormed known listed maintains
  · intro plain
    rw [plain]
    exact maintains_plain wellFormed known plain

/-! ### One router, one prefix and one free slot -/

def exampleRouterAddress : Ipv6Addr := #v[0xFE, 0x80, 0, 0, 0, 0, 0, 0, 0, 0, 0, 0, 0, 0, 0, 1]

def examplePrefix : Ipv6Addr := #v[0x20, 1, 0x0D, 0xB8, 0, 0, 0, 0, 0, 0, 0, 0, 0, 0, 0, 0]

def exampleInterfaceAddress : Vector UInt8 6 := #v[2, 0, 0, 0, 0, 1]

def exampleNeighbour : Slot := .neighbour ⟨exampleRouterAddress, .reachable, true, true, 100⟩

/-- The router is known, and there is one free slot. -/
def oneFreeSlot : Router 1 where
  interfaces _ :=
    { addressmemory :=
        { slots := [exampleNeighbour, .free]
          small := by decide }
      address := exampleInterfaceAddress
      ipv6Up := true }
  ipv6 := []

def onePrefix : RouterAdvertisementMessage where
  type := 134
  code := 0
  curHopLimit := 64
  routerLifetime := 30
  reachableTime := 0
  options := [3, 4, 64, 0xC0, 60, 0, 0, 0, 30, 0, 0, 0, 0, 0, 0, 0] ++ examplePrefix.toList

def noPrefix : RouterAdvertisementMessage := { onePrefix with options := [5, 1, 0, 0, 0, 0, 5, 0] }

def exampleAddress : AddressEntry :=
  refreshPrefix onePrefix onePrefix.options ((oneFreeSlot.interfaces 0).newAddress examplePrefix 64 0)

theorem onePrefix_wellFormed : onePrefix.WellFormed 48 [onePrefix.options] :=
  ⟨rfl, rfl, by decide, .next (by decide) (by decide) (by decide) .done⟩

theorem noPrefix_wellFormed : noPrefix.WellFormed 24 [noPrefix.options] :=
  ⟨rfl, rfl, by decide, .next (by decide) (by decide) (by decide) .done⟩

theorem maintains_iff_noPrefix :
    Maintains oneFreeSlot 0 exampleRouterAddress noPrefix 24 0 (autoconfigurationPrefixes [noPrefix.options]) ↔
      autoconfigurationPrefixes [noPrefix.options] = [] :=
  maintains_iff noPrefix_wellFormed (by decide)

/-- The first advertisement makes the address of its prefix in the free slot. The same one
again finds no free slot, and removes the address. -/
theorem onePrefix_lost :
    onePrefix.WellFormed 48 [onePrefix.options] ∧ onePrefix.routerIsShutingDown = false ∧
      (oneFreeSlot.memory 0).ndpcacheFind exampleRouterAddress = some 0 ∧
      autoconfigurationPrefixes [onePrefix.options] = [examplePrefix] ∧
      ¬Maintains oneFreeSlot 0 exampleRouterAddress onePrefix 48 0 [examplePrefix] ∧
      (exampleAddress.DerivedFrom examplePrefix ∧ exampleAddress.routerEntryPosition = 0) ∧
      (oneFreeSlot.receiveRouterAdvertisement 2 0 exampleRouterAddress onePrefix 48).map (·.memory 0 |>.slots) =
        some [exampleNeighbour, .address exampleAddress] ∧
      ((oneFreeSlot.receiveRouterAdvertisement 2 0 exampleRouterAddress onePrefix 48).bind
        (·.receiveRouterAdvertisement 2 0 exampleRouterAddress onePrefix 48)).map (·.memory 0 |>.slots) =
        some [exampleNeighbour, .free] :=
  ⟨onePrefix_wellFormed, rfl, by decide, by decide,
    not_maintains onePrefix_wellFormed (by decide) List.mem_cons_self, ⟨⟨rfl, by decide⟩, rfl⟩,
    by decide +kernel, by decide +kernel⟩

end IPStack
