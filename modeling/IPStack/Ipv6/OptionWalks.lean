import IPStack.Ipv6.AdvertisedPrefixes
import IPStack.Ipv6.ExtensionHeaders
import IPStack.Ip.ChecksumWords

/-! Walks over options: of neighbour discovery messages and of extension headers. -/

namespace IPStack

/-! ### The options of neighbour discovery messages -/

namespace NDPMessages

/-- A walk with the positions of the bytes that it reads. -/
abbrev OptionWalk := Traced Nat

def readOption (area : Bytes) (position : Nat) : OptionWalk (BitVec 8) := .emit position (area.byte position)

/-- `memcpy` from the area. -/
def copyOption (area : Bytes) (position n : Nat) : OptionWalk Bytes :=
  ⟨(List.range n).map fun i => position + i, some (area.slice position n)⟩

/-- The variables of both loops. -/
structure OptionCursor where
  data : Nat
  remainingOptionsLength : BitVec 32
deriving DecidableEq, Repr

def optionRound (type : BitVec 8) (area : Bytes) (s : OptionCursor) : OptionWalk (OptionCursor ⊕ Option Nat) := do
  let lenInOctets ← readOption area (s.data + 1)
  if lenInOctets = 0 ∨ s.remainingOptionsLength < lenInOctets.setWidth 32 * 8 then pure (.inr none)
  else do
    let optionType ← readOption area s.data
    if optionType = type then pure (.inr (some s.data))
    else pure (.inl ⟨s.data + lenInOctets.toNat * 8, s.remainingOptionsLength - lenInOctets.setWidth 32 * 8⟩)

def searchOption (type : BitVec 8) (fuel : Nat) (area : Bytes) (data : Nat) (remainingOptionsLength : BitVec 32) :
    OptionWalk (Option Nat) :=
  Traced.loop (optionRound type area) fuel ⟨data, remainingOptionsLength⟩

/-- `get_option_linklayer_address`, with the address that it copies. -/
def walkOptionLinklayerAddress (type : LinkLayerAddressType) (fuel : Nat) (area : Bytes) (data : Nat)
    (remainingOptionsLength : BitVec 32) : OptionWalk (Option Bytes) := do
  match ← searchOption type.code fuel area data remainingOptionsLength with
  | none => pure none
  | some option => some <$> copyOption area (option + 2) 6

/-- `get_prefix_option`. -/
def walkPrefixOption (fuel : Nat) (area : Bytes) (data : Nat) (remainingOptionsLength : BitVec 32) : OptionWalk (Option Nat) :=
  searchOption 3 fuel area data remainingOptionsLength

/-! ### What the walks are for -/

/-- In bytes, the header included. -/
def lengthAt (area : Bytes) (data : Nat) : Nat := (area.byte (data + 1)).toNat * 8

/-- The options one behind the other that lie completely in an area, up to the first one that has
length 0 or does not, and how many bytes are left there. -/
inductive CompleteOptions (area : Bytes) : Nat → Nat → List Nat → Nat → Prop
  | stop {data remaining : Nat} (incomplete : lengthAt area data = 0 ∨ remaining < lengthAt area data) :
      CompleteOptions area data remaining [] remaining
  | next {data remaining rest : Nat} {options : List Nat} (nonempty : lengthAt area data ≠ 0)
      (fits : lengthAt area data ≤ remaining)
      (later : CompleteOptions area (data + lengthAt area data) (remaining - lengthAt area data) options rest) :
      CompleteOptions area data remaining (data :: options) rest

/-- The first of the options with a type. -/
def firstOption (area : Bytes) (type : BitVec 8) (options : List Nat) : Option Nat :=
  options.find? fun option => area.byte option = type

/-- A walk ends, reads bytes of the area only, and finds the first complete option of the type. -/
structure Finds {α : Type} (area : Bytes) (data remaining : Nat) (type : BitVec 8) (value : Nat → α)
    (walk : Nat → OptionWalk (Option α)) : Prop where
  returns : ∃ fuel, (walk fuel).result.isSome
  inside : ∀ fuel, (walk fuel).All fun position => data ≤ position ∧ position < data + remaining
  first : ∀ fuel found, (walk fuel).result = some found → ∀ options rest, CompleteOptions area data remaining options rest →
    found = (firstOption area type options).map value

/-- An option of the type is complete, or both bytes behind the complete options are there. -/
def EndsInside (area : Bytes) (data remaining : Nat) (type : BitVec 8) : Prop :=
  ∃ options rest, CompleteOptions area data remaining options rest ∧ ((firstOption area type options).isSome ∨ 2 ≤ rest)

variable {area : Bytes} {data remaining rest fuel : Nat} {options : List Nat} {type : BitVec 8} {left : BitVec 32}

theorem exists_completeOptions (area : Bytes) (data remaining : Nat) :
    ∃ options rest, CompleteOptions area data remaining options rest := by
  induction remaining using Nat.strong_induction_on generalizing data with
  | _ remaining ih =>
    by_cases incomplete : lengthAt area data = 0 ∨ remaining < lengthAt area data
    · exact ⟨[], remaining, .stop incomplete⟩
    · rw [not_or, not_lt] at incomplete
      obtain ⟨nonempty, fits⟩ := incomplete
      obtain ⟨options, rest, later⟩ := ih (remaining - lengthAt area data) (by omega) (data + lengthAt area data)
      exact ⟨data :: options, rest, .next nonempty fits later⟩

theorem CompleteOptions.unique {options' : List Nat} {rest' : Nat} (complete : CompleteOptions area data remaining options rest)
    (other : CompleteOptions area data remaining options' rest') : options' = options ∧ rest' = rest := by
  induction complete generalizing options' rest' with
  | stop incomplete =>
    cases other with
    | stop => exact ⟨rfl, rfl⟩
    | next nonempty fits => exact absurd incomplete (by omega)
  | next nonempty fits later ih =>
    cases other with
    | stop incomplete => exact absurd incomplete (by omega)
    | next _ _ later' =>
      obtain ⟨rfl, rfl⟩ := ih later'
      exact ⟨rfl, rfl⟩

/-! ### A round -/

theorem toNat_length (area : Bytes) (data : Nat) : ((area.byte (data + 1)).setWidth 32 * 8).toNat = lengthAt area data := by
  have bound := (area.byte (data + 1)).isLt
  unfold lengthAt
  rw [BitVec.toNat_mul, BitVec.toNat_setWidth]
  change (_ % 2 ^ 32) * 8 % 2 ^ 32 = _
  omega

theorem incomplete_iff : area.byte (data + 1) = 0 ∨ left < (area.byte (data + 1)).setWidth 32 * 8 ↔
    lengthAt area data = 0 ∨ left.toNat < lengthAt area data := by
  refine or_congr ?_ ?_
  · rw [← BitVec.toNat_inj]
    change (area.byte (data + 1)).toNat = 0 ↔ _
    unfold lengthAt
    omega
  · rw [BitVec.lt_def, toNat_length]

theorem searchOption_succ : searchOption type (fuel + 1) area data left =
    readOption area (data + 1) >>= fun _ =>
      if lengthAt area data = 0 ∨ left.toNat < lengthAt area data then pure none
      else readOption area data >>= fun _ =>
        if area.byte data = type then pure (some data)
        else searchOption type fuel area (data + lengthAt area data) (left - (area.byte (data + 1)).setWidth 32 * 8) := by
  unfold searchOption
  rw [Traced.loop_succ, optionRound]
  simp only [bind_assoc, readOption]
  rw [Traced.emit_bind]
  refine congrArg _ (funext fun _ => ?_)
  by_cases incomplete : lengthAt area data = 0 ∨ left.toNat < lengthAt area data
  · rw [if_pos (incomplete_iff.mpr incomplete), if_pos incomplete]
    rfl
  · rw [if_neg (fun cut => incomplete (incomplete_iff.mp cut)), if_neg incomplete, bind_assoc, Traced.emit_bind]
    refine congrArg _ (funext fun _ => ?_)
    split_ifs
    · rfl
    · rfl

@[simp] theorem result_readOption_bind {α : Type} {position : Nat} (f : BitVec 8 → OptionWalk α) :
    (readOption area position >>= f).result = (f (area.byte position)).result := rfl

@[simp] theorem all_readOption_bind {α : Type} {P : Nat → Prop} {position : Nat} (f : BitVec 8 → OptionWalk α) :
    (readOption area position >>= f).All P ↔ P position ∧ (f (area.byte position)).All P := by
  rw [Traced.all_bind, readOption, Traced.all_emit]
  exact and_congr_right fun _ => ⟨fun later => later _ rfl, fun later a returned => Option.some.inj returned ▸ later⟩

theorem toNat_left (fits : lengthAt area data ≤ left.toNat) :
    (left - (area.byte (data + 1)).setWidth 32 * 8).toNat = left.toNat - lengthAt area data := by
  rw [BitVec.toNat_sub_of_le (by rw [BitVec.le_def, toNat_length]; exact fits), toNat_length]

theorem eight_le_lengthAt (nonempty : lengthAt area data ≠ 0) : 8 ≤ lengthAt area data := by
  unfold lengthAt at nonempty ⊢
  omega

theorem firstOption_cons : firstOption area type (data :: options) =
    if area.byte data = type then some data else firstOption area type options := by
  unfold firstOption
  rw [List.find?_cons]
  by_cases here : area.byte data = type <;> simp [here]

/-! ### The loop -/

theorem searchOption_stop (incomplete : lengthAt area data = 0 ∨ left.toNat < lengthAt area data) :
    searchOption type (fuel + 1) area data left = readOption area (data + 1) >>= fun _ => pure none := by
  rw [searchOption_succ]
  simp only [if_pos incomplete]

theorem searchOption_next (nonempty : lengthAt area data ≠ 0) (fits : lengthAt area data ≤ left.toNat) :
    searchOption type (fuel + 1) area data left = readOption area (data + 1) >>= fun _ => readOption area data >>= fun _ =>
      if area.byte data = type then pure (some data)
      else searchOption type fuel area (data + lengthAt area data) (left - (area.byte (data + 1)).setWidth 32 * 8) := by
  rw [searchOption_succ]
  simp only [if_neg (not_or.mpr ⟨nonempty, Nat.not_lt.mpr fits⟩)]

theorem CompleteOptions.result_eq (complete : CompleteOptions area data remaining options rest)
    (whole : left.toNat = remaining) {found : Option Nat}
    (returned : (searchOption type fuel area data left).result = some found) : found = firstOption area type options := by
  induction complete generalizing fuel left with
  | stop incomplete =>
    cases fuel with
    | zero => cases returned
    | succ fuel =>
      rw [searchOption_stop (whole ▸ incomplete), result_readOption_bind, Traced.result_pure] at returned
      exact (Option.some.inj returned).symm
  | next nonempty fits later ih =>
    subst whole
    cases fuel with
    | zero => cases returned
    | succ fuel =>
      rw [searchOption_next nonempty fits, result_readOption_bind, result_readOption_bind] at returned
      rw [firstOption_cons]
      split_ifs at returned ⊢ with here
      · exact (Option.some.inj returned).symm
      · exact ih (toNat_left fits) returned

theorem CompleteOptions.returns (complete : CompleteOptions area data remaining options rest)
    (whole : left.toNat = remaining) (enough : remaining < 8 * fuel) :
    (searchOption type fuel area data left).result.isSome := by
  induction complete generalizing fuel left with
  | stop incomplete =>
    obtain ⟨fuel, rfl⟩ := Nat.exists_eq_succ_of_ne_zero (by omega : fuel ≠ 0)
    rw [searchOption_stop (whole ▸ incomplete), result_readOption_bind]
    rfl
  | next nonempty fits later ih =>
    subst whole
    obtain ⟨fuel, rfl⟩ := Nat.exists_eq_succ_of_ne_zero (by omega : fuel ≠ 0)
    rw [searchOption_next nonempty fits, result_readOption_bind, result_readOption_bind]
    split_ifs
    · rfl
    · have eight := eight_le_lengthAt nonempty
      exact ih (toNat_left fits) (by omega)

/-- The walk stays inside if it finds an option or has two bytes left. -/
theorem CompleteOptions.inside (complete : CompleteOptions area data remaining options rest)
    (whole : left.toNat = remaining) (ends : (firstOption area type options).isSome ∨ 2 ≤ rest) (fuel : Nat) :
    (searchOption type fuel area data left).All fun position => data ≤ position ∧ position < data + remaining := by
  induction complete generalizing fuel left with
  | stop incomplete =>
    have two := ends.resolve_left Bool.false_ne_true
    cases fuel with
    | zero => exact Traced.all_running
    | succ fuel =>
      rw [searchOption_stop (whole ▸ incomplete), all_readOption_bind]
      exact ⟨by omega, Traced.all_pure _⟩
  | @next data remaining rest options nonempty fits later ih =>
    subst whole
    cases fuel with
    | zero => exact Traced.all_running
    | succ fuel =>
      have eight := eight_le_lengthAt nonempty
      rw [searchOption_next nonempty fits, all_readOption_bind, all_readOption_bind]
      refine ⟨by omega, by omega, ?_⟩
      rw [firstOption_cons] at ends
      split_ifs at ends ⊢ with here
      · exact Traced.all_pure _
      · intro position member
        have inside := ih (toNat_left fits) ends fuel position member
        omega

/-- The length byte that the walk reads last is inside. -/
theorem CompleteOptions.ends (complete : CompleteOptions area data remaining options rest)
    (whole : left.toNat = remaining) (enough : remaining < 8 * fuel) {limit : Nat} (limit_eq : limit = data + remaining)
    (inside : (searchOption type fuel area data left).All fun position => position < limit) :
    (firstOption area type options).isSome ∨ 2 ≤ rest := by
  induction complete generalizing fuel left with
  | stop incomplete =>
    obtain ⟨fuel, rfl⟩ := Nat.exists_eq_succ_of_ne_zero (by omega : fuel ≠ 0)
    rw [searchOption_stop (whole ▸ incomplete), all_readOption_bind] at inside
    exact .inr (by omega)
  | next nonempty fits later ih =>
    subst whole
    obtain ⟨fuel, rfl⟩ := Nat.exists_eq_succ_of_ne_zero (by omega : fuel ≠ 0)
    rw [searchOption_next nonempty fits, all_readOption_bind, all_readOption_bind] at inside
    rw [firstOption_cons]
    split_ifs at inside ⊢ with here
    · exact .inl rfl
    · have eight := eight_le_lengthAt nonempty
      exact ih (toNat_left fits) (by omega) (by omega) inside.2.2

/-- The option that is found lies in the area with all its bytes. -/
theorem CompleteOptions.first_fits (complete : CompleteOptions area data remaining options rest) {option : Nat}
    (first : firstOption area type options = some option) : data ≤ option ∧ option + 8 ≤ data + remaining := by
  induction complete with
  | stop => cases first
  | next nonempty fits later ih =>
    have eight := eight_le_lengthAt nonempty
    rw [firstOption_cons] at first
    split_ifs at first with here
    · cases first
      omega
    · have inside := ih first
      omega

/-- The search in a message, which keeps what is behind a position instead of the position. -/
theorem findOption_eq : findOption type fuel (area.drop data) left =
    (searchOption type fuel area data left).result.join.map fun option => area.drop option := by
  induction fuel generalizing data left with
  | zero => rfl
  | succ fuel ih =>
    have first : optionType (area.drop data) = area.byte data := Bytes.byte_drop
    have length : optionLength (area.drop data) = (area.byte (data + 1)).setWidth 32 * 8 := by
      unfold optionLength
      rw [Bytes.byte_drop]
    have bytes : (optionLength (area.drop data)).toNat = lengthAt area data := by rw [length, toNat_length]
    have same : optionLength (area.drop data) = 0 ∨ left < optionLength (area.drop data) ↔
        lengthAt area data = 0 ∨ left.toNat < lengthAt area data := by
      refine or_congr ?_ (by rw [BitVec.lt_def, bytes])
      rw [← BitVec.toNat_inj, bytes]
      rfl
    unfold findOption
    by_cases incomplete : lengthAt area data = 0 ∨ left.toNat < lengthAt area data
    · rw [if_pos (same.mpr incomplete), searchOption_stop incomplete, result_readOption_bind]
      rfl
    · rw [if_neg (fun cut => incomplete (same.mp cut)), first]
      rw [not_or, not_lt] at incomplete
      rw [searchOption_next incomplete.1 incomplete.2, result_readOption_bind, result_readOption_bind]
      split_ifs
      · rfl
      · rw [bytes, length, List.drop_drop, ih]

/-! ### Results -/

theorem finds_searchOption_iff : Finds area data left.toNat type id (fun fuel => searchOption type fuel area data left) ↔
    EndsInside area data left.toNat type := by
  obtain ⟨options, rest, complete⟩ := exists_completeOptions area data left.toNat
  have enough : left.toNat < 8 * (left.toNat / 8 + 1) := by omega
  constructor
  · intro finds
    refine ⟨options, rest, complete, complete.ends rfl enough rfl fun position member => ?_⟩
    exact (finds.inside _ position member).2
  · rintro ⟨options', rest', complete', ends⟩
    obtain ⟨rfl, rfl⟩ := complete.unique complete'
    refine ⟨⟨_, complete.returns rfl enough⟩, complete.inside rfl ends, fun fuel found returned options rest other => ?_⟩
    rw [other.result_eq rfl returned, Option.map_id_fun, id_eq]

theorem all_copyOption {P : Nat → Prop} {position n : Nat} :
    (copyOption area position n).All P ↔ ∀ i < n, P (position + i) := by
  unfold copyOption Traced.All
  simp only [List.mem_map, List.mem_range]
  constructor
  · exact fun all i inside => all _ ⟨i, inside, rfl⟩
  · rintro all _ ⟨i, inside, rfl⟩
    exact all i inside

theorem result_walkOptionLinklayerAddress {type : LinkLayerAddressType} :
    (walkOptionLinklayerAddress type fuel area data left).result =
      (searchOption type.code fuel area data left).result.map (Option.map fun option => area.slice (option + 2) 6) := by
  unfold walkOptionLinklayerAddress
  rw [Traced.result_bind]
  cases (searchOption type.code fuel area data left).result with
  | none => rfl
  | some found => cases found <;> rfl

theorem all_walkOptionLinklayerAddress {P : Nat → Prop} {type : LinkLayerAddressType} :
    (walkOptionLinklayerAddress type fuel area data left).All P ↔ (searchOption type.code fuel area data left).All P ∧
      ∀ option, (searchOption type.code fuel area data left).result = some (some option) → ∀ i < 6, P (option + 2 + i) := by
  unfold walkOptionLinklayerAddress
  rw [Traced.all_bind]
  refine and_congr_right fun _ => ⟨fun all option found => ?_, fun all found returned => ?_⟩
  · have copied := all (some option) found
    dsimp only at copied
    rw [map_eq_pure_bind, Traced.all_bind] at copied
    exact all_copyOption.mp copied.1
  · cases found with
    | none => exact Traced.all_pure _
    | some option =>
      dsimp only
      rw [map_eq_pure_bind, Traced.all_bind]
      exact ⟨all_copyOption.mpr (all option returned), fun _ _ => Traced.all_pure _⟩

/-- The address of a complete option is inside, so nothing but the search decides. -/
theorem finds_walkOptionLinklayerAddress_iff {type : LinkLayerAddressType} :
    Finds area data left.toNat type.code (fun option => area.slice (option + 2) 6)
      (fun fuel => walkOptionLinklayerAddress type fuel area data left) ↔ EndsInside area data left.toNat type.code := by
  rw [← finds_searchOption_iff]
  constructor
  · intro finds
    refine ⟨?_, fun fuel => (all_walkOptionLinklayerAddress.mp (finds.inside fuel)).1,
      fun fuel found returned options rest complete => ?_⟩
    · obtain ⟨fuel, returned⟩ := finds.returns
      rw [result_walkOptionLinklayerAddress, Option.isSome_map] at returned
      exact ⟨fuel, returned⟩
    · rw [complete.result_eq rfl returned, Option.map_id_fun, id_eq]
  · intro finds
    refine ⟨?_, fun fuel => all_walkOptionLinklayerAddress.mpr ⟨finds.inside fuel, fun option found i inside => ?_⟩,
      fun fuel found returned options rest complete => ?_⟩
    · obtain ⟨fuel, returned⟩ := finds.returns
      refine ⟨fuel, ?_⟩
      rw [result_walkOptionLinklayerAddress, Option.isSome_map]
      exact returned
    · obtain ⟨options, rest, complete⟩ := exists_completeOptions area data left.toNat
      have fits := complete.first_fits (complete.result_eq rfl found).symm
      omega
    · rw [result_walkOptionLinklayerAddress, Option.map_eq_some_iff] at returned
      obtain ⟨option, returned, rfl⟩ := returned
      rw [complete.result_eq rfl returned]

/-- `sizeof(OptionPrefixInformation)` bytes of the option that is returned lie in the area. -/
def MembersInside (data remaining : Nat) (walk : Nat → OptionWalk (Option Nat)) : Prop :=
  ∀ fuel option, (walk fuel).result = some (some option) → option + OptionPrefixInformation.size.toNat ≤ data + remaining

/-- The first complete prefix option is as long as it should be, or more follows it. -/
def PrefixMembersInside (area : Bytes) (data remaining : Nat) : Prop :=
  ∀ options rest, CompleteOptions area data remaining options rest → ∀ option, firstOption area 3 options = some option →
    option + OptionPrefixInformation.size.toNat ≤ data + remaining

theorem membersInside_iff : MembersInside data left.toNat (fun fuel => walkPrefixOption fuel area data left) ↔
    PrefixMembersInside area data left.toNat := by
  constructor
  · intro inside options rest complete option first
    have enough : left.toNat < 8 * (left.toNat / 8 + 1) := by omega
    have returns : (walkPrefixOption (left.toNat / 8 + 1) area data left).result.isSome := complete.returns rfl enough
    obtain ⟨found, returned⟩ := Option.isSome_iff_exists.mp returns
    have same := complete.result_eq rfl returned
    rw [first] at same
    exact inside _ option (same ▸ returned)
  · intro inside fuel option returned
    obtain ⟨options, rest, complete⟩ := exists_completeOptions area data left.toNat
    exact inside options rest complete option (complete.result_eq rfl returned).symm

/-- Both walks end, stay in the area and find the first complete option exactly if they find one
or two bytes are left behind the complete options. -/
theorem optionWalks_iff (area : Bytes) (data : Nat) (remaining : BitVec 32) :
    (∀ type : LinkLayerAddressType, Finds area data remaining.toNat type.code (fun option => area.slice (option + 2) 6)
      (fun fuel => walkOptionLinklayerAddress type fuel area data remaining) ↔
        EndsInside area data remaining.toNat type.code) ∧
    (Finds area data remaining.toNat 3 id (fun fuel => walkPrefixOption fuel area data remaining) ∧
      MembersInside data remaining.toNat (fun fuel => walkPrefixOption fuel area data remaining) ↔
        EndsInside area data remaining.toNat 3 ∧ PrefixMembersInside area data remaining.toNat) :=
  ⟨fun _ => finds_walkOptionLinklayerAddress_iff, and_congr finds_searchOption_iff membersInside_iff⟩

/-- Without options the length byte behind the area is read. -/
theorem emptyArea_read : ¬Finds [] 0 0 LinkLayerAddressType.sourceLinkLayer.code (fun option => Bytes.slice [] (option + 2) 6)
    (fun fuel => walkOptionLinklayerAddress .sourceLinkLayer fuel [] 0 0) := by
  intro finds
  exact absurd (finds.inside 1 1 List.mem_cons_self).2 (by decide)

end NDPMessages

/-! ### The options of extension headers -/

namespace ExtensionHeaderOptions

variable {packet : Bytes} {data remaining fuel limit : Nat} {ok : Bool} {s s' : Cursor}

/-- A byte that is read lies in a range. -/
def Within (data limit : Nat) : Ipv6Event → Prop
  | .read position => data ≤ position ∧ position < limit
  | _ => True

/-- The loop goes on with another state. -/
def Continues (packet : Bytes) (s s' : Cursor) : Prop := (parseRound packet s).result = some (.inl s')

/-- The parser ends and reads bytes of its range only, and every round that goes on leaves less
of the range, but no less than nothing. -/
structure ParsesSafely (packet : Bytes) (data remaining : Nat) : Prop where
  returns : ∃ fuel, (parseOptions fuel packet data remaining).result.isSome
  inside : ∀ fuel, (parseOptions fuel packet data remaining).All (Within data (data + remaining))
  decreases : ∀ s s', Relation.ReflTransGen (Continues packet) ⟨data, remaining⟩ s → Continues packet s s' →
    s'.remainingLength < s.remainingLength ∧ s'.data + s'.remainingLength = s.data + s.remainingLength

theorem continues_iff : Continues packet s s' ↔ s.remainingLength ≠ 0 ∧ parseOption (packet.byte s.data) = true ∧
    (packet.byte (s.data + 1)).toNat ≤ s.remainingLength ∧
      s' = ⟨s.data + (packet.byte (s.data + 1)).toNat, s.remainingLength - (packet.byte (s.data + 1)).toNat⟩ := by
  unfold Continues parseRound
  by_cases more : s.remainingLength = 0
  · simp [more]
  · rw [if_neg more, result_readByte_bind, result_readByte_bind]
    cases known : parseOption (packet.byte s.data) with
    | false => simp
    | true =>
      by_cases long : s.remainingLength < (packet.byte (s.data + 1)).toNat
      · simp [long]
      · simp [long, more, Nat.not_lt.mp long, eq_comm]

theorem all_readByte_bind_iff {α : Type} {P : Ipv6Event → Prop} {position : Nat} (f : BitVec 8 → Ipv6Walk α) :
    (readByte packet position >>= f).All P ↔ P (.read position) ∧ (f (packet.byte position)).All P := by
  rw [Traced.all_bind, readByte, Traced.all_emit]
  exact and_congr_right fun _ => ⟨fun later => later _ rfl, fun later a returned => Option.some.inj returned ▸ later⟩

/-- The parser does nothing but read, and no byte in front of its range. -/
theorem parseOptions_behind {start : Nat} (behind : start ≤ data) :
    (parseOptions fuel packet data remaining).All fun e => ∃ position, e = .read position ∧ start ≤ position := by
  induction fuel generalizing data remaining with
  | zero => exact Traced.all_running
  | succ fuel ih =>
    by_cases more : remaining = 0
    · rw [more, parseOptions_fill]
      exact Traced.all_pure _
    · rw [parseOptions_succ more, all_readByte_bind_iff, all_readByte_bind_iff]
      refine ⟨⟨data + 1, rfl, by omega⟩, ⟨data, rfl, behind⟩, ?_⟩
      split_ifs
      · exact Traced.all_pure _
      · exact ih (by omega)

/-- What follows a clean state is clean. -/
theorem clean_of_continues (clean : OptionsClean packet limit s.data s.remainingLength ok) (continues : Continues packet s s') :
    OptionsClean packet limit s'.data s'.remainingLength ok ∧
      s'.remainingLength < s.remainingLength ∧ s'.data + s'.remainingLength = s.data + s.remainingLength := by
  obtain ⟨data, remaining⟩ := s
  obtain ⟨more, known, fits, rfl⟩ := continues_iff.mp continues
  cases clean with
  | fill => exact absurd rfl more
  | refuse _ _ refused =>
    rcases refused with unknown | long
    · cases known.symm.trans unknown
    · exact absurd long (Nat.not_lt.mpr fits)
  | skip _ _ _ nonzero _ later =>
    dsimp only at more fits nonzero ⊢
    exact ⟨later, by omega, by omega⟩

theorem clean_of_reaches (clean : OptionsClean packet limit data remaining ok)
    (reaches : Relation.ReflTransGen (Continues packet) ⟨data, remaining⟩ s) :
    OptionsClean packet limit s.data s.remainingLength ok := by
  induction reaches with
  | refl => exact clean
  | tail _ continues ih => exact (clean_of_continues ih continues).1

theorem parsesSafely_of_clean (clean : OptionsClean packet (data + remaining) data remaining ok) :
    ParsesSafely packet data remaining := by
  refine ⟨?_, fun fuel e member => ?_, fun s s' reaches continues => ?_⟩
  · obtain ⟨parsed, returned, -⟩ := clean.returns (Nat.lt_succ_self remaining)
    exact ⟨_, Option.isSome_of_mem returned⟩
  · obtain ⟨position, rfl, behind⟩ := parseOptions_behind (Nat.le_refl data) e member
    exact ⟨behind, clean.all fuel _ member⟩
  · exact (clean_of_continues (clean_of_reaches clean reaches) continues).2

/-- The parser is safe exactly if every option up to the end, or up to the first one that is
refused, has both its first bytes in the range and no skipped one has the length 0. -/
theorem parsesSafely_iff (packet : Bytes) (data remaining : Nat) :
    ParsesSafely packet data remaining ↔ ∃ ok, OptionsClean packet (data + remaining) data remaining ok := by
  constructor
  · intro safe
    obtain ⟨fuel, returns⟩ := safe.returns
    obtain ⟨parsed, returned⟩ := Option.isSome_iff_exists.mp returns
    refine ⟨parsed.accepted, .of_returns returned fun e member => ?_⟩
    obtain ⟨position, rfl, -⟩ := parseOptions_behind (Nat.le_refl data) e member
    exact (safe.inside fuel _ member).2
  · rintro ⟨ok, clean⟩
    exact parsesSafely_of_clean clean

/-- A PadN option of length 0 is read again and again. -/
theorem parseOptions_zero_length : ¬ParsesSafely [1, 0, 0, 0, 0, 0, 0, 0] 0 8 := by
  intro safe
  obtain ⟨fuel, returns⟩ := safe.returns
  rw [parseOptions_stuck (by decide) (by decide) (by decide)] at returns
  cases returns

end ExtensionHeaderOptions

end IPStack
