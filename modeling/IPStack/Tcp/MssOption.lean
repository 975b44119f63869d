import IPStack.Lib.Bytes
import IPStack.Lib.Traced
import Mathlib.Data.BitVec

/-! The MSS option in the header of a received SYN. -/

namespace IPStack

namespace MssOption

variable {data : Bytes} {len i fuel : Nat} {passed : Bool}

/-! ### The code -/

/-- `get_options_len` of a header length in words: 8 bits wide, also for a length below 5. -/
def getOptionsLen (headerLen : BitVec 4) : BitVec 8 := (headerLen.setWidth 8 - 5) * 4

/-- A byte of the segment behind its fixed header; the event is its position. -/
def readByte (data : Bytes) (position : Nat) : Traced Nat (BitVec 8) := .emit position (data.byte position)

/-- One round of the loop of `get_option_mss`. The result of the function is in host byte order: a
value of one byte ends up in the upper one. -/
def optionRound (data : Bytes) (optLen i : Nat) : Traced Nat (Nat ⊕ BitVec 16) :=
  if optLen ≤ i then pure (.inr 0)
  else do
    let kind ← readByte data i
    if kind = 0 then pure (.inr 0)
    else if kind = 1 then pure (.inl (i + 1))
    else do
      let size ← readByte data (i + 1)
      if kind = 2 then
        let high ← readByte data (i + 2)
        if 4 ≤ size then
          let low ← readByte data (i + 3)
          pure (.inr (high ++ low))
        else pure (.inr (high ++ 0#8))
      else pure (.inl (i + size.toNat))

def getOptionMss (fuel : Nat) (headerLen : BitVec 4) (data : Bytes) : Traced Nat (BitVec 16) :=
  Traced.loop (optionRound data (getOptionsLen headerLen).toNat) fuel 0

/-- `set_option_mss`, which appends to the options there are. -/
def setOptionMss (headerLen : BitVec 4) (data : Bytes) (mss : BitVec 16) : BitVec 4 × Bytes :=
  (headerLen + 1,
    data.memcpy (getOptionsLen headerLen).toNat
      [2, 4, UInt8.ofBitVec (mss.extractLsb' 8 8), UInt8.ofBitVec (mss.extractLsb' 0 8)] 4)

/-- The header length `writeHeader` leaves behind, before a SYN gets its option. -/
def writtenHeaderLen : BitVec 4 := 5

/-! ### What the options announce -/

/-- The value of the first well-formed MSS option from a position on, in options of `len` bytes; 0
if the options end, by a marker or a malformed option, before there is one. -/
def announcedMss (data : Bytes) (len i : Nat) : BitVec 16 :=
  if len ≤ i ∨ data.byte i = 0 then 0
  else if data.byte i = 1 then announcedMss data len (i + 1)
  else if len ≤ i + 1 ∨ (data.byte (i + 1)).toNat < 2 ∨ len < i + (data.byte (i + 1)).toNat then 0
  else if data.byte i = 2 then if data.byte (i + 1) = 4 then data.netShort (i + 2) else 0
  else announcedMss data len (i + (data.byte (i + 1)).toNat)
termination_by len - i

/-- The options of a segment; none if the header length is below 5. -/
def optionBytes (headerLen : BitVec 4) : Nat := 4 * headerLen.toNat - 20

/-- `get_option_mss` terminates, reads only option bytes, and returns what they announce. -/
structure ParsesMss (headerLen : BitVec 4) (data : Bytes) : Prop where
  inside : ∀ fuel, (getOptionMss fuel headerLen data).All (· < optionBytes headerLen)
  returns : ∃ fuel, (getOptionMss fuel headerLen data).result = some (announcedMss data (optionBytes headerLen) 0)

/-- The option of a SYN is read back, from the option bytes alone. -/
structure ReadsBack (data : Bytes) (mss : BitVec 16) (written : BitVec 4 × Bytes) : Prop where
  inside : ∀ fuel, (getOptionMss fuel written.1 written.2).All (· < optionBytes written.1)
  returns : ∃ fuel, (getOptionMss fuel written.1 written.2).result = some mss
  behind : ∀ i, 4 ≤ i → written.2.byte i = data.byte i

/-- The option at a position has a length byte of its own. -/
structure Sized (data : Bytes) (len i : Nat) : Prop where
  inside : i + 1 < len
  notEnd : data.byte i ≠ 0
  notNop : data.byte i ≠ 1
  notMss : data.byte i ≠ 2

/-- The options from a position on, as the loop walks over them: no option is cut off before its
length byte or has the length 0, no MSS option before its value; and behind a malformed option,
or in one, no value other than 0 is taken for an MSS. -/
inductive Parseable (data : Bytes) (len : Nat) : Bool → Nat → Prop
  | done {passed : Bool} {i : Nat} (behind : len ≤ i) : Parseable data len passed i
  | endOfOptions {passed : Bool} {i : Nat} (inside : i < len) (kind : data.byte i = 0) : Parseable data len passed i
  | nop {passed : Bool} {i : Nat} (inside : i < len) (kind : data.byte i = 1) : Parseable data len passed (i + 1) →
      Parseable data len passed i
  | mss {passed : Bool} {i : Nat} (inside : i + 3 < len) (kind : data.byte i = 2) (size : 4 ≤ data.byte (i + 1))
      (value : passed = false ∧ data.byte (i + 1) = 4 ∨ data.netShort (i + 2) = 0) : Parseable data len passed i
  | shortMss {passed : Bool} {i : Nat} (inside : i + 2 < len) (kind : data.byte i = 2) (size : ¬4 ≤ data.byte (i + 1))
      (value : data.byte (i + 2) = 0) : Parseable data len passed i
  | tooLong {passed : Bool} {i : Nat} (sized : Sized data len i) (size : len < i + (data.byte (i + 1)).toNat) :
      Parseable data len passed i
  | other {passed : Bool} {i : Nat} (sized : Sized data len i) (size : 2 ≤ (data.byte (i + 1)).toNat)
      (fits : i + (data.byte (i + 1)).toNat ≤ len) : Parseable data len passed (i + (data.byte (i + 1)).toNat) →
      Parseable data len passed i
  | lengthOne {passed : Bool} {i : Nat} (sized : Sized data len i) (size : (data.byte (i + 1)).toNat = 1) :
      Parseable data len true (i + 1) → Parseable data len passed i

/-- What the loop has to return: nothing counts behind a malformed option. -/
def expected (data : Bytes) (len : Nat) (passed : Bool) (i : Nat) : BitVec 16 := if passed then 0 else announcedMss data len i

def walk (data : Bytes) (len fuel i : Nat) : Traced Nat (BitVec 16) := Traced.loop (optionRound data len) fuel i

/-! ### Rounds -/

@[simp] theorem result_readByte_bind {α : Type} (data : Bytes) (position : Nat) (f : BitVec 8 → Traced Nat α) :
    (readByte data position >>= f).result = (f (data.byte position)).result := rfl

@[simp] theorem all_readByte_bind {α : Type} (data : Bytes) (position : Nat) (f : BitVec 8 → Traced Nat α) :
    (readByte data position >>= f).All (· < len) ↔ position < len ∧ (f (data.byte position)).All (· < len) := by
  rw [Traced.all_bind, readByte, Traced.all_emit]
  exact and_congr_right fun _ => ⟨fun later => later _ rfl, fun later a returned => Option.some.inj returned ▸ later⟩

theorem walk_done (behind : len ≤ i) : walk data len (fuel + 1) i = pure 0 := by
  unfold walk
  rw [Traced.loop_succ, optionRound, if_pos behind]
  rfl

theorem walk_succ (inside : i < len) : walk data len (fuel + 1) i =
    readByte data i >>= fun kind =>
      if kind = 0 then pure 0
      else if kind = 1 then walk data len fuel (i + 1)
      else readByte data (i + 1) >>= fun size =>
        if kind = 2 then readByte data (i + 2) >>= fun high =>
          if 4 ≤ size then readByte data (i + 3) >>= fun low => pure (high ++ low)
          else pure (high ++ 0#8)
        else walk data len fuel (i + size.toNat) := by
  unfold walk
  rw [Traced.loop_succ, optionRound, if_neg (Nat.not_le.mpr inside)]
  simp only [bind_assoc]
  refine congrArg _ (funext fun kind => ?_)
  by_cases last : kind = 0
  · simp [last]
  by_cases nop : kind = 1
  · simp [nop]
  simp only [last, nop, if_false, bind_assoc]
  refine congrArg _ (funext fun size => ?_)
  by_cases mss : kind = 2
  · simp only [mss, if_true, bind_assoc]
    refine congrArg _ (funext fun high => ?_)
    by_cases long : 4 ≤ size
    · simp only [long, if_true, bind_assoc, pure_bind]
    · simp only [long, if_false, pure_bind]
  · simp only [mss, if_false, pure_bind]

theorem readByte_bind {α : Type} (data : Bytes) (position : Nat) (f : BitVec 8 → Traced Nat α) :
    readByte data position >>= f = readByte data position >>= fun _ => f (data.byte position) := rfl

theorem walk_end (inside : i < len) (kind : data.byte i = 0) :
    walk data len (fuel + 1) i = readByte data i >>= fun _ => pure 0 := by
  rw [walk_succ inside, readByte_bind, if_pos kind]

theorem walk_nop (inside : i < len) (kind : data.byte i = 1) :
    walk data len (fuel + 1) i = readByte data i >>= fun _ => walk data len fuel (i + 1) := by
  rw [walk_succ inside, readByte_bind, if_neg (by rw [kind]; decide), if_pos kind]

theorem walk_mss (inside : i < len) (kind : data.byte i = 2) (size : 4 ≤ data.byte (i + 1)) :
    walk data len (fuel + 1) i = readByte data i >>= fun _ => readByte data (i + 1) >>= fun _ =>
      readByte data (i + 2) >>= fun _ => readByte data (i + 3) >>= fun _ => pure (data.netShort (i + 2)) := by
  rw [walk_succ inside, readByte_bind, if_neg (by rw [kind]; decide), if_neg (by rw [kind]; decide),
    readByte_bind data (i + 1), if_pos kind, readByte_bind data (i + 2), if_pos size, readByte_bind data (i + 3)]
  rfl

theorem walk_shortMss (inside : i < len) (kind : data.byte i = 2) (size : ¬4 ≤ data.byte (i + 1)) :
    walk data len (fuel + 1) i = readByte data i >>= fun _ => readByte data (i + 1) >>= fun _ =>
      readByte data (i + 2) >>= fun _ => pure (data.byte (i + 2) ++ 0#8) := by
  rw [walk_succ inside, readByte_bind, if_neg (by rw [kind]; decide), if_neg (by rw [kind]; decide),
    readByte_bind data (i + 1), if_pos kind, readByte_bind data (i + 2), if_neg size]

theorem walk_sized (inside : i < len) (notEnd : data.byte i ≠ 0) (notNop : data.byte i ≠ 1) (notMss : data.byte i ≠ 2) :
    walk data len (fuel + 1) i = readByte data i >>= fun _ => readByte data (i + 1) >>= fun _ =>
      walk data len fuel (i + (data.byte (i + 1)).toNat) := by
  rw [walk_succ inside, readByte_bind, if_neg notEnd, if_neg notNop, readByte_bind data (i + 1), if_neg notMss]

theorem Sized.walk (sized : Sized data len i) :
    walk data len (fuel + 1) i = readByte data i >>= fun _ => readByte data (i + 1) >>= fun _ =>
      MssOption.walk data len fuel (i + (data.byte (i + 1)).toNat) :=
  walk_sized (Nat.lt_of_succ_lt sized.inside) sized.notEnd sized.notNop sized.notMss

/-! ### The expected value -/

theorem announcedMss_done (behind : len ≤ i ∨ data.byte i = 0) : announcedMss data len i = 0 := by
  rw [announcedMss, if_pos behind]

theorem announcedMss_nop (inside : i < len) (kind : data.byte i = 1) : announcedMss data len i = announcedMss data len (i + 1) := by
  rw [announcedMss, if_neg (by rw [kind]; simp [inside]), if_pos kind]

theorem announcedMss_malformed (notNop : data.byte i ≠ 1)
    (malformed : len ≤ i + 1 ∨ (data.byte (i + 1)).toNat < 2 ∨ len < i + (data.byte (i + 1)).toNat) : announcedMss data len i = 0 := by
  rw [announcedMss, if_neg notNop, if_pos malformed]
  exact ite_self 0

theorem announcedMss_mss (inside : i + 3 < len) (kind : data.byte i = 2) (size : data.byte (i + 1) = 4) :
    announcedMss data len i = data.netShort (i + 2) := by
  have four : (data.byte (i + 1)).toNat = 4 := congrArg BitVec.toNat size
  rw [announcedMss, if_neg (by rw [kind]; simp; omega), if_neg (by rw [kind]; decide), if_neg (by omega), if_pos kind, if_pos size]

theorem announcedMss_otherMss (kind : data.byte i = 2) (size : data.byte (i + 1) ≠ 4) : announcedMss data len i = 0 := by
  rw [announcedMss, if_neg (show ¬data.byte i = 1 by rw [kind]; decide), if_pos kind, if_neg size, ite_self, ite_self]

theorem announcedMss_other (sized : Sized data len i) (size : 2 ≤ (data.byte (i + 1)).toNat)
    (fits : i + (data.byte (i + 1)).toNat ≤ len) :
    announcedMss data len i = announcedMss data len (i + (data.byte (i + 1)).toNat) := by
  have inside := sized.inside
  have more : ¬(len ≤ i ∨ data.byte i = 0) := fun last => last.elim (by omega) sized.notEnd
  rw [announcedMss, if_neg more, if_neg sized.notNop, if_neg (by omega), if_neg sized.notMss]

theorem expected_zero (zero : announcedMss data len i = 0) (passed : Bool) : expected data len passed i = 0 := by
  unfold expected
  rw [zero]
  exact ite_self 0

theorem expected_congr {j : Nat} (same : announcedMss data len i = announcedMss data len j) (passed : Bool) :
    expected data len passed i = expected data len passed j := by
  unfold expected
  rw [same]

theorem expected_mss (inside : i + 3 < len) (kind : data.byte i = 2) (passed : Bool) : expected data len passed i =
    if passed = false ∧ data.byte (i + 1) = 4 then data.netShort (i + 2) else 0 := by
  by_cases size : data.byte (i + 1) = 4
  · unfold expected
    rw [announcedMss_mss inside kind size]
    cases passed <;> simp [size]
  · rw [if_neg fun both => size both.2]
    exact expected_zero (announcedMss_otherMss kind size) passed

theorem expected_shortMss (kind : data.byte i = 2) (size : ¬4 ≤ data.byte (i + 1)) (passed : Bool) :
    expected data len passed i = 0 :=
  expected_zero (announcedMss_otherMss kind fun four => size (four ▸ BitVec.le_refl _)) passed

/-- A value of one byte, as the function returns it. -/
theorem oneByte_eq_zero {value : BitVec 8} : value ++ 0#8 = (0 : BitVec 16) ↔ value = 0 := by
  constructor
  · intro zero
    have number : value.toNat <<< 8 ||| 0 = 0 := (BitVec.toNat_append value 0#8).symm.trans (congrArg BitVec.toNat zero)
    rw [Nat.or_zero, Nat.shiftLeft_eq] at number
    apply BitVec.eq_of_toNat_eq
    change value.toNat = 0
    omega
  · rintro rfl
    rfl

/-! ### The walk over parseable options -/

theorem Parseable.inside (parseable : Parseable data len passed i) (fuel : Nat) : (walk data len fuel i).All (· < len) := by
  induction fuel generalizing passed i with
  | zero => exact Traced.all_running
  | succ fuel ih =>
    cases parseable with
    | done behind =>
      rw [walk_done behind]
      exact Traced.all_pure _
    | endOfOptions inside kind =>
      rw [walk_end inside kind, all_readByte_bind]
      exact ⟨inside, Traced.all_pure _⟩
    | nop inside kind rest =>
      rw [walk_nop inside kind, all_readByte_bind]
      exact ⟨inside, ih rest⟩
    | mss inside kind size _ =>
      rw [walk_mss (by omega) kind size]
      simp only [all_readByte_bind]
      exact ⟨by omega, by omega, by omega, inside, Traced.all_pure _⟩
    | shortMss inside kind size _ =>
      rw [walk_shortMss (by omega) kind size]
      simp only [all_readByte_bind]
      exact ⟨by omega, by omega, inside, Traced.all_pure _⟩
    | tooLong sized size =>
      rw [sized.walk, all_readByte_bind, all_readByte_bind]
      have ends : Parseable data len passed (i + (data.byte (i + 1)).toNat) := .done (Nat.le_of_lt size)
      exact ⟨Nat.lt_of_succ_lt sized.inside, sized.inside, ih ends⟩
    | other sized size fits rest =>
      rw [sized.walk, all_readByte_bind, all_readByte_bind]
      exact ⟨Nat.lt_of_succ_lt sized.inside, sized.inside, ih rest⟩
    | lengthOne sized size rest =>
      rw [sized.walk, all_readByte_bind, all_readByte_bind, size]
      exact ⟨Nat.lt_of_succ_lt sized.inside, sized.inside, ih rest⟩

theorem Parseable.returns (parseable : Parseable data len passed i) :
    ∃ fuel, (walk data len fuel i).result = some (expected data len passed i) := by
  induction parseable with
  | done behind => exact ⟨1, by rw [walk_done behind, expected_zero (announcedMss_done (.inl behind)), Traced.result_pure]⟩
  | endOfOptions inside kind =>
    exact ⟨1, by rw [walk_end inside kind, expected_zero (announcedMss_done (.inr kind)), result_readByte_bind, Traced.result_pure]⟩
  | nop inside kind _ ih =>
    obtain ⟨fuel, result⟩ := ih
    exact ⟨fuel + 1, by rw [walk_nop inside kind, result_readByte_bind, result, expected_congr (announcedMss_nop inside kind)]⟩
  | mss inside kind size value =>
    refine ⟨1, ?_⟩
    rw [walk_mss (by omega) kind size, expected_mss inside kind]
    simp only [result_readByte_bind, Traced.result_pure]
    rcases value with announced | zero
    · rw [if_pos announced]
    · rw [zero, ite_self]
  | shortMss inside kind size value =>
    refine ⟨1, ?_⟩
    rw [walk_shortMss (by omega) kind size, expected_shortMss kind size]
    simp only [result_readByte_bind, Traced.result_pure]
    exact congrArg some (oneByte_eq_zero.mpr value)
  | tooLong sized size =>
    refine ⟨2, ?_⟩
    rw [sized.walk, walk_done (Nat.le_of_lt size), expected_zero (announcedMss_malformed sized.notNop (.inr (.inr size)))]
    rfl
  | other sized size fits _ ih =>
    obtain ⟨fuel, result⟩ := ih
    refine ⟨fuel + 1, ?_⟩
    rw [sized.walk, result_readByte_bind, result_readByte_bind, result, expected_congr (announcedMss_other sized size fits)]
  | lengthOne sized size _ ih =>
    obtain ⟨fuel, result⟩ := ih
    refine ⟨fuel + 1, ?_⟩
    rw [sized.walk, result_readByte_bind, result_readByte_bind, size, result,
      expected_zero (announcedMss_malformed sized.notNop (.inr (.inl (by omega))))]
    rfl

theorem Parseable.of_returns (returns : (walk data len fuel i).result = some (expected data len passed i))
    (inside : (walk data len fuel i).All (· < len)) : Parseable data len passed i := by
  induction fuel generalizing passed i with
  | zero => nomatch returns
  | succ fuel ih =>
    by_cases behind : len ≤ i
    · exact .done behind
    have within : i < len := Nat.not_le.mp behind
    by_cases last : data.byte i = 0
    · exact .endOfOptions within last
    by_cases nop : data.byte i = 1
    · rw [walk_nop within nop] at returns inside
      rw [result_readByte_bind, expected_congr (announcedMss_nop within nop)] at returns
      rw [all_readByte_bind] at inside
      exact .nop within nop (ih returns inside.2)
    by_cases mss : data.byte i = 2
    · by_cases size : 4 ≤ data.byte (i + 1)
      · rw [walk_mss within mss size] at returns inside
        simp only [result_readByte_bind, Traced.result_pure, Option.some.injEq] at returns
        simp only [all_readByte_bind] at inside
        refine .mss inside.2.2.2.1 mss size ?_
        rw [expected_mss inside.2.2.2.1 mss] at returns
        by_cases announced : passed = false ∧ data.byte (i + 1) = 4
        · exact .inl announced
        · rw [if_neg announced] at returns
          exact .inr returns
      · rw [walk_shortMss within mss size] at returns inside
        simp only [result_readByte_bind, Traced.result_pure, Option.some.injEq] at returns
        simp only [all_readByte_bind] at inside
        rw [expected_shortMss mss size] at returns
        exact .shortMss inside.2.2.1 mss size (oneByte_eq_zero.mp returns)
    · rw [walk_sized within last nop mss] at returns inside
      rw [result_readByte_bind, result_readByte_bind] at returns
      rw [all_readByte_bind, all_readByte_bind] at inside
      have sized : Sized data len i := ⟨inside.2.1, last, nop, mss⟩
      by_cases size : 2 ≤ (data.byte (i + 1)).toNat
      · by_cases fits : i + (data.byte (i + 1)).toNat ≤ len
        · rw [expected_congr (announcedMss_other sized size fits)] at returns
          exact .other sized size fits (ih returns inside.2.2)
        · exact .tooLong sized (Nat.not_le.mp fits)
      · have malformed : announcedMss data len i = 0 := announcedMss_malformed nop (.inr (.inl (Nat.not_le.mp size)))
        by_cases one : (data.byte (i + 1)).toNat = 1
        · rw [one, expected_zero malformed] at returns
          rw [one] at inside
          exact .lengthOne sized one (ih returns inside.2.2)
        · -- an option of length 0 leaves the loop where it is
          have zero : (data.byte (i + 1)).toNat = 0 := by omega
          rw [zero] at returns inside
          exact ih returns inside.2.2

/-! ### get_option_mss and set_option_mss -/

theorem getOptionsLen_toNat {headerLen : BitVec 4} (five : 5 ≤ headerLen.toNat) :
    (getOptionsLen headerLen).toNat = optionBytes headerLen := by
  have := headerLen.isLt
  have width : (headerLen.setWidth 8).toNat = headerLen.toNat := by
    rw [BitVec.toNat_setWidth]
    omega
  unfold getOptionsLen optionBytes
  rw [BitVec.toNat_mul, BitVec.toNat_sub_of_le (by rw [BitVec.le_def, width]; exact five), width]
  change (headerLen.toNat - 5) * 4 % 256 = _
  omega

/-- Below five words the length of the options wraps around, and their first byte is read. -/
theorem getOptionsLen_pos {headerLen : BitVec 4} (short : headerLen.toNat < 5) : 0 < (getOptionsLen headerLen).toNat := by
  have := headerLen.isLt
  unfold getOptionsLen
  simp only [BitVec.toNat_mul, BitVec.toNat_sub, BitVec.toNat_setWidth]
  change 0 < (256 - 5 + headerLen.toNat % 256) % 256 * 4 % 256
  omega

theorem parsesMss_iff_parseable (headerLen : BitVec 4) (data : Bytes) :
    ParsesMss headerLen data ↔ 5 ≤ headerLen.toNat ∧ Parseable data (optionBytes headerLen) false 0 := by
  constructor
  · intro parses
    have five : 5 ≤ headerLen.toNat := by
      by_contra short
      have inside := parses.inside 1
      change (walk data (getOptionsLen headerLen).toNat 1 0).All _ at inside
      rw [walk_succ (getOptionsLen_pos (by omega)), all_readByte_bind] at inside
      have none : optionBytes headerLen = 0 := by
        unfold optionBytes
        omega
      omega
    obtain ⟨fuel, returns⟩ := parses.returns
    have inside := parses.inside fuel
    unfold getOptionMss at returns inside
    rw [getOptionsLen_toNat five] at returns inside
    exact ⟨five, .of_returns returns inside⟩
  · rintro ⟨five, parseable⟩
    constructor
    · intro fuel
      unfold getOptionMss
      rw [getOptionsLen_toNat five]
      exact parseable.inside fuel
    · obtain ⟨fuel, returns⟩ := parseable.returns
      refine ⟨fuel, ?_⟩
      unfold getOptionMss
      rw [getOptionsLen_toNat five]
      exact returns

theorem setOptionMss_readsBack {data : Bytes} (room : 4 ≤ data.length) (mss : BitVec 16) :
    ReadsBack data mss (setOptionMss writtenHeaderLen data mss) := by
  have fits : 0 + 4 ≤ data.length := room
  let option : Bytes := [2, 4, UInt8.ofBitVec (mss.extractLsb' 8 8), UInt8.ofBitVec (mss.extractLsb' 0 8)]
  have byte (i : Nat) : (data.memcpy 0 option 4).byte i = _ := Bytes.byte_memcpy fits i
  obtain ⟨headerLen, bytes, written⟩ : ∃ headerLen bytes, setOptionMss writtenHeaderLen data mss = (headerLen, bytes) := ⟨_, _, rfl⟩
  have six : headerLen = 6 := (congrArg Prod.fst written).symm
  have memcpy : bytes = data.memcpy 0 _ 4 := (congrArg Prod.snd written).symm
  rw [written]
  rw [← memcpy] at byte
  have size : bytes.byte 1 = 4 := byte 1
  have kind : bytes.byte 0 = 2 := byte 0
  have value : bytes.netShort 2 = mss := by
    have high : bytes.byte 2 = mss.extractLsb' 8 8 := byte 2
    have low : bytes.byte 3 = mss.extractLsb' 0 8 := byte 3
    unfold Bytes.netShort
    rw [high, low]
    have whole : ∀ x : BitVec (8 + 8), x.extractLsb' 8 8 ++ x.extractLsb' 0 8 = x := fun _ => BitVec.extractLsb'_append_extractLsb'
    exact whole mss
  have parses : ParsesMss 6 bytes :=
    (parsesMss_iff_parseable 6 bytes).mpr
      ⟨by decide, .mss (by decide) kind (by rw [size]; decide) (.inl ⟨rfl, size⟩)⟩
  subst six
  constructor
  · exact parses.inside
  · have announced : announcedMss bytes (optionBytes 6) 0 = mss := (announcedMss_mss (by decide) kind size).trans value
    rw [← announced]
    exact parses.returns
  · intro i behind
    exact (byte i).trans (if_neg (by omega))

/-! ### Results -/

/-- Every SYN that is sent carries an MSS its receiver reads back; a SYN that is received is parsed
as the option asks if its options are parseable, and not otherwise. -/
theorem parsesMss_iff (headerLen : BitVec 4) (data : Bytes) :
    (ParsesMss headerLen data ↔ 5 ≤ headerLen.toNat ∧ Parseable data (optionBytes headerLen) false 0) ∧
      ∀ mss : BitVec 16, 4 ≤ data.length → ReadsBack data mss (setOptionMss writtenHeaderLen data mss) :=
  ⟨parsesMss_iff_parseable headerLen data, fun mss room => setOptionMss_readsBack room mss⟩

theorem parsesMss_iff_ethernet : ReadsBack [0, 0, 0, 0] 1460 (setOptionMss writtenHeaderLen [0, 0, 0, 0] 1460) :=
  (parsesMss_iff writtenHeaderLen [0, 0, 0, 0]).2 1460 (by decide)

/-- An unknown option of length 0 is read again and again. -/
theorem zeroLength_loops : ¬ParsesMss 6 [3, 0, 0, 0] := by
  rw [parsesMss_iff_parseable]
  rintro ⟨-, parseable⟩
  generalize position : 0 = i at parseable
  cases parseable with
  | done behind => exact absurd (position ▸ behind) (by decide)
  | endOfOptions _ kind | nop _ kind | mss _ kind | shortMss _ kind => exact absurd (position ▸ kind) (by decide)
  | tooLong _ size | other _ size | lengthOne _ size => exact absurd (position ▸ size) (by decide)

end MssOption

end IPStack
