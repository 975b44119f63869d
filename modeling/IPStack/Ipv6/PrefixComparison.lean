import IPStack.Ipv6.AddressMemory
import Mathlib.Data.Set.Function
import Mathlib.Order.Interval.Set.Defs

/-! The comparison of addresses up to a prefix length, and the prefixes it is documented to
compare. -/

namespace IPStack

namespace Ipv6Addr

/-- A byte of an address; behind the last one every byte reads as 0. -/
def byte (addr : Ipv6Addr) (block : Nat) : UInt8 := addr.toList.getD block 0

theorem ext_byte {addr other : Ipv6Addr} (same : ∀ block < 16, addr.byte block = other.byte block) : addr = other := by
  apply Vector.ext
  intro block inside
  have here := same block inside
  unfold byte at here
  rw [List.getD_eq_getElem _ _ (by simpa using inside), List.getD_eq_getElem _ _ (by simpa using inside)] at here
  simpa using here

/-- The bits of an address from left to right. -/
def bit (addr : Ipv6Addr) (i : Nat) : Bool := (addr.byte (i / 8)).toBitVec.getMsbD (i % 8)

/-- The first `n` bits are equal. -/
def SamePrefix (n : Nat) (addr addrprefix : Ipv6Addr) : Prop := Set.EqOn addr.bit addrprefix.bit (Set.Iio n)

variable {addr addrprefix : Ipv6Addr} {n m : Nat}

theorem samePrefix_equivalence (n : Nat) : Equivalence (SamePrefix n) where
  refl addr := Set.eqOn_refl addr.bit _
  symm same := same.symm
  trans same next := same.trans next

theorem SamePrefix.mono (same : SamePrefix n addr addrprefix) (shorter : m ≤ n) : SamePrefix m addr addrprefix :=
  Set.EqOn.mono (fun _ inside => Nat.lt_of_lt_of_le inside shorter) same

/-- The top bits of two bytes are equal. -/
def sameTopBits (rest : Nat) (x y : UInt8) : Prop := ∀ i < rest, x.toBitVec.getMsbD i = y.toBitVec.getMsbD i

theorem sameTopBits_eight {x y : UInt8} : sameTopBits 8 x y ↔ x = y := by
  constructor
  · intro same
    apply UInt8.eq_of_toBitVec_eq
    exact BitVec.eq_of_getMsbD_eq same
  · rintro rfl
    exact fun _ _ => rfl

instance (rest : Nat) (x y : UInt8) : Decidable (sameTopBits rest x y) := inferInstanceAs (Decidable (∀ i < rest, _))

/-- A prefix is a number of whole bytes and the top bits of the next one. -/
theorem samePrefix_iff : SamePrefix n addr addrprefix ↔
    (∀ block < n / 8, addr.byte block = addrprefix.byte block) ∧
      sameTopBits (n % 8) (addr.byte (n / 8)) (Ipv6Addr.byte addrprefix (n / 8)) := by
  constructor
  · intro same
    refine ⟨fun block whole => sameTopBits_eight.mp fun i inside => ?_, fun i inside => ?_⟩
    · have here := same (show 8 * block + i < n by omega)
      unfold bit at here
      rwa [show (8 * block + i) / 8 = block by omega, show (8 * block + i) % 8 = i by omega] at here
    · have here := same (show 8 * (n / 8) + i < n by omega)
      unfold bit at here
      rwa [show (8 * (n / 8) + i) / 8 = n / 8 by omega, show (8 * (n / 8) + i) % 8 = i by omega] at here
  · rintro ⟨whole, top⟩ i inside
    have inside : i < n := inside
    unfold bit
    rcases Nat.lt_or_ge (i / 8) (n / 8) with before | last
    · rw [whole _ before]
    · rw [show i / 8 = n / 8 by omega]
      exact top _ (by omega)

instance (n : Nat) (addr addrprefix : Ipv6Addr) : Decidable (SamePrefix n addr addrprefix) := decidable_of_iff' _ samePrefix_iff

theorem sameTopBits_iff {rest : Nat} {x y : UInt8} :
    sameTopBits rest x y ↔ ∀ i < rest, (x ^^^ y).toBitVec.getMsbD i = false := by
  simp only [sameTopBits, UInt8.toBitVec_xor, BitVec.getMsbD_xor, bne_eq_false_iff_eq]

end Ipv6Addr

open Ipv6Addr

/-! ### What the code compares -/

/-- The mask for a byte of which fewer than eight bits are left to compare. -/
def prefixMask (prefixlen : UInt8) : UInt8 := ~~~((2 ^^^ (7 - prefixlen)) - 1)

theorem and_eq_and_iff {x y mask : UInt8} : x &&& mask = y &&& mask ↔ (x ^^^ y) &&& mask = 0 := by
  have distributes : (x ^^^ y) &&& mask = (x &&& mask) ^^^ (y &&& mask) := by
    apply UInt8.eq_of_toBitVec_eq
    apply BitVec.eq_of_getLsbD_eq
    intro i _
    simp [Bool.and_xor_distrib_right]
  rw [distributes, UInt8.xor_eq_zero_iff]

/-- The bytes of the whole blocks are equal, and so is the masked rest of the next one. No rest
is looked at behind whole blocks. -/
theorem comparePrefixBytes_iff (blocks : List (UInt8 × UInt8)) (prefixlen : UInt8) :
    comparePrefixBytes blocks prefixlen = true ↔
      (∀ block < prefixlen.toNat / 8, (blocks.getD block (0, 0)).1 = (blocks.getD block (0, 0)).2) ∧
        (prefixlen.toNat % 8 = 0 ∧ prefixlen.toNat ≠ 0 ∨
          ((blocks.getD (prefixlen.toNat / 8) (0, 0)).1 ^^^ (blocks.getD (prefixlen.toNat / 8) (0, 0)).2) &&&
            prefixMask (.ofNat (prefixlen.toNat % 8)) = 0) := by
  induction blocks generalizing prefixlen with
  | nil => simp [comparePrefixBytes]
  | cons pair rest ih =>
    obtain ⟨addr, addrprefix⟩ := pair
    unfold comparePrefixBytes
    by_cases whole : 8 ≤ prefixlen
    · have le : 8 ≤ prefixlen.toNat := UInt8.le_iff_toNat_le.mp whole
      have left : (prefixlen - 8).toNat = prefixlen.toNat - 8 := UInt8.toNat_sub_of_le _ _ whole
      have blocks : prefixlen.toNat / 8 = (prefixlen.toNat - 8) / 8 + 1 := by omega
      have remainder : prefixlen.toNat % 8 = (prefixlen.toNat - 8) % 8 := by omega
      rw [if_pos whole, blocks, List.getD_cons_succ]
      by_cases same : addr = addrprefix
      · rw [if_neg (not_not_intro same)]
        have first : (∀ block < (prefixlen.toNat - 8) / 8 + 1, (((addr, addrprefix) :: rest).getD block (0, 0)).1 =
            (((addr, addrprefix) :: rest).getD block (0, 0)).2) ↔
              ∀ block < (prefixlen.toNat - 8) / 8, (rest.getD block (0, 0)).1 = (rest.getD block (0, 0)).2 := by
          constructor
          · exact fun all block inside => all (block + 1) (Nat.succ_lt_succ inside)
          · intro all block inside
            cases block with
            | zero => exact same
            | succ block => exact all block (Nat.lt_of_succ_lt_succ inside)
        rw [first]
        by_cases ends : prefixlen - 8 = 0
        · have last : prefixlen.toNat - 8 = 0 := left.symm.trans (congrArg UInt8.toNat ends)
          rw [if_pos ends, last]
          simp only [Nat.zero_div, Nat.not_lt_zero, false_implies, implies_true, true_and, true_iff]
          omega
        · have more : prefixlen.toNat - 8 ≠ 0 := fun none => ends (UInt8.toNat_inj.mp (left.trans none))
          rw [if_neg ends, ih, left, remainder]
          refine and_congr_right fun _ => or_congr_left (and_congr_right fun _ => ?_)
          omega
      · rw [if_pos same]
        refine iff_of_false Bool.false_ne_true ?_
        rintro ⟨all, -⟩
        exact same (all 0 (Nat.succ_pos _))
    · have lt : prefixlen.toNat < 8 := by simpa [UInt8.le_iff_toNat_le] using whole
      have none : prefixlen.toNat / 8 = 0 := by omega
      have rest : prefixlen.toNat % 8 = prefixlen.toNat := by omega
      rw [if_neg whole, none, rest]
      simp only [Nat.not_lt_zero, false_implies, implies_true, true_and, List.getD_cons_zero, UInt8.ofNat_toNat,
        beq_iff_eq, and_eq_and_iff, prefixMask]
      exact (or_iff_right fun both => both.2 both.1).symm

/-- The wrong mask and the right one agree on two bytes of which `rest` bits are to be
compared, given the bits that differ. -/
def maskExact (rest : Nat) (differing : BitVec 8) : Prop :=
  (rest = 0 → differing = 0 ∨ differing = 4) ∧
  (rest = 1 → differing < 4 ∨ 128 ≤ differing) ∧
  (rest = 2 → differing = 0 ∨ differing = 2 ∨ differing = 4 ∨ differing = 6 ∨ 64 ≤ differing) ∧
  (rest = 3 → differing = 0 ∨ differing = 1 ∨ differing = 4 ∨ differing = 5 ∨ 32 ≤ differing) ∧
  (rest = 4 → differing = 0 ∨ 16 ≤ differing) ∧
  (rest = 5 → differing < 8) ∧
  (rest = 6 → differing = 0 ∨ differing = 2 ∨ 4 ≤ differing)

instance (rest : Nat) (differing : BitVec 8) : Decidable (maskExact rest differing) := inferInstanceAs (Decidable (_ ∧ _))

theorem mask_table : ∀ rest < 8, ∀ differing : BitVec 8,
    ((differing &&& (prefixMask (.ofNat rest)).toBitVec = 0 ↔ ∀ i < rest, differing.getMsbD i = false) ↔
      maskExact rest differing) := by
  decide +kernel

/-- One of the whole bytes differs, or no byte is left to compare in part, or the mask for
that byte does no harm. -/
def ComparesExactly (addr addrprefix : Ipv6Addr) (prefixlen : UInt8) : Prop :=
  let n := prefixlen.toNat
  (∃ block < n / 8, addr.byte block ≠ addrprefix.byte block) ∨ (n % 8 = 0 ∧ n ≠ 0) ∨
    maskExact (n % 8) (addr.byte (n / 8) ^^^ addrprefix.byte (n / 8)).toBitVec

theorem getD_zip (addr addrprefix : Ipv6Addr) (block : Nat) :
    (addr.toList.zip addrprefix.toList).getD block (0, 0) = (addr.byte block, addrprefix.byte block) := by
  unfold byte
  have same : addr.toList.length = addrprefix.toList.length := by simp
  generalize addr.toList = l at same ⊢
  generalize addrprefix.toList = l' at same ⊢
  induction l generalizing l' block with
  | nil =>
    rw [List.length_eq_zero_iff.mp same.symm]
    simp
  | cons head tail ih =>
    cases l' with
    | nil => cases same
    | cons head' tail' =>
      cases block with
      | zero => rfl
      | succ block => simpa using ih block tail' (Nat.succ.inj same)

theorem compareIpv6Addr_iff (addr addrprefix : Ipv6Addr) (prefixlen : UInt8) :
    compareIpv6Addr addr addrprefix prefixlen = true ↔
      (∀ block < prefixlen.toNat / 8, addr.byte block = addrprefix.byte block) ∧
        (prefixlen.toNat % 8 = 0 ∧ prefixlen.toNat ≠ 0 ∨
          (addr.byte (prefixlen.toNat / 8) ^^^ addrprefix.byte (prefixlen.toNat / 8)) &&&
            prefixMask (.ofNat (prefixlen.toNat % 8)) = 0) := by
  simp only [compareIpv6Addr, comparePrefixBytes_iff, getD_zip]

/-- Whatever the masks are, a comparison of masked bytes is an equivalence. -/
theorem compareIpv6Addr_equivalence (prefixlen : UInt8) :
    Equivalence fun addr addrprefix => compareIpv6Addr addr addrprefix prefixlen = true := by
  simp only [compareIpv6Addr_iff, ← and_eq_and_iff]
  refine ⟨fun addr => ⟨fun _ _ => rfl, .inr rfl⟩, fun same => ?_, fun same next => ?_⟩
  · exact ⟨fun block inside => (same.1 block inside).symm, same.2.imp_right Eq.symm⟩
  · refine ⟨fun block inside => (same.1 block inside).trans (next.1 block inside), ?_⟩
    rcases same.2 with whole | masked
    · exact .inl whole
    · exact next.2.imp_right masked.trans

/-- The code compares two addresses up to a prefix length as documented exactly when the
mask does no harm. -/
theorem compares_iff (addr addrprefix : Ipv6Addr) (prefixlen : UInt8) :
    (compareIpv6Addr addr addrprefix prefixlen = true ↔ SamePrefix prefixlen.toNat addr addrprefix) ↔
      ComparesExactly addr addrprefix prefixlen := by
  rw [compareIpv6Addr_iff, samePrefix_iff, sameTopBits_iff]
  unfold ComparesExactly
  dsimp only
  generalize prefixlen.toNat = n
  by_cases differs : ∃ block < n / 8, addr.byte block ≠ addrprefix.byte block
  · obtain ⟨block, inside, other⟩ := differs
    refine iff_of_true (iff_of_false ?_ ?_) (.inl ⟨block, inside, other⟩) <;> exact fun both => other (both.1 block inside)
  · have equal : ∀ block < n / 8, addr.byte block = addrprefix.byte block := fun block inside =>
      not_not.mp fun other => differs ⟨block, inside, other⟩
    rw [or_iff_right differs]
    simp only [and_iff_right equal]
    by_cases whole : n % 8 = 0 ∧ n ≠ 0
    · simp [whole]
    · have table := mask_table (n % 8) (Nat.mod_lt _ (by decide))
        (addr.byte (n / 8) ^^^ addrprefix.byte (n / 8)).toBitVec
      rw [or_iff_right whole, or_iff_right whole, ← table, ← UInt8.toBitVec_inj]
      rfl

/-- For every prefix length the comparison is an equivalence, and it is the documented one for
two addresses exactly when the mask for the byte that is compared in part does no harm to them.
Where that is so for two lengths, agreement on the longer prefix is agreement on the shorter. -/
theorem comparesPrefixes (addr addrprefix : Ipv6Addr) (prefixlen : UInt8) :
    ((compareIpv6Addr addr addrprefix prefixlen = true ↔ SamePrefix prefixlen.toNat addr addrprefix) ↔
      ComparesExactly addr addrprefix prefixlen) ∧
    (Equivalence fun addr addrprefix => compareIpv6Addr addr addrprefix prefixlen = true) ∧
    ∀ shorter ≤ prefixlen, ComparesExactly addr addrprefix prefixlen → ComparesExactly addr addrprefix shorter →
      compareIpv6Addr addr addrprefix prefixlen = true → compareIpv6Addr addr addrprefix shorter = true := by
  refine ⟨compares_iff addr addrprefix prefixlen, compareIpv6Addr_equivalence prefixlen, fun shorter le ok ok' same => ?_⟩
  have long := ((compares_iff addr addrprefix prefixlen).mpr ok).mp same
  exact ((compares_iff addr addrprefix shorter).mpr ok').mpr (long.mono (UInt8.le_iff_toNat_le.mp le))

/-- Behind a prefix length of 60 the code compares 64 bits. -/
theorem compares_sixty :
    SamePrefix 60 #v[0x20, 1, 0x0D, 0xB8, 0, 0, 0, 1, 0, 0, 0, 0, 0, 0, 0, 1]
      #v[0x20, 1, 0x0D, 0xB8, 0, 0, 0, 2, 0, 0, 0, 0, 0, 0, 0, 0] ∧
    compareIpv6Addr #v[0x20, 1, 0x0D, 0xB8, 0, 0, 0, 1, 0, 0, 0, 0, 0, 0, 0, 1]
      #v[0x20, 1, 0x0D, 0xB8, 0, 0, 0, 2, 0, 0, 0, 0, 0, 0, 0, 0] 60 = false := by
  decide

/-! ### Safe lengths -/

/-- An address with one byte other than 0. -/
def oneByte (block : Nat) (value : UInt8) : Ipv6Addr := (Vector.replicate 16 0).set! block value

theorem byte_set! {addr : Ipv6Addr} {block other : Nat} (inside : block < 16) (value : UInt8) :
    byte (addr.set! block value) other = if block = other then value else addr.byte other := by
  unfold byte
  simp only [Vector.set!_eq_setIfInBounds, Vector.toList_setIfInBounds, List.getD_eq_getElem?_getD, List.getElem?_set,
    Vector.length_toList, inside, if_true]
  split_ifs <;> rfl

theorem byte_replicate_zero (block : Nat) : byte (.replicate 16 0) block = 0 := by
  unfold byte
  simp only [Vector.toList_replicate, List.getD_eq_getElem?_getD, List.getElem?_replicate]
  split_ifs <;> rfl

theorem byte_oneByte {block other : Nat} (inside : block < 16) (value : UInt8) :
    (oneByte block value).byte other = if block = other then value else 0 := by
  unfold oneByte
  rw [byte_set! inside, byte_replicate_zero]

/-- A byte with which the mask for every other rest does harm. -/
theorem mask_harms : ∀ rest < 7, ∃ value ∈ ([1, 2, 4, 8] : List UInt8), ¬maskExact rest (value ^^^ 0).toBitVec := by decide

/-- The lengths that are safe for all pairs of addresses: whole bytes, and a rest of seven bits. -/
theorem comparesExactly_all_iff (prefixlen : UInt8) (small : prefixlen ≤ 128) :
    (∀ addr addrprefix : Ipv6Addr, ComparesExactly addr addrprefix prefixlen) ↔
      prefixlen.toNat ≠ 0 ∧ (prefixlen.toNat % 8 = 0 ∨ prefixlen.toNat % 8 = 7) := by
  have le : prefixlen.toNat ≤ 128 := UInt8.le_iff_toNat_le.mp small
  unfold ComparesExactly
  dsimp only
  generalize prefixlen.toNat = n at le
  constructor
  · intro all
    by_contra unsafeLength
    have rest : n % 8 < 7 := by omega
    have inside : n / 8 < 16 := by omega
    obtain ⟨value, -, harm⟩ := mask_harms (n % 8) rest
    rcases all (oneByte (n / 8) value) (oneByte (n / 8) 0) with ⟨block, before, differ⟩ | whole | harmless
    · rw [byte_oneByte inside, byte_oneByte inside, if_neg (by omega), if_neg (by omega)] at differ
      exact differ rfl
    · omega
    · rw [byte_oneByte inside, byte_oneByte inside, if_pos rfl, if_pos rfl] at harmless
      exact harm harmless
  · rintro ⟨nonzero, whole | seven⟩ addr addrprefix
    · exact .inr (.inl ⟨whole, nonzero⟩)
    · refine .inr (.inr ?_)
      simp [maskExact, seven]

end IPStack
