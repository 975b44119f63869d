import IPStack.Lib.CStrings
import IPStack.Lib.Traced
import IPStack.Ipv6.AddressScope

/-! The textual representation of IPv6 addresses. -/

namespace IPStack

open Ipv6Addr

def numberFromAscii (c : Char) : UInt8 :=
  match c with
  | '0' => 0
  | '1' => 1
  | '2' => 2
  | '3' => 3
  | '4' => 4
  | '5' => 5
  | '6' => 6
  | '7' => 7
  | '8' => 8
  | '9' => 9
  | 'a' => 10
  | 'A' => 10
  | 'b' => 11
  | 'B' => 11
  | 'c' => 12
  | 'C' => 12
  | 'd' => 13
  | 'D' => 13
  | 'e' => 14
  | 'E' => 14
  | 'f' => 15
  | 'F' => 15
  | _ => 0

def numberToAscii (digit : UInt8) : Char :=
  match digit with
  | 0 => '0'
  | 1 => '1'
  | 2 => '2'
  | 3 => '3'
  | 4 => '4'
  | 5 => '5'
  | 6 => '6'
  | 7 => '7'
  | 8 => '8'
  | 9 => '9'
  | 10 => 'a'
  | 11 => 'b'
  | 12 => 'c'
  | 13 => 'd'
  | 14 => 'e'
  | 15 => 'f'
  | _ => ' '

namespace Ipv6Text

/-- Where the parser writes to: into the buffer for the digits of a block, or into the address. -/
inductive ParserWrite where
  | blockdata (position : Nat)
  | ipaddr (position : Nat)
deriving DecidableEq, Repr

/-- The length of the block, an `uint8_t`, and the position behind the block, from the characters
at a position on. -/
def determineBlockLength : List Char → UInt8 → Nat → UInt8 × Nat
  | [], blockLength, currentCharPtr => (blockLength, currentCharPtr)
  | c :: rest, blockLength, currentCharPtr =>
    if c ≠ ':' ∧ c ≠ CString.nul then determineBlockLength rest (blockLength + 1) (currentCharPtr + 1)
    else (blockLength, currentCharPtr)

def readBlock (s : CString) : Nat → Nat → Vector UInt8 4 → Traced ParserWrite (Vector UInt8 4 × Nat)
  | 0, currentCharPtr, blockdata => pure (blockdata, currentCharPtr)
  | blockLength + 1, currentCharPtr, blockdata => do
    .emit (.blockdata blockLength) ()
    readBlock s blockLength (currentCharPtr + 1) <|
      blockdata.setIfInBounds blockLength (numberFromAscii (s.charAt currentCharPtr))

def storeByte (ipaddr : Ipv6Addr) (position : Nat) (value : UInt8) : Traced ParserWrite Ipv6Addr :=
  .emit (.ipaddr position) (ipaddr.set! position value)

/-- The loop over the blocks; `rounds` is what `blockIndex` is below 8. -/
def parseBlocks (s : CString) : Nat → Nat → Nat → Ipv6Addr → Traced ParserWrite (Nat × Ipv6Addr)
  | 0, blockIndex, _, ipaddr => pure (blockIndex, ipaddr)
  | rounds + 1, blockIndex, currentCharPtr, ipaddr => do
    let (blockLength, behind) := determineBlockLength (s.chars.drop currentCharPtr) 0 currentCharPtr
    let (blockdata, currentCharPtr) ← readBlock s blockLength.toNat (behind - blockLength.toNat) (.replicate 4 0)
    let ipaddr ← storeByte ipaddr (blockIndex * 2) (blockdata[2]! ||| blockdata[3]! <<< 4)
    let ipaddr ← storeByte ipaddr (blockIndex * 2 + 1) (blockdata[0]! ||| blockdata[1]! <<< 4)
    if s.charAt currentCharPtr = CString.nul then pure (blockIndex + 1, ipaddr)
    else parseBlocks s rounds (blockIndex + 1) (currentCharPtr + 1) ipaddr

def parseIpv6Addr (s : CString) (ipaddr : Ipv6Addr) : Traced ParserWrite (Bool × Ipv6Addr) := do
  let (blockIndex, ipaddr) ← parseBlocks s 8 0 0 ipaddr
  pure (blockIndex = 8, ipaddr)

/-- The characters that are written for one block. -/
def blockToString (ipaddr : Ipv6Addr) (block : Nat) : List Char :=
  [numberToAscii (ipaddr[block * 2]! >>> 4), numberToAscii (ipaddr[block * 2]! &&& 0x0f),
    numberToAscii (ipaddr[block * 2 + 1]! >>> 4), numberToAscii (ipaddr[block * 2 + 1]! &&& 0x0f)] ++
  if block < 7 then [':'] else []

def ipv6AddrToString (ipaddr : Ipv6Addr) : List Char := (List.range 8).flatMap (blockToString ipaddr)

/-! ### What the parser is for -/

def ParserWrite.Inside : ParserWrite → Prop
  | .blockdata position => position < 4
  | .ipaddr position => position < 16

/-- Eight groups of at most four hexadecimal digits, and nothing else. -/
structure EightGroups (s : CString) (groups : List (List Char)) : Prop where
  eight : groups.length = 8
  short : ∀ g ∈ groups, g.length ≤ 4
  digits : ∀ g ∈ groups, ∀ c ∈ g, CString.IsHexDigit c
  separated : s.chars = [':'].intercalate groups

/-- The numbers are in the address, two bytes for each, from a block on. -/
def HoldsFrom (ipaddr : Ipv6Addr) : Nat → List Nat → Prop
  | _, [] => True
  | block, number :: rest =>
    (ipaddr.byte (block * 2)).toNat * 256 + (ipaddr.byte (block * 2 + 1)).toNat = number ∧
      HoldsFrom ipaddr (block + 1) rest

/-- What the parser is to return: whether the string is an address, and the address. -/
structure Answers (s : CString) (ipaddr : Ipv6Addr) (result : Bool × Ipv6Addr) : Prop where
  accepts : result.1 = true ↔ ∃ groups, EightGroups s groups
  value : ∀ groups, EightGroups s groups → HoldsFrom result.2 0 (groups.map CString.hexNumber)
  unaltered : result.1 = false → result.2 = ipaddr

/-- The number in a group, with all other characters as 0. Of a long group only the characters
behind a multiple of 256 count. -/
def groupNumber (g : List Char) : Nat :=
  (g.drop (g.length / 256 * 256)).foldl (fun n c => 16 * n + (numberFromAscii c).toNat) 0

/-- Fewer than eight groups, each short enough for the buffer, that are in the address already. -/
structure AlreadyHeld (s : CString) (ipaddr : Ipv6Addr) : Prop where
  few : (s.chars.splitOn ':').length < 8
  short : ∀ g ∈ s.chars.splitOn ':', g.length % 256 ≤ 4
  held : HoldsFrom ipaddr 0 ((s.chars.splitOn ':').map groupNumber)

/-! ### Digits -/

theorem numberFromAscii_lt (c : Char) : numberFromAscii c < 16 := by
  unfold numberFromAscii
  split <;> decide

theorem numberFromAscii_digit {c : Char} (digit : CString.IsHexDigit c) : (numberFromAscii c).toNat = CString.hexValue c := by
  have table : ∀ n < 128, CString.IsHexDigit (.ofNat n) →
      (numberFromAscii (.ofNat n)).toNat = CString.hexValue (.ofNat n) := by decide +kernel
  have small : c.toNat < 128 := by
    rcases digit with ⟨-, high⟩ | ⟨-, high⟩ | ⟨-, high⟩
    · exact lt_of_le_of_lt high (by decide)
    · exact lt_of_le_of_lt high (by decide)
    · exact lt_of_le_of_lt high (by decide)
  have back := table c.toNat small
  rw [Char.ofNat_toNat] at back
  exact back digit

theorem numberToAscii_digit {digit : UInt8} (small : digit < 16) :
    CString.IsHexDigit (numberToAscii digit) ∧ CString.hexValue (numberToAscii digit) = digit.toNat := by
  have table : ∀ n < 16, CString.IsHexDigit (numberToAscii (.ofNat n)) ∧
      CString.hexValue (numberToAscii (.ofNat n)) = n := by decide +kernel
  have back := table digit.toNat small
  rwa [UInt8.ofNat_toNat] at back

/-! ### A block -/

/-- The digits in the buffer, the last one first. -/
def storeDigits : List Char → Vector UInt8 4 → Vector UInt8 4
  | [], blockdata => blockdata
  | c :: rest, blockdata => storeDigits rest (blockdata.setIfInBounds rest.length (numberFromAscii c))

variable {s : CString} {g rest : List Char} {ipaddr : Ipv6Addr} {blockLength position block : Nat}
  {blockdata : Vector UInt8 4}

theorem determineBlockLength_group (plain : ':' ∉ g) (nonzero : CString.nul ∉ g) (ends : ∀ c ∈ rest.head?, c = ':')
    (length : UInt8) : determineBlockLength (g ++ rest) length position =
      (length + UInt8.ofNat g.length, position + g.length) := by
  induction g generalizing length position with
  | nil =>
    cases rest with
    | nil => simp [determineBlockLength]
    | cons c rest =>
      have colon := ends c rfl
      simp [determineBlockLength, colon]
  | cons c g ih =>
    rw [List.mem_cons, not_or] at plain nonzero
    rw [List.cons_append, determineBlockLength, if_pos ⟨Ne.symm plain.1, Ne.symm nonzero.1⟩, ih plain.2 nonzero.2]
    rw [List.length_cons, UInt8.ofNat_add, UInt8.add_assoc, UInt8.add_comm (UInt8.ofNat g.length), Nat.add_assoc,
      Nat.add_comm 1]
    rfl

theorem readBlock_all : (readBlock s blockLength position blockdata).All ParserWrite.Inside ↔ blockLength ≤ 4 := by
  induction blockLength generalizing position blockdata with
  | zero => exact iff_of_true (Traced.all_pure _) (Nat.zero_le 4)
  | succ blockLength ih =>
    rw [readBlock, Traced.all_bind, Traced.all_emit]
    change blockLength < 4 ∧ _ ↔ _
    constructor
    · intro all
      exact all.1
    · intro short
      exact ⟨short, fun _ _ => ih.mpr (by omega)⟩

theorem readBlock_result (digits : (s.chars.drop position).take blockLength = g) (long : g.length = blockLength) :
    (readBlock s blockLength position blockdata).result = some (storeDigits g blockdata, position + blockLength) := by
  induction g generalizing position blockLength blockdata with
  | nil =>
    subst long
    rfl
  | cons c g ih =>
    subst long
    cases here : s.chars.drop position with
    | nil =>
      rw [here] at digits
      cases digits
    | cons c' later =>
      rw [here, List.length_cons, List.take_succ_cons] at digits
      obtain ⟨rfl, rest⟩ := List.cons.inj digits
      rw [List.length_cons, readBlock, Traced.result_bind]
      change Traced.result (readBlock s g.length (position + 1) _) = _
      rw [CString.charAt_drop here, ih (by rw [CString.drop_succ here, rest]) rfl, storeDigits]
      congr 2
      omega

theorem toNat_nibbles {low high : UInt8} (lowSmall : low < 16) (highSmall : high < 16) :
    (low ||| high <<< 4).toNat = high.toNat * 16 + low.toNat := by
  have table : ∀ x < 16, ∀ y < 16, ((UInt8.ofNat x) ||| (UInt8.ofNat y) <<< 4).toNat = y * 16 + x := by decide +kernel
  have here := table low.toNat lowSmall high.toNat highSmall
  rwa [UInt8.ofNat_toNat, UInt8.ofNat_toNat] at here

/-- The digit at a position of the buffer; the positions in front of the first digit are 0. -/
def digitAt (g : List Char) (position : Nat) : UInt8 := (g.reverse.map numberFromAscii).getD position 0

theorem digitAt_lt : digitAt g position < 16 := by
  unfold digitAt
  rw [List.getD_eq_getElem?_getD, List.getElem?_map]
  cases g.reverse[position]? with
  | none => decide
  | some c => exact numberFromAscii_lt c

theorem storeDigits_eq (short : g.length ≤ 4) :
    storeDigits g (.replicate 4 0) = ⟨#[digitAt g 0, digitAt g 1, digitAt g 2, digitAt g 3], rfl⟩ := by
  match g, short with
  | [], _ => rfl
  | [_], _ => rfl
  | [_, _], _ => rfl
  | [_, _, _], _ => rfl
  | [_, _, _, _], _ => rfl

theorem foldl_digits (short : g.length ≤ 4) : g.foldl (fun n c => 16 * n + (numberFromAscii c).toNat) 0 =
    ((digitAt g 3).toNat * 16 + (digitAt g 2).toNat) * 256 + ((digitAt g 1).toNat * 16 + (digitAt g 0).toNat) := by
  match g, short with
  | [], _ => rfl
  | [_], _ => simp [digitAt]
  | [_, _], _ => simp [digitAt, Nat.mul_comm]
  | [_, _, _], _ =>
    simp [digitAt]
    omega
  | [_, _, _, _], _ =>
    simp [digitAt]
    omega

/-- The bytes of a block, from the digits in the buffer. -/
theorem toNat_block (short : g.length ≤ 4) :
    ((storeDigits g (.replicate 4 0))[2]! ||| (storeDigits g (.replicate 4 0))[3]! <<< 4).toNat * 256 +
      ((storeDigits g (.replicate 4 0))[0]! ||| (storeDigits g (.replicate 4 0))[1]! <<< 4).toNat =
    g.foldl (fun n c => 16 * n + (numberFromAscii c).toNat) 0 := by
  rw [storeDigits_eq short, foldl_digits short]
  exact congrArg₂ (· * 256 + ·) (toNat_nibbles digitAt_lt digitAt_lt) (toNat_nibbles digitAt_lt digitAt_lt)

/-! ### All blocks -/

def storeGroup (ipaddr : Ipv6Addr) (block : Nat) (g : List Char) : Ipv6Addr :=
  (ipaddr.set! (block * 2) (.ofNat (groupNumber g / 256))).set! (block * 2 + 1) (.ofNat (groupNumber g % 256))

def storeGroups (ipaddr : Ipv6Addr) : Nat → List (List Char) → Ipv6Addr
  | _, [] => ipaddr
  | block, g :: rest => storeGroups (storeGroup ipaddr block g) (block + 1) rest

variable {rounds : Nat} {result : Bool × Ipv6Addr}

theorem length_digits : (g.drop (g.length / 256 * 256)).length = g.length % 256 := by
  rw [List.length_drop]
  omega

/-- The last characters of a group are the digits of its block. -/
theorem drop_group (here : s.chars.drop position = g ++ rest) :
    (s.chars.drop (position + g.length - g.length % 256)).take (g.length % 256) = g.drop (g.length / 256 * 256) := by
  have split := Nat.div_add_mod g.length 256
  have start : position + g.length - g.length % 256 = position + g.length / 256 * 256 := by omega
  have inside : g.length / 256 * 256 ≤ g.length := by omega
  rw [start, ← List.drop_drop, here, List.drop_append_of_le_length inside]
  exact List.take_left' length_digits

theorem charAt_behind (here : s.chars.drop position = g ++ rest) (ends : ∀ c ∈ rest.head?, c = ':') :
    s.charAt (position + g.length) = CString.nul ↔ rest = [] := by
  have behind : s.chars.drop (position + g.length) = rest := by
    rw [← List.drop_drop, here, List.drop_left]
  cases rest with
  | nil =>
    refine iff_of_true ?_ rfl
    exact List.getD_eq_default _ _ (List.drop_eq_nil_iff.mp behind)
  | cons c rest =>
    rw [CString.charAt_drop behind, ends c rfl]
    exact iff_of_false (by decide) (List.cons_ne_nil _ _)

/-- One round. If the block overflows the buffer, nothing is said about the bytes it writes. -/
theorem parseBlocks_group (rounds block : Nat) (ipaddr : Ipv6Addr) (here : s.chars.drop position = g ++ rest)
    (plain : ':' ∉ g) (ends : ∀ c ∈ rest.head?, c = ':') :
    ∃ high low : UInt8, (g.length % 256 ≤ 4 → high.toNat * 256 + low.toNat = groupNumber g) ∧
      parseBlocks s (rounds + 1) block position ipaddr =
        readBlock s (g.length % 256) (position + g.length - g.length % 256) (.replicate 4 0) >>= fun _ =>
          storeByte ipaddr (block * 2) high >>= fun ipaddr => storeByte ipaddr (block * 2 + 1) low >>= fun ipaddr =>
            if rest = [] then pure (block + 1, ipaddr)
            else parseBlocks s rounds (block + 1) (position + g.length + 1) ipaddr := by
  have nonzero : CString.nul ∉ g := fun member => by
    refine s.nonzero (List.mem_of_mem_drop (i := position) ?_)
    rw [here]
    exact List.mem_append_left _ member
  have read : (readBlock s _ _ (.replicate 4 0)).result = _ := readBlock_result (drop_group here) length_digits
  have back : position + g.length - g.length % 256 + g.length % 256 = position + g.length := by
    have less := Nat.mod_le g.length 256
    omega
  rw [back] at read
  refine ⟨_, _, fun short => toNat_block (length_digits.trans_le short), ?_⟩
  rw [parseBlocks, here, determineBlockLength_group plain nonzero ends]
  simp only [UInt8.zero_add, UInt8.toNat_ofNat']
  rw [Traced.bind_of_result read, Traced.bind_of_result read]
  simp only [charAt_behind here ends]


@[simp] theorem result_storeByte_bind {α : Type} {value : UInt8} (f : Ipv6Addr → Traced ParserWrite α) :
    (storeByte ipaddr position value >>= f).result = (f (ipaddr.set! position value)).result := rfl

@[simp] theorem all_storeByte_bind {α : Type} {P : ParserWrite → Prop} {value : UInt8}
    (f : Ipv6Addr → Traced ParserWrite α) :
    (storeByte ipaddr position value >>= f).All P ↔ P (.ipaddr position) ∧ (f (ipaddr.set! position value)).All P := by
  rw [Traced.all_bind, storeByte, Traced.all_emit]
  exact and_congr_right fun _ => ⟨fun later => later _ rfl, fun later a returned => Option.some.inj returned ▸ later⟩

theorem storeBytes_eq {high low : UInt8} (number : high.toNat * 256 + low.toNat = groupNumber g) :
    (ipaddr.set! (block * 2) high).set! (block * 2 + 1) low = storeGroup ipaddr block g := by
  have bound := low.toNat_lt
  unfold storeGroup
  rw [← number]
  congr
  · rw [Nat.mul_comm, Nat.mul_add_div (by decide), Nat.div_eq_of_lt bound, Nat.add_zero, UInt8.ofNat_toNat]
  · rw [Nat.mul_comm, Nat.mul_add_mod, Nat.mod_eq_of_lt bound, UInt8.ofNat_toNat]

theorem parseBlocks_round (rounds : Nat) (ipaddr : Ipv6Addr) (here : s.chars.drop position = g ++ rest) (plain : ':' ∉ g)
    (ends : ∀ c ∈ rest.head?, c = ':') (inside : block < 8) :
    ∃ ipaddr', (g.length % 256 ≤ 4 → ipaddr' = storeGroup ipaddr block g) ∧
      ((parseBlocks s (rounds + 1) block position ipaddr).All ParserWrite.Inside ↔ g.length % 256 ≤ 4 ∧
        (rest ≠ [] → (parseBlocks s rounds (block + 1) (position + g.length + 1) ipaddr').All ParserWrite.Inside)) ∧
      (parseBlocks s (rounds + 1) block position ipaddr).result =
        if rest = [] then some (block + 1, ipaddr')
        else (parseBlocks s rounds (block + 1) (position + g.length + 1) ipaddr').result := by
  obtain ⟨high, low, number, same⟩ := parseBlocks_group rounds block ipaddr here plain ends
  have read : (readBlock s _ _ (.replicate 4 0)).result = _ := readBlock_result (drop_group here) length_digits
  refine ⟨_, fun short => storeBytes_eq (number short), ?_⟩
  rw [same]
  constructor
  · rw [Traced.all_bind, readBlock_all]
    refine and_congr_right fun _ => ⟨fun later more => ?_, fun later a _ => ?_⟩
    · have written := later _ read
      rw [all_storeByte_bind, all_storeByte_bind, if_neg more] at written
      exact written.2.2
    · rw [all_storeByte_bind, all_storeByte_bind]
      refine ⟨(by omega : block * 2 < 16), (by omega : block * 2 + 1 < 16), ?_⟩
      split_ifs with last
      · exact Traced.all_pure _
      · exact later last
  · rw [Traced.result_bind, read]
    simp only [Option.bind_some, result_storeByte_bind]
    split_ifs
    · rfl
    · rfl

theorem parseBlocks_all (within : block + rounds ≤ 8) :
    (parseBlocks s rounds block position ipaddr).All ParserWrite.Inside ↔
      ∀ g ∈ ((s.chars.drop position).splitOn ':').take rounds, g.length % 256 ≤ 4 := by
  induction rounds generalizing block position ipaddr with
  | zero => exact iff_of_true (Traced.all_pure _) fun g member => absurd member List.not_mem_nil
  | succ rounds ih =>
    obtain ⟨g, plain, ⟨last, groups⟩ | ⟨rest, more, groups⟩⟩ := CString.exists_group ':' (s.chars.drop position)
    · obtain ⟨ipaddr', -, all, -⟩ := parseBlocks_round rounds ipaddr
        (last.trans (List.append_nil g).symm) plain nofun (by omega : block < 8)
      rw [all, groups, List.take_succ_cons, List.take_nil, List.forall_mem_singleton]
      exact and_iff_left fun more => absurd rfl more
    · obtain ⟨ipaddr', -, all, -⟩ := parseBlocks_round rounds ipaddr more plain
        (fun c first => (Option.some.inj first).symm) (by omega : block < 8)
      rw [all, groups, List.take_succ_cons, List.forall_mem_cons, ih (by omega), CString.drop_group_succ more]
      exact and_congr_right fun _ => forall_prop_of_true (List.cons_ne_nil _ _)

theorem parseBlocks_result (within : block + rounds ≤ 8)
    (short : ∀ g ∈ ((s.chars.drop position).splitOn ':').take rounds, g.length % 256 ≤ 4) :
    (parseBlocks s rounds block position ipaddr).result =
      some (block + min rounds ((s.chars.drop position).splitOn ':').length,
        storeGroups ipaddr block (((s.chars.drop position).splitOn ':').take rounds)) := by
  induction rounds generalizing block position ipaddr with
  | zero =>
    rw [Nat.zero_min]
    rfl
  | succ rounds ih =>
    obtain ⟨g, plain, ⟨last, groups⟩ | ⟨rest, more, groups⟩⟩ := CString.exists_group ':' (s.chars.drop position)
    · obtain ⟨ipaddr', stored, -, result⟩ := parseBlocks_round rounds ipaddr
        (last.trans (List.append_nil g).symm) plain nofun (by omega : block < 8)
      rw [groups, List.take_succ_cons, List.take_nil] at short ⊢
      rw [result, if_pos rfl, stored (short g (List.mem_singleton_self g)), List.length_singleton,
        Nat.min_eq_right (by omega)]
      rfl
    · obtain ⟨ipaddr', stored, -, result⟩ := parseBlocks_round rounds ipaddr more plain
        (fun c first => (Option.some.inj first).symm) (by omega : block < 8)
      rw [groups, List.take_succ_cons] at short ⊢
      obtain ⟨first, later⟩ := List.forall_mem_cons.mp short
      rw [result, if_neg (List.cons_ne_nil _ _), ih (by omega) (by rwa [CString.drop_group_succ more]),
        CString.drop_group_succ more, stored first, List.length_cons, Nat.succ_min_succ, Nat.add_right_comm block 1]
      rfl

/-! ### The address -/

variable {groups : List (List Char)} {numbers : List Nat} {other : Ipv6Addr}

theorem groupNumber_lt (short : g.length % 256 ≤ 4) : groupNumber g < 65536 := by
  have bytes := toNat_block (length_digits.trans_le short)
  have number : groupNumber g = _ := bytes.symm
  have high := ((storeDigits (g.drop (g.length / 256 * 256)) (.replicate 4 0))[2]! |||
    (storeDigits (g.drop (g.length / 256 * 256)) (.replicate 4 0))[3]! <<< 4).toNat_lt
  have low := ((storeDigits (g.drop (g.length / 256 * 256)) (.replicate 4 0))[0]! |||
    (storeDigits (g.drop (g.length / 256 * 256)) (.replicate 4 0))[1]! <<< 4).toNat_lt
  omega

theorem byte_storeGroup (inside : block < 8) : byte (storeGroup ipaddr block g) position =
    if block * 2 + 1 = position then .ofNat (groupNumber g % 256)
    else if block * 2 = position then .ofNat (groupNumber g / 256) else ipaddr.byte position := by
  unfold storeGroup
  rw [byte_set! (by omega), byte_set! (by omega)]

theorem byte_storeGroups_before (inside : block + groups.length ≤ 8) (before : position < block * 2) :
    (storeGroups ipaddr block groups).byte position = ipaddr.byte position := by
  induction groups generalizing ipaddr block with
  | nil => rfl
  | cons g rest ih =>
    rw [List.length_cons] at inside
    rw [storeGroups, ih (by omega) (by omega), byte_storeGroup (by omega), if_neg (by omega), if_neg (by omega)]

theorem holdsFrom_storeGroups (inside : block + groups.length ≤ 8) (short : ∀ g ∈ groups, g.length % 256 ≤ 4) :
    HoldsFrom (storeGroups ipaddr block groups) block (groups.map groupNumber) := by
  induction groups generalizing ipaddr block with
  | nil => trivial
  | cons g rest ih =>
    rw [List.length_cons] at inside
    obtain ⟨first, later⟩ := List.forall_mem_cons.mp short
    have small := groupNumber_lt first
    refine ⟨?_, ih (by omega) later⟩
    rw [storeGroups, byte_storeGroups_before (by omega) (by omega), byte_storeGroups_before (by omega) (by omega),
      byte_storeGroup (by omega), byte_storeGroup (by omega), if_neg (by omega), if_pos rfl, if_pos rfl,
      UInt8.toNat_ofNat', UInt8.toNat_ofNat']
    omega

theorem storeGroups_held (inside : block + groups.length ≤ 8) (held : HoldsFrom ipaddr block (groups.map groupNumber)) :
    storeGroups ipaddr block groups = ipaddr := by
  induction groups generalizing block with
  | nil => rfl
  | cons g rest ih =>
    rw [List.length_cons] at inside
    obtain ⟨first, later⟩ := held
    have low := (ipaddr.byte (block * 2 + 1)).toNat_lt
    have same : storeGroup ipaddr block g = ipaddr := by
      refine ext_byte fun position _ => ?_
      rw [byte_storeGroup (by omega), ← first]
      split_ifs with here there
      · rw [← here, Nat.mul_comm, Nat.mul_add_mod, Nat.mod_eq_of_lt low, UInt8.ofNat_toNat]
      · rw [← there, Nat.mul_comm, Nat.mul_add_div (by decide), Nat.div_eq_of_lt low, Nat.add_zero, UInt8.ofNat_toNat]
      · rfl
    rw [storeGroups, same, ih (by omega) later]

theorem HoldsFrom.unique (held : HoldsFrom ipaddr block numbers) (held' : HoldsFrom other block numbers)
    (after : block * 2 ≤ position) (inside : position < (block + numbers.length) * 2) :
    ipaddr.byte position = other.byte position := by
  induction numbers generalizing block with
  | nil =>
    rw [List.length_nil] at inside
    omega
  | cons number rest ih =>
    obtain ⟨first, later⟩ := held
    obtain ⟨first', later'⟩ := held'
    have low := (ipaddr.byte (block * 2 + 1)).toNat_lt
    have low' := (other.byte (block * 2 + 1)).toNat_lt
    rw [List.length_cons] at inside
    by_cases behind : (block + 1) * 2 ≤ position
    · exact ih later later' behind (by omega)
    obtain rfl | rfl : position = block * 2 ∨ position = block * 2 + 1 := by omega
    · exact UInt8.toNat_inj.mp (by omega)
    · exact UInt8.toNat_inj.mp (by omega)

/-! ### The strings -/

theorem EightGroups.eq_splitOn (eight : EightGroups s groups) : groups = s.chars.splitOn ':' := by
  rw [eight.separated]
  refine (List.splitOn_intercalate ':' (fun g member colon => ?_) fun none => ?_).symm
  · exact absurd (eight.digits g member ':' colon) (by decide)
  · cases none ▸ eight.eight

theorem EightGroups.groupNumber_eq (eight : EightGroups s groups) : groups.map CString.hexNumber = groups.map groupNumber := by
  refine List.map_congr_left fun g member => ?_
  have short := eight.short g member
  unfold CString.hexNumber groupNumber
  rw [show g.length / 256 * 256 = 0 by omega, List.drop_zero]
  refine List.foldl_ext _ _ _ fun n c digit => ?_
  rw [numberFromAscii_digit (eight.digits g member c digit)]

theorem parseIpv6Addr_all : (parseIpv6Addr s ipaddr).All ParserWrite.Inside ↔
    ∀ g ∈ (s.chars.splitOn ':').take 8, g.length % 256 ≤ 4 := by
  rw [parseIpv6Addr, Traced.all_bind, parseBlocks_all (by omega), List.drop_zero]
  exact and_iff_left fun _ _ => Traced.all_pure _

theorem parseIpv6Addr_result (short : ∀ g ∈ (s.chars.splitOn ':').take 8, g.length % 256 ≤ 4) :
    (parseIpv6Addr s ipaddr).result =
      some (decide (8 ≤ (s.chars.splitOn ':').length), storeGroups ipaddr 0 ((s.chars.splitOn ':').take 8)) := by
  have blocks : (parseBlocks s 8 0 0 ipaddr).result = _ := parseBlocks_result (by omega) short
  rw [parseIpv6Addr, Traced.result_bind, blocks, List.drop_zero]
  dsimp only [Option.bind_some, Traced.result_pure]
  congr 2
  exact decide_eq_decide.mpr (by omega)

/-- The parser writes inside the buffer and the address, and returns what it should. -/
def Parses (s : CString) (ipaddr : Ipv6Addr) : Prop :=
  (parseIpv6Addr s ipaddr).All ParserWrite.Inside ∧
    ∃ result, (parseIpv6Addr s ipaddr).result = some result ∧ Answers s ipaddr result

theorem parses_iff : Parses s ipaddr ↔ (∃ groups, EightGroups s groups) ∨ AlreadyHeld s ipaddr := by
  constructor
  · rintro ⟨inside, result, returned, answers⟩
    have short := parseIpv6Addr_all.mp inside
    rw [parseIpv6Addr_result short] at returned
    cases returned
    by_cases few : (s.chars.splitOn ':').length < 8
    · have unaltered := answers.unaltered (decide_eq_false (Nat.not_le.mpr few))
      dsimp only at unaltered
      rw [List.take_of_length_le few.le] at short unaltered
      have held : HoldsFrom (storeGroups ipaddr 0 _) 0 _ := holdsFrom_storeGroups (by omega) short
      rw [unaltered] at held
      exact .inr ⟨few, short, held⟩
    · exact .inl (answers.accepts.mp (decide_eq_true (Nat.not_lt.mp few)))
  · rintro (⟨groups, eight⟩ | held)
    · obtain rfl := eight.eq_splitOn
      have all : (s.chars.splitOn ':').take 8 = s.chars.splitOn ':' := List.take_of_length_le eight.eight.le
      have short : ∀ g ∈ s.chars.splitOn ':', g.length % 256 ≤ 4 := fun g member =>
        (Nat.mod_le _ _).trans (eight.short g member)
      have short' : ∀ g ∈ (s.chars.splitOn ':').take 8, g.length % 256 ≤ 4 := by rwa [all]
      refine ⟨parseIpv6Addr_all.mpr short', _, parseIpv6Addr_result short', ⟨?_, ?_, ?_⟩⟩
      · exact iff_of_true (decide_eq_true eight.eight.ge) ⟨_, eight⟩
      · intro groups eight'
        obtain rfl := eight'.eq_splitOn
        rw [eight.groupNumber_eq, all]
        exact holdsFrom_storeGroups (by rw [eight.eight]) short
      · intro refused
        exact absurd eight.eight.ge (of_decide_eq_false refused)
    · obtain ⟨few, short, same⟩ := held
      have all : (s.chars.splitOn ':').take 8 = s.chars.splitOn ':' := List.take_of_length_le few.le
      have refused : ∀ groups, ¬EightGroups s groups := fun groups eight => by
        obtain rfl := eight.eq_splitOn
        exact few.ne eight.eight
      have short' : ∀ g ∈ (s.chars.splitOn ':').take 8, g.length % 256 ≤ 4 := by rwa [all]
      refine ⟨parseIpv6Addr_all.mpr short', _, parseIpv6Addr_result short', ⟨?_, ?_, ?_⟩⟩
      · exact iff_of_false (by simpa using few) fun ⟨groups, eight⟩ => refused groups eight
      · exact fun groups eight => absurd eight (refused groups)
      · intro _
        dsimp only
        rw [all]
        exact storeGroups_held (by omega) same

/-! ### The round trip -/

/-- The digits that are written for one block. -/
def blockDigits (ipaddr : Ipv6Addr) (block : Nat) : List Char :=
  [numberToAscii (ipaddr.byte (block * 2) >>> 4), numberToAscii (ipaddr.byte (block * 2) &&& 0x0f),
    numberToAscii (ipaddr.byte (block * 2 + 1) >>> 4), numberToAscii (ipaddr.byte (block * 2 + 1) &&& 0x0f)]

theorem nibbles (value : UInt8) : value >>> 4 < 16 ∧ value &&& 0x0f < 16 ∧
    16 * (value >>> 4).toNat + (value &&& 0x0f).toNat = value.toNat := by
  have table : ∀ v : BitVec 8, (v >>> 4).toNat < 16 ∧ (v &&& 0x0f).toNat < 16 ∧
      16 * (v >>> 4).toNat + (v &&& 0x0f).toNat = v.toNat := by decide +kernel
  exact table value.toBitVec

theorem isHexDigit_blockDigits : ∀ c ∈ blockDigits ipaddr block, CString.IsHexDigit c := by
  have digit : ∀ value : UInt8, CString.IsHexDigit (numberToAscii (value >>> 4)) ∧
      CString.IsHexDigit (numberToAscii (value &&& 0x0f)) := fun value =>
    ⟨(numberToAscii_digit (nibbles value).1).1, (numberToAscii_digit (nibbles value).2.1).1⟩
  simp only [blockDigits, List.forall_mem_cons]
  exact ⟨(digit _).1, (digit _).2, (digit _).1, (digit _).2, nofun⟩

theorem hexNumber_blockDigits : CString.hexNumber (blockDigits ipaddr block) =
    (ipaddr.byte (block * 2)).toNat * 256 + (ipaddr.byte (block * 2 + 1)).toNat := by
  obtain ⟨high, low, first⟩ := nibbles (ipaddr.byte (block * 2))
  obtain ⟨high', low', second⟩ := nibbles (ipaddr.byte (block * 2 + 1))
  unfold CString.hexNumber blockDigits
  simp only [List.foldl_cons, List.foldl_nil, (numberToAscii_digit high).2, (numberToAscii_digit low).2,
    (numberToAscii_digit high').2, (numberToAscii_digit low').2]
  omega

theorem holdsFrom_blocks (ipaddr : Ipv6Addr) (blocks : Nat) : HoldsFrom ipaddr block
    ((List.range' block blocks).map fun block => CString.hexNumber (blockDigits ipaddr block)) := by
  induction blocks generalizing block with
  | zero => trivial
  | succ blocks ih => exact ⟨hexNumber_blockDigits.symm, ih⟩

theorem ipv6AddrToString_eq (ipaddr : Ipv6Addr) :
    ipv6AddrToString ipaddr = [':'].intercalate ((List.range 8).map (blockDigits ipaddr)) := by
  unfold ipv6AddrToString blockToString
  simp only [getElem!_eq_byte]
  rfl

/-- What is written for an address is eight groups, with the numbers of the address. -/
theorem eightGroups_toString (written : s.chars = ipv6AddrToString ipaddr) :
    EightGroups s ((List.range 8).map (blockDigits ipaddr)) := by
  refine ⟨by simp, fun g member => ?_, fun g member c digit => ?_, written.trans (ipv6AddrToString_eq ipaddr)⟩
  · obtain ⟨block, -, rfl⟩ := List.mem_map.mp member
    exact le_refl 4
  · obtain ⟨block, -, rfl⟩ := List.mem_map.mp member
    exact isHexDigit_blockDigits c digit

theorem parse_toString (ipaddr other : Ipv6Addr) (written : s.chars = ipv6AddrToString ipaddr) :
    (parseIpv6Addr s other).result = some (true, ipaddr) := by
  have eight := eightGroups_toString written
  have parses : Parses s other := parses_iff.mpr (.inl ⟨_, eight⟩)
  obtain ⟨-, ⟨ok, parsed⟩, returned, answers⟩ := parses
  have accepted : ok = true := answers.accepts.mpr ⟨_, eight⟩
  have value := answers.value _ eight
  rw [List.map_map] at value
  have same : parsed = ipaddr := ext_byte fun position inside =>
    value.unique (holdsFrom_blocks ipaddr 8) (Nat.zero_le _) (by simpa using inside)
  rw [returned, accepted, same]

theorem length_toString (ipaddr : Ipv6Addr) : (ipv6AddrToString ipaddr).length = 39 := rfl

theorem nul_notMem_toString (ipaddr : Ipv6Addr) : CString.nul ∉ ipv6AddrToString ipaddr := by
  intro member
  obtain ⟨block, -, here⟩ := List.mem_flatMap.mp member
  unfold blockToString at here
  simp only [getElem!_eq_byte] at here
  obtain digit | colon := List.mem_append.mp here
  · exact absurd (isHexDigit_blockDigits CString.nul digit) (by decide)
  · split_ifs at colon
    · exact absurd (List.mem_singleton.mp colon) (by decide)
    · cases colon

/-- The text of an address. -/
def written (ipaddr : Ipv6Addr) : CString := ⟨ipv6AddrToString ipaddr, nul_notMem_toString ipaddr⟩

/-- Every address comes back from the 39 characters that are written for it. The parser does
what it should with eight groups of at most four hexadecimal digits. With another string it does
so only if it has fewer groups, none overflows the buffer, and the address has their numbers
already. -/
theorem addressText (s : CString) (ipaddr : Ipv6Addr) :
    (∀ a other, (written a).chars.length = 39 ∧ (parseIpv6Addr (written a) other).result = some (true, a)) ∧
    (Parses s ipaddr ↔ (∃ groups, EightGroups s groups) ∨ AlreadyHeld s ipaddr) :=
  ⟨fun a other => ⟨length_toString a, parse_toString a other rfl⟩, parses_iff⟩

def twoGroups : CString := ⟨"2001:db8".toList, by decide⟩

/-- Two groups are refused, after they are written to the address. -/
theorem twoGroups_alter : ¬Parses twoGroups unspecifiedIPv6Address := by
  rintro ⟨-, ⟨ok, parsed⟩, returned, answers⟩
  have run : (parseIpv6Addr twoGroups unspecifiedIPv6Address).result.map
      (fun result => (result.1, result.2.byte 0)) = some (false, 0x20) := by decide +kernel
  rw [returned] at run
  obtain ⟨refused, first⟩ := Prod.mk.inj (Option.some.inj run)
  rw [answers.unaltered refused] at first
  exact absurd first (by decide)

end Ipv6Text

end IPStack
