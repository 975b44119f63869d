import IPStack.Ipv6.AddressText

/-! The textual representation of ethernet addresses. -/

namespace IPStack

namespace EthernetText

/-- The same table as `numberFromAscii` and `numberToAscii` of the IPv6 addresses. -/
def numberFromAsciiE (c : Char) : UInt8 := numberFromAscii c

def numberToAsciiE (digit : UInt8) : Char := numberToAscii digit

def ethernetAddrTostring (ethAddr : Vector UInt8 6) : List Char :=
  [numberToAsciiE ((ethAddr[0]! &&& 0x0f) >>> 4), numberToAsciiE (ethAddr[0]! &&& 0x0f), ':',
    numberToAsciiE (ethAddr[1]! >>> 4), numberToAsciiE (ethAddr[1]! &&& 0x0f), ':',
    numberToAsciiE (ethAddr[2]! >>> 4), numberToAsciiE (ethAddr[2]! &&& 0x0f), ':',
    numberToAsciiE (ethAddr[3]! >>> 4), numberToAsciiE (ethAddr[3]! &&& 0x0f), ':',
    numberToAsciiE (ethAddr[4]! >>> 4), numberToAsciiE (ethAddr[4]! &&& 0x0f), ':',
    numberToAsciiE (ethAddr[5]! >>> 4), numberToAsciiE (ethAddr[5]! &&& 0x0f)]

/-- A parser with the positions that it reads. -/
abbrev TextWalk := Traced Nat

def readChar (memory : Nat → Char) (position : Nat) : TextWalk Char := .emit position (memory position)

/-- The loop over the digits of a block; `rounds` is what `position` is below 2. -/
def readBlock (memory : Nat → Char) : Nat → Nat → Vector UInt8 2 → TextWalk (Vector UInt8 2 × Nat)
  | 0, currentCharPtr, blockdata => pure (blockdata, currentCharPtr)
  | rounds + 1, currentCharPtr, blockdata => do
    if (← readChar memory currentCharPtr) = ':' then pure (blockdata, currentCharPtr)
    else do
      let c ← readChar memory currentCharPtr
      readBlock memory rounds (currentCharPtr + 1) (blockdata.setIfInBounds (1 - rounds) (numberFromAsciiE c))

/-- The loop over the blocks; `rounds` is what `blockIndex` is below 6. -/
def parseBlocks (memory : Nat → Char) : Nat → Nat → Nat → Vector UInt8 6 → TextWalk (Nat × Vector UInt8 6)
  | 0, blockIndex, _, ethAddr => pure (blockIndex, ethAddr)
  | rounds + 1, blockIndex, currentCharPtr, ethAddr => do
    let (blockdata, currentCharPtr) ← readBlock memory 2 currentCharPtr (.replicate 2 0)
    let ethAddr := ethAddr.set! blockIndex (blockdata[1]! ||| blockdata[0]! <<< 4)
    if (← readChar memory currentCharPtr) = CString.nul then pure (blockIndex + 1, ethAddr)
    else parseBlocks memory rounds (blockIndex + 1) (currentCharPtr + 1) ethAddr

def parseEthernetAddr (memory : Nat → Char) (ethAddr : Vector UInt8 6) : TextWalk (Bool × Vector UInt8 6) := do
  let (blockIndex, ethAddr) ← parseBlocks memory 6 0 0 ethAddr
  pure (blockIndex = 6, ethAddr)

/-! ### What the parser is for -/

/-- The parser reads no character behind the NUL, and leaves the address as it is if it fails. -/
structure ParsesSafely (s : CString) (memory : Nat → Char) (ethAddr : Vector UInt8 6) : Prop where
  inside : (parseEthernetAddr memory ethAddr).All fun position => position ≤ s.chars.length
  returns : ∃ result, (parseEthernetAddr memory ethAddr).result = some result ∧ (result.1 = false → result.2 = ethAddr)

/-- What is written for an address is parsed, and the address comes back. -/
def RoundTrips (m : Vector UInt8 6) : Prop :=
  ∀ memory, CString.HeldFrom memory 0 (ethernetAddrTostring m) → ∀ ethAddr,
    (parseEthernetAddr memory ethAddr).result = some (true, m)

/-- At most so many blocks one behind the other. A block is a colon, a character and a colon, or
two characters and any third one. Behind two characters the string may end, but nowhere else
before the last block. -/
inductive Blocks : Nat → List Char → List (List Char) → Prop
  | done {rest : List Char} : Blocks 0 rest []
  | last {n : Nat} {a b : Char} (first : a ≠ ':') (second : b ≠ ':') : Blocks (n + 1) [a, b] [[a, b]]
  | none {n : Nat} {rest : List Char} {blocks : List (List Char)} (later : Blocks n rest blocks) :
      Blocks (n + 1) (':' :: rest) ([] :: blocks)
  | one {n : Nat} {a : Char} {rest : List Char} {blocks : List (List Char)} (first : a ≠ ':') (later : Blocks n rest blocks) :
      Blocks (n + 1) (a :: ':' :: rest) ([a] :: blocks)
  | two {n : Nat} {a b c : Char} {rest : List Char} {blocks : List (List Char)} (first : a ≠ ':') (second : b ≠ ':')
      (later : Blocks n rest blocks) : Blocks (n + 1) (a :: b :: c :: rest) ([a, b] :: blocks)

/-- The byte of a block, with missing digits as 0. -/
def blockByte (digits : List Char) : UInt8 :=
  numberFromAsciiE (digits.getD 1 '0') ||| numberFromAsciiE (digits.getD 0 '0') <<< 4

/-- The bytes of the blocks are in the address. -/
def HoldsFrom (ethAddr : Vector UInt8 6) : Nat → List (List Char) → Prop
  | _, [] => True
  | block, digits :: rest => ethAddr[block]! = blockByte digits ∧ HoldsFrom ethAddr (block + 1) rest

/-- The string has blocks up to its end or to the sixth one, and fewer only if the address has
their bytes already. -/
def BlocksHeld (s : CString) (ethAddr : Vector UInt8 6) : Prop :=
  ∃ blocks, Blocks 6 s.chars blocks ∧ (blocks.length = 6 ∨ HoldsFrom ethAddr 0 blocks)

/-! ### A block -/

variable {s : CString} {memory : Nat → Char} {ethAddr : Vector UInt8 6} {position block rounds length : Nat}
  {chars : List Char} {blocks : List (List Char)} {α : Type}

@[simp] theorem result_readChar_bind (f : Char → TextWalk α) :
    (readChar memory position >>= f).result = (f (memory position)).result := rfl

@[simp] theorem all_readChar_bind {P : Nat → Prop} (f : Char → TextWalk α) :
    (readChar memory position >>= f).All P ↔ P position ∧ (f (memory position)).All P := by
  rw [Traced.all_bind, readChar, Traced.all_emit]
  exact and_congr_right fun _ => ⟨fun later => later _ rfl, fun later a returned => Option.some.inj returned ▸ later⟩

/-- The digits of the block at a position. -/
def digitsAt (memory : Nat → Char) (position : Nat) : List Char :=
  if memory position = ':' then []
  else if memory (position + 1) = ':' then [memory position] else [memory position, memory (position + 1)]

theorem readBlock_result : (readBlock memory 2 position (.replicate 2 0)).result = some
    (⟨#[numberFromAsciiE ((digitsAt memory position).getD 0 '0'),
        numberFromAsciiE ((digitsAt memory position).getD 1 '0')], rfl⟩,
      position + (digitsAt memory position).length) := by
  unfold digitsAt
  by_cases first : memory position = ':'
  · simp only [readBlock, result_readChar_bind, if_pos first]
    rfl
  · by_cases second : memory (position + 1) = ':'
    · simp only [readBlock, result_readChar_bind, if_neg first, if_pos second]
      rfl
    · simp only [readBlock, result_readChar_bind, if_neg first, if_neg second]
      rfl

theorem readBlock_all : (readBlock memory 2 position (.replicate 2 0)).All (· ≤ length) ↔
    position + min (digitsAt memory position).length 1 ≤ length := by
  unfold digitsAt
  by_cases first : memory position = ':'
  · simp [readBlock, first]
  · by_cases second : memory (position + 1) = ':'
    · simp only [readBlock, all_readChar_bind, if_neg first, if_pos second, Traced.all_pure, and_true,
        List.length_singleton, min_self]
      omega
    · simp only [readBlock, all_readChar_bind, if_neg first, if_neg second, Traced.all_pure, and_true,
        List.length_cons, List.length_nil]
      omega

/-- One round. The NUL is looked for behind the digits. -/
theorem parseBlocks_all_succ : (parseBlocks memory (rounds + 1) block position ethAddr).All (· ≤ length) ↔
    position + (digitsAt memory position).length ≤ length ∧
      (memory (position + (digitsAt memory position).length) ≠ CString.nul →
        (parseBlocks memory rounds (block + 1) (position + (digitsAt memory position).length + 1)
          (ethAddr.set! block (blockByte (digitsAt memory position)))).All (· ≤ length)) := by
  have read : (readBlock memory 2 position (.replicate 2 0)).result = _ := readBlock_result
  rw [parseBlocks, Traced.all_bind, readBlock_all]
  constructor
  · rintro ⟨-, later⟩
    obtain ⟨inside, rest⟩ := all_readChar_bind _ |>.mp (later _ read)
    refine ⟨inside, fun more => ?_⟩
    rwa [if_neg more] at rest
  · rintro ⟨inside, later⟩
    refine ⟨by omega, fun a returned => ?_⟩
    cases read.symm.trans returned
    rw [all_readChar_bind]
    refine ⟨inside, ?_⟩
    split_ifs with last
    · exact Traced.all_pure _
    · exact later last

theorem parseBlocks_result_succ : (parseBlocks memory (rounds + 1) block position ethAddr).result =
    if memory (position + (digitsAt memory position).length) = CString.nul then
      some (block + 1, ethAddr.set! block (blockByte (digitsAt memory position)))
    else (parseBlocks memory rounds (block + 1) (position + (digitsAt memory position).length + 1)
      (ethAddr.set! block (blockByte (digitsAt memory position)))).result := by
  rw [parseBlocks, Traced.result_bind, readBlock_result]
  dsimp only [Option.bind_some]
  rw [result_readChar_bind]
  split_ifs
  · rfl
  · rfl

/-! ### All blocks -/

def storeBlocks (ethAddr : Vector UInt8 6) : Nat → List (List Char) → Vector UInt8 6
  | _, [] => ethAddr
  | block, digits :: rest => storeBlocks (ethAddr.set! block (blockByte digits)) (block + 1) rest

theorem digitsAt_none (first : memory position = ':') : digitsAt memory position = [] := if_pos first

theorem digitsAt_one (first : memory position ≠ ':') (second : memory (position + 1) = ':') :
    digitsAt memory position = [memory position] := (if_neg first).trans (if_pos second)

theorem digitsAt_two (first : memory position ≠ ':') (second : memory (position + 1) ≠ ':') :
    digitsAt memory position = [memory position, memory (position + 1)] := (if_neg first).trans (if_neg second)

/-- The parser reads the blocks, and nothing behind the NUL. -/
def Reads (memory : Nat → Char) (rounds position length : Nat) (blocks : List (List Char)) : Prop :=
  ∀ block ethAddr, (parseBlocks memory rounds block position ethAddr).All (· ≤ length) ∧
    (parseBlocks memory rounds block position ethAddr).result = some (block + blocks.length, storeBlocks ethAddr block blocks)

theorem Reads.next {digits : List Char} (here : digitsAt memory position = digits)
    (more : memory (position + digits.length) ≠ CString.nul) (inside : position + digits.length ≤ length)
    (later : Reads memory rounds (position + digits.length + 1) length blocks) :
    Reads memory (rounds + 1) position length (digits :: blocks) := by
  subst here
  intro block ethAddr
  obtain ⟨all, result⟩ := later (block + 1) (ethAddr.set! block (blockByte (digitsAt memory position)))
  refine ⟨parseBlocks_all_succ.mpr ⟨inside, fun _ => all⟩, ?_⟩
  rw [parseBlocks_result_succ, if_neg more, result, List.length_cons, Nat.add_comm blocks.length, ← Nat.add_assoc]
  rfl

theorem Blocks.reads (split : Blocks rounds chars blocks) (held : CString.HeldFrom memory position chars)
    (nonzero : CString.nul ∉ chars) (ends : position + chars.length = length) :
    Reads memory rounds position length blocks := by
  induction split generalizing position with
  | done => exact fun _ _ => ⟨Traced.all_pure _, rfl⟩
  | last first second =>
    obtain ⟨rfl, rfl, final⟩ := held
    have digits := digitsAt_two first second
    subst ends
    refine fun block ethAddr => ⟨parseBlocks_all_succ.mpr ?_, ?_⟩
    · rw [digits]
      exact ⟨le_refl _, fun more => absurd final more⟩
    · rw [parseBlocks_result_succ, digits]
      exact if_pos final
  | none later ih =>
    obtain ⟨here, rest⟩ := held
    rw [List.mem_cons, not_or] at nonzero
    rw [List.length_cons] at ends
    refine .next (digitsAt_none here) ?_ ?_ (ih rest nonzero.2 (by rw [List.length_nil]; omega))
    · rw [List.length_nil, Nat.add_zero, here]
      decide
    · rw [List.length_nil]
      omega
  | one first later ih =>
    obtain ⟨rfl, colon, rest⟩ := held
    rw [List.mem_cons, List.mem_cons, not_or, not_or] at nonzero
    rw [List.length_cons, List.length_cons] at ends
    refine .next (digitsAt_one first colon) ?_ ?_ (ih rest nonzero.2.2 (by rw [List.length_singleton]; omega))
    · rw [List.length_singleton, colon]
      decide
    · rw [List.length_singleton]
      omega
  | two first second later ih =>
    obtain ⟨rfl, rfl, rfl, rest⟩ := held
    rw [List.mem_cons, List.mem_cons, List.mem_cons, not_or, not_or, not_or] at nonzero
    rw [List.length_cons, List.length_cons, List.length_cons] at ends
    refine .next (digitsAt_two first second) (Ne.symm nonzero.2.2.1) ?_
      (ih rest nonzero.2.2.2 (by rw [List.length_cons, List.length_singleton]; omega))
    rw [List.length_cons, List.length_singleton]
    omega

/-- A parser that does not look behind the NUL has found blocks. -/
theorem exists_blocks (held : CString.HeldFrom memory position chars) (nonzero : CString.nul ∉ chars)
    (ends : position + chars.length = length)
    (inside : (parseBlocks memory rounds block position ethAddr).All (· ≤ length)) :
    ∃ blocks, Blocks rounds chars blocks := by
  induction rounds generalizing position block ethAddr chars with
  | zero => exact ⟨[], .done⟩
  | succ rounds ih =>
    obtain ⟨within, next⟩ := parseBlocks_all_succ.mp inside
    have colon : ∀ rest, chars = ':' :: rest → ∃ blocks, Blocks (rounds + 1) chars blocks := by
      rintro rest rfl
      obtain ⟨here, rest⟩ := held
      rw [List.mem_cons, not_or] at nonzero
      rw [digitsAt_none here, List.length_nil, Nat.add_zero] at next
      obtain ⟨blocks, later⟩ := ih rest nonzero.2 (by rw [List.length_cons] at ends; omega) (next (by rw [here]; decide))
      exact ⟨_, .none later⟩
    match chars with
    | [] =>
      have last : memory position = CString.nul := held
      rw [digitsAt, if_neg (by rw [last]; decide)] at within
      subst ends
      split_ifs at within
      · exact absurd within (by simp)
      · exact absurd within (by simp)
    | [a] =>
      by_cases first : a = ':'
      · exact colon [] (by rw [first])
      obtain ⟨rfl, last⟩ := held
      have last : memory (position + 1) = CString.nul := last
      rw [digitsAt_two first (by rw [last]; decide)] at within
      subst ends
      exact absurd within (by simp)
    | a :: b :: rest =>
      by_cases first : a = ':'
      · exact colon (b :: rest) (by rw [first])
      rw [List.mem_cons, List.mem_cons, not_or, not_or] at nonzero
      rw [List.length_cons, List.length_cons] at ends
      obtain ⟨rfl, rfl, behind⟩ := held
      by_cases second : memory (position + 1) = ':'
      · rw [second]
        rw [digitsAt_one first second, List.length_singleton] at next
        obtain ⟨blocks, later⟩ := ih behind nonzero.2.2 (by omega) (next (by rw [second]; decide))
        exact ⟨_, .one first later⟩
      rw [digitsAt_two first second, List.length_cons, List.length_singleton] at next
      cases rest with
      | nil => exact ⟨_, .last first second⟩
      | cons c rest =>
        obtain ⟨rfl, behind⟩ := behind
        rw [List.mem_cons, not_or] at nonzero
        rw [List.length_cons] at ends
        obtain ⟨blocks, later⟩ := ih behind nonzero.2.2.2 (by omega) (next (Ne.symm nonzero.2.2.1))
        exact ⟨_, .two first second later⟩

/-! ### The address -/

theorem getElem!_set! {i j : Nat} (inside : i < 6) (value : UInt8) :
    (ethAddr.set! i value)[j]! = if i = j then value else ethAddr[j]! := by
  by_cases within : j < 6
  · rw [getElem!_pos _ j within, getElem!_pos _ j within, Vector.getElem_set! within]
  · rw [getElem!_neg _ j within, getElem!_neg _ j within, if_neg (by omega)]

theorem Blocks.length_le (split : Blocks rounds chars blocks) : blocks.length ≤ rounds := by
  induction split with
  | done => exact le_refl 0
  | last => exact Nat.succ_le_succ (Nat.zero_le _)
  | none _ ih | one _ _ ih | two _ _ _ ih => exact Nat.succ_le_succ ih

theorem storeBlocks_before (inside : block + blocks.length ≤ 6) (before : position < block) :
    (storeBlocks ethAddr block blocks)[position]! = ethAddr[position]! := by
  induction blocks generalizing ethAddr block with
  | nil => rfl
  | cons digits rest ih =>
    rw [List.length_cons] at inside
    rw [storeBlocks, ih (by omega) (by omega), getElem!_set! (by omega), if_neg (by omega)]

theorem holdsFrom_storeBlocks (inside : block + blocks.length ≤ 6) :
    HoldsFrom (storeBlocks ethAddr block blocks) block blocks := by
  induction blocks generalizing ethAddr block with
  | nil => trivial
  | cons digits rest ih =>
    rw [List.length_cons] at inside
    refine ⟨?_, ih (by omega)⟩
    rw [storeBlocks, storeBlocks_before (by omega) (by omega), getElem!_set! (by omega), if_pos rfl]

theorem storeBlocks_held (inside : block + blocks.length ≤ 6) (held : HoldsFrom ethAddr block blocks) :
    storeBlocks ethAddr block blocks = ethAddr := by
  induction blocks generalizing block with
  | nil => rfl
  | cons digits rest ih =>
    rw [List.length_cons] at inside
    obtain ⟨first, later⟩ := held
    have same : ethAddr.set! block (blockByte digits) = ethAddr := by
      refine Vector.ext fun position within => ?_
      rw [Vector.getElem_set! within]
      split_ifs with here
      · subst here
        rw [← first, getElem!_pos _ block within]
      · rfl
    rw [storeBlocks, same, ih (by omega) later]

theorem parsesSafely_iff_held (held : s.HeldBy memory) : ParsesSafely s memory ethAddr ↔ BlocksHeld s ethAddr := by
  have run : ∀ {blocks}, Blocks 6 s.chars blocks → (parseEthernetAddr memory ethAddr).result =
      some (decide (blocks.length = 6), storeBlocks ethAddr 0 blocks) := fun {blocks} split => by
    obtain ⟨-, result⟩ := split.reads held s.nonzero rfl 0 ethAddr
    rw [parseEthernetAddr, Traced.result_bind, result, Option.bind_some, Nat.zero_add]
    rfl
  have all : (parseEthernetAddr memory ethAddr).All (· ≤ s.chars.length) ↔ ∃ blocks, Blocks 6 s.chars blocks := by
    rw [parseEthernetAddr, Traced.all_bind]
    constructor
    · rintro ⟨inside, -⟩
      exact exists_blocks held s.nonzero (Nat.zero_add _) inside
    · rintro ⟨blocks, split⟩
      exact ⟨(split.reads held s.nonzero (Nat.zero_add _) 0 ethAddr).1, fun _ _ => Traced.all_pure _⟩
  constructor
  · rintro ⟨inside, result, returned, unaltered⟩
    obtain ⟨blocks, split⟩ := all.mp inside
    refine ⟨blocks, split, ?_⟩
    rw [run split] at returned
    cases returned
    by_cases six : blocks.length = 6
    · exact .inl six
    · have stored : HoldsFrom (storeBlocks ethAddr 0 blocks) 0 blocks :=
        holdsFrom_storeBlocks (by have := split.length_le; omega)
      have same : storeBlocks ethAddr 0 blocks = ethAddr := unaltered (decide_eq_false six)
      rw [same] at stored
      exact .inr stored
  · rintro ⟨blocks, split, enough⟩
    refine ⟨all.mpr ⟨blocks, split⟩, _, run split, fun refused => ?_⟩
    obtain six | stored := enough
    · exact absurd six (of_decide_eq_false refused)
    · exact storeBlocks_held (by have := split.length_le; omega) stored

/-! ### The round trip -/

variable {m : Vector UInt8 6}

theorem numberToAsciiE_ne (digit : UInt8) : numberToAsciiE digit ≠ ':' ∧ numberToAsciiE digit ≠ CString.nul := by
  unfold numberToAsciiE numberToAscii
  split <;> decide

theorem blockByte_written (value : UInt8) :
    blockByte [numberToAsciiE (value >>> 4), numberToAsciiE (value &&& 0x0f)] = value := by
  have table : ∀ v : BitVec 8, blockByte [numberToAsciiE (UInt8.ofBitVec v >>> 4),
      numberToAsciiE (UInt8.ofBitVec v &&& 0x0f)] = .ofBitVec v := by decide +kernel
  exact table value.toBitVec

/-- The first byte is masked before its upper half is taken. -/
theorem blockByte_masked (value : UInt8) :
    blockByte [numberToAsciiE ((value &&& 0x0f) >>> 4), numberToAsciiE (value &&& 0x0f)] = value &&& 0x0f := by
  have table : ∀ v : BitVec 8,
      blockByte [numberToAsciiE ((UInt8.ofBitVec v &&& 0x0f) >>> 4), numberToAsciiE (UInt8.ofBitVec v &&& 0x0f)] =
        .ofBitVec v &&& 0x0f := by decide +kernel
  exact table value.toBitVec

def writtenBlocks (m : Vector UInt8 6) : List (List Char) :=
  [numberToAsciiE ((m[0]! &&& 0x0f) >>> 4), numberToAsciiE (m[0]! &&& 0x0f)] ::
    (List.range' 1 5).map fun i : Nat => [numberToAsciiE ((m[i]! : UInt8) >>> 4), numberToAsciiE (m[i]! &&& 0x0f)]

theorem blocks_written (m : Vector UInt8 6) : Blocks 6 (ethernetAddrTostring m) (writtenBlocks m) := by
  have plain := fun digit => (numberToAsciiE_ne digit).1
  exact .two (plain _) (plain _) <| .two (plain _) (plain _) <| .two (plain _) (plain _) <|
    .two (plain _) (plain _) <| .two (plain _) (plain _) <| .last (plain _) (plain _)

theorem nul_notMem_tostring (m : Vector UInt8 6) : CString.nul ∉ ethernetAddrTostring m := by
  have nonzero := fun digit => (numberToAsciiE_ne digit).2.symm
  have colon : CString.nul ≠ ':' := by decide
  simp [ethernetAddrTostring, nonzero, colon]

/-- The text of an address. -/
def written (m : Vector UInt8 6) : CString := ⟨ethernetAddrTostring m, nul_notMem_tostring m⟩

theorem parse_tostring {memory : Nat → Char} (held : CString.HeldFrom memory 0 (ethernetAddrTostring m))
    (ethAddr : Vector UInt8 6) :
    (parseEthernetAddr memory ethAddr).result = some (true, m.set! 0 (m[0]! &&& 0x0f)) := by
  obtain ⟨-, result⟩ := (blocks_written m).reads held (nul_notMem_tostring m) rfl 0 ethAddr
  have stored : HoldsFrom (storeBlocks ethAddr 0 (writtenBlocks m)) 0 (writtenBlocks m) := holdsFrom_storeBlocks (le_refl 6)
  have same : storeBlocks ethAddr 0 (writtenBlocks m) = m.set! 0 (m[0]! &&& 0x0f) := by
    obtain ⟨first, second, third, fourth, fifth, sixth, -⟩ := stored
    rw [blockByte_masked] at first
    rw [blockByte_written] at second third fourth fifth sixth
    generalize storeBlocks ethAddr 0 (writtenBlocks m) = parsed at *
    refine Vector.ext fun position within => ?_
    rw [← getElem!_pos _ position, ← getElem!_pos _ position, getElem!_set! (by decide)]
    match position, within with
    | 0, _ => exact first
    | 1, _ => exact second
    | 2, _ => exact third
    | 3, _ => exact fourth
    | 4, _ => exact fifth
    | 5, _ => exact sixth
  rw [parseEthernetAddr, Traced.result_bind, result, Option.bind_some, same]
  rfl

theorem roundTrips_iff : RoundTrips m ↔ m[0]! < 16 := by
  have masked : ∀ v : BitVec 8, (UInt8.ofBitVec v &&& 0x0f = .ofBitVec v) ↔ UInt8.ofBitVec v < 16 := by decide +kernel
  constructor
  · intro all
    have same := (parse_tostring (written m).heldBy_charAt m).symm.trans (all _ (written m).heldBy_charAt m)
    have first := congrArg (·[0]!) (Prod.mk.inj (Option.some.inj same)).2
    rw [getElem!_set! (by decide), if_pos rfl] at first
    exact (masked m[0]!.toBitVec).mp first
  · intro small memory held ethAddr
    have same : m.set! 0 (m[0]! &&& 0x0f) = m := by
      refine Vector.ext fun position within => ?_
      rw [Vector.getElem_set! within]
      split_ifs with here
      · subst here
        exact ((masked m[0]!.toBitVec).mpr small).trans (getElem!_pos m 0 within)
      · rfl
    rw [parse_tostring held, same]

/-- The text of an address is read back as the address exactly where its first byte is below 16.
With a string the parser stays in front of the NUL, and does not fail with an altered address,
exactly where the string has blocks up to its end or to the sixth one, and fewer only if the
address has their bytes already. -/
theorem ethernetText (m ethAddr : Vector UInt8 6) (s : CString) (memory : Nat → Char) (held : s.HeldBy memory) :
    (RoundTrips m ↔ m[0]! < 16) ∧ (ParsesSafely s memory ethAddr ↔ BlocksHeld s ethAddr) :=
  ⟨roundTrips_iff, parsesSafely_iff_held held⟩

def unfinished : CString := ⟨"20:b8:1".toList, by decide⟩

/-- Behind a single digit at the end the parser takes the NUL for a digit. The address of the
documentation does not come back. -/
theorem unfinished_read : ¬RoundTrips ⟨#[0x20, 0xb8, 0, 0xd3, 0, 0x2e], rfl⟩ ∧
    ∃ memory, unfinished.HeldBy memory ∧ ¬ParsesSafely unfinished memory (.replicate 6 0) := by
  refine ⟨fun all => ?_, unfinished.charAt, unfinished.heldBy_charAt, fun safe => ?_⟩
  · have small := roundTrips_iff.mp all
    exact absurd small (by decide)
  · have read : 8 ∈ (parseEthernetAddr unfinished.charAt (.replicate 6 0)).events := by decide +kernel
    exact absurd (safe.inside 8 read) (by decide)

/-- A text of six blocks, and an address that comes back. -/
theorem ethernetText_written : (RoundTrips ⟨#[2, 0, 0, 0, 0, 1], rfl⟩ ↔ (2 : UInt8) < 16) ∧
    (ParsesSafely (written ⟨#[2, 0, 0, 0, 0, 1], rfl⟩) (written ⟨#[2, 0, 0, 0, 0, 1], rfl⟩).charAt (.replicate 6 0) ↔
      BlocksHeld (written ⟨#[2, 0, 0, 0, 0, 1], rfl⟩) (.replicate 6 0)) :=
  ethernetText ⟨#[2, 0, 0, 0, 0, 1], rfl⟩ (.replicate 6 0) _ _ (written ⟨#[2, 0, 0, 0, 0, 1], rfl⟩).heldBy_charAt

end EthernetText

end IPStack
