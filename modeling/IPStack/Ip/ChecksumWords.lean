import IPStack.Lib.OnesComplement
import IPStack.Udp.Receive
import Mathlib.Algebra.BigOperators.Intervals

/-! The sums behind the Internet checksum: what the code adds up in 32 bits, and the 16-bit words
of a byte string in network order. -/

namespace IPStack

namespace Bytes

/-- The words of a byte string in network order. The last byte of an odd length is the high byte
of a word. -/
def words : Bytes → List Nat
  | hi :: lo :: rest => (256 * hi.toNat + lo.toNat) :: words rest
  | [hi] => [256 * hi.toNat]
  | [] => []

/-- What a byte adds to the sum of the words behind a position. -/
def weight (p : Bytes) (start i : Nat) : Nat := (if i % 2 = 0 then 256 else 1) * (p.byte (start + i)).toNat

/-- The sum of the words of `n` bytes behind a position. -/
def wordSum (p : Bytes) (start n : Nat) : Nat := ∑ i ∈ Finset.range n, p.weight start i

variable {p : Bytes} {start n i : Nat}

theorem words_append {xs ys : Bytes} (even : xs.length % 2 = 0) : words (xs ++ ys) = words xs ++ words ys := by
  induction xs using words.induct with
  | case1 hi lo rest ih =>
    have even : rest.length % 2 = 0 := by
      simp only [List.length_cons] at even
      omega
    simp only [List.cons_append, words, ih even]
  | case2 hi => simp at even
  | case3 => rfl

theorem word_le {xs : Bytes} : ∀ word ∈ words xs, word ≤ 65535 := by
  induction xs using words.induct with
  | case1 hi lo rest ih =>
    intro word member
    rcases List.mem_cons.mp member with rfl | later
    · have := hi.toNat_lt
      have := lo.toNat_lt
      omega
    · exact ih word later
  | case2 hi =>
    intro word member
    obtain rfl := List.mem_singleton.mp member
    have := hi.toNat_lt
    omega
  | case3 => exact fun _ none => absurd none List.not_mem_nil

theorem weight_cons_cons {hi lo : UInt8} {rest : Bytes} : weight (hi :: lo :: rest) 0 (i + 2) = weight rest 0 i := by
  unfold weight
  rw [Nat.add_mod_right, Nat.zero_add, Nat.zero_add]
  rfl

theorem sum_words (xs : Bytes) : (words xs).sum = wordSum xs 0 xs.length := by
  unfold wordSum
  induction xs using words.induct with
  | case1 hi lo rest ih =>
    have first : weight (hi :: lo :: rest) 0 0 = 256 * hi.toNat := rfl
    have second : weight (hi :: lo :: rest) 0 1 = lo.toNat := Nat.one_mul _
    simp only [words, List.sum_cons, ih, List.length_cons, Finset.sum_range_succ', weight_cons_cons, Nat.zero_add, first,
      second]
    omega
  | case2 hi => simp [words, weight, byte]
  | case3 => rfl

theorem length_slice : (p.slice start n).length = n := by simp [slice]

theorem byte_slice (inside : i < n) : (p.slice start n).byte i = p.byte (start + i) := by
  unfold byte slice
  rw [List.getD_eq_getElem?_getD, List.getElem?_map, List.getElem?_range inside]
  rfl

theorem sum_words_slice : (words (p.slice start n)).sum = p.wordSum start n := by
  rw [sum_words, length_slice]
  refine Finset.sum_congr rfl fun i inside => ?_
  unfold weight
  rw [Nat.zero_add, byte_slice (Finset.mem_range.mp inside)]

theorem toNat_netShort : (p.netShort i).toNat = 256 * (p.byte i).toNat + (p.byte (i + 1)).toNat := by
  unfold netShort
  rw [BitVec.toNat_append, ← Nat.shiftLeft_add_eq_or_of_lt (BitVec.isLt _), Nat.shiftLeft_eq]
  omega

/-- A word is the sum of two bytes. -/
theorem wordSum_succ_succ (even : n % 2 = 0) :
    p.wordSum start (n + 2) = p.wordSum start n + (p.netShort (start + n)).toNat := by
  unfold wordSum
  rw [Finset.sum_range_succ, Finset.sum_range_succ, toNat_netShort]
  unfold weight
  rw [if_pos even, if_neg (by omega)]
  have next : start + (n + 1) = start + n + 1 := rfl
  rw [next]
  omega

theorem wordSum_eq_sum_netShort (k : Nat) :
    p.wordSum start (2 * k) = ∑ i ∈ Finset.range k, (p.netShort (start + 2 * i)).toNat := by
  induction k with
  | zero => rfl
  | succ k ih => rw [Finset.sum_range_succ, ← ih, Nat.mul_succ, wordSum_succ_succ (by omega)]

/-- The bytes behind the first ones. -/
def restSum (p : Bytes) (start k n : Nat) : Nat := ∑ i ∈ Finset.Ico k n, p.weight start i

theorem wordSum_add_restSum {k : Nat} (le : k ≤ n) : p.wordSum start k + p.restSum start k n = p.wordSum start n :=
  Finset.sum_range_add_sum_Ico _ le

theorem wordSum_mono {k : Nat} (le : n ≤ k) : p.wordSum start n ≤ p.wordSum start k := by
  rw [← wordSum_add_restSum le]
  exact Nat.le_add_right _ _

theorem byte_drop : byte (p.drop start) i = p.byte (start + i) := by
  unfold byte
  simp only [List.getD_eq_getElem?_getD, List.getElem?_drop]

theorem wordSum_drop : wordSum (p.drop start) 0 n = p.wordSum start n := by
  unfold wordSum weight
  simp only [Nat.zero_add, byte_drop]

end Bytes

namespace InternetChecksum

open Bytes

theorem toNat_byteswap16 (val : BitVec 16) : (byteswap16 val).toNat = val.toNat % 256 * 256 + val.toNat / 256 := by
  have bound := val.isLt
  have low : ((val &&& 0xFF#16) <<< 8).toNat = (val.toNat % 256) <<< 8 := by
    rw [BitVec.toNat_shiftLeft, BitVec.toNat_and, Nat.mod_eq_of_lt]
    · exact congrArg (· <<< 8) (Nat.and_two_pow_sub_one_eq_mod _ 8)
    · rw [Nat.shiftLeft_eq]
      have masked : val.toNat &&& (0xFF#16).toNat ≤ 255 := Nat.and_le_right
      omega
  have high : ((val &&& 0xFF00#16) >>> 8).toNat = val.toNat / 256 := by
    rw [BitVec.ushiftRight_and_distrib, BitVec.toNat_and, BitVec.toNat_ushiftRight, Nat.shiftRight_eq_div_pow]
    refine (Nat.and_two_pow_sub_one_eq_mod _ 8).trans ?_
    omega
  unfold byteswap16
  rw [BitVec.toNat_or, low, high, ← Nat.shiftLeft_add_eq_or_of_lt (by omega), Nat.shiftLeft_eq]

/-- A 16-bit member is a word of the other byte order. -/
theorem byteswap16_short {p : Bytes} {i : Nat} : byteswap16 (p.short i) = p.netShort i := by
  apply BitVec.eq_of_toNat_eq
  have low := (p.byte i).isLt
  rw [toNat_byteswap16, toNat_netShort]
  unfold short
  rw [BitVec.toNat_append, ← Nat.shiftLeft_add_eq_or_of_lt low, Nat.shiftLeft_eq]
  omega

theorem sum_toNat_le (f : Nat → BitVec 16) (k : Nat) : ∑ i ∈ Finset.range k, (f i).toNat ≤ k * 65535 := by
  induction k with
  | zero => exact Nat.le_refl 0
  | succ k ih =>
    rw [Finset.sum_range_succ]
    have := (f k).isLt
    omega

theorem wordSum_le (p : Bytes) (start : Nat) {n k : Nat} (le : n ≤ 2 * k) : p.wordSum start n ≤ k * 65535 := by
  refine (wordSum_mono le).trans ?_
  rw [wordSum_eq_sum_netShort]
  exact sum_toNat_le _ k

/-- Adding 16-bit numbers does not wrap around as long as there are not too many. -/
theorem toNat_foldl_add {f : Nat → BitVec 16} {start : BitVec 32} {k : Nat} (small : start.toNat + k * 65535 < 2 ^ 32) :
    ((List.range k).foldl (fun csum i => csum + (f i).setWidth 32) start).toNat =
      start.toNat + ∑ i ∈ Finset.range k, (f i).toNat := by
  induction k with
  | zero => rfl
  | succ k ih =>
    have word := (f k).isLt
    have before := sum_toNat_le f k
    have sum := ih (Nat.lt_of_le_of_lt (by omega) small)
    rw [List.range_succ, List.foldl_append, Finset.sum_range_succ]
    simp only [List.foldl_cons, List.foldl_nil]
    rw [BitVec.toNat_add, sum, BitVec.toNat_setWidth]
    omega

/-- The code adds up the words. -/
theorem toNat_computePayload (p : Bytes) {len : Nat} (small : len < 2 ^ 16) :
    (computePayload p len).toNat = p.wordSum 0 len := by
  have last := (p.byte (len - 1)).isLt
  have words : ∑ i ∈ Finset.range (len / 2), (byteswap16 (p.short (2 * i))).toNat = p.wordSum 0 (2 * (len / 2)) := by
    rw [wordSum_eq_sum_netShort]
    simp only [byteswap16_short, Nat.zero_add]
  have tail : (if len % 2 = 1 then (p.byte (len - 1)).setWidth 32 <<< 8 else 0 : BitVec 32).toNat =
      if len % 2 = 1 then 256 * (p.byte (len - 1)).toNat else 0 := by
    split_ifs
    · rw [BitVec.toNat_shiftLeft, BitVec.toNat_setWidth, Nat.shiftLeft_eq]
      omega
    · rfl
  unfold computePayload
  dsimp only
  rw [toNat_foldl_add, tail, words]
  · rcases Nat.mod_two_eq_zero_or_one len with even | odd
    · rw [if_neg (by omega), Nat.zero_add, Nat.mul_div_cancel' (Nat.dvd_of_mod_eq_zero even)]
    · obtain ⟨half, rfl⟩ : ∃ half, len = 2 * half + 1 := ⟨len / 2, by omega⟩
      rw [if_pos odd, show (2 * half + 1) / 2 = half by omega]
      unfold wordSum
      rw [Finset.sum_range_succ, Nat.add_comm]
      unfold weight
      rw [if_pos (by omega), Nat.zero_add, Nat.add_sub_cancel]
  · rw [tail]
    split_ifs <;> omega

/-- The loop leaves the one's complement sum. -/
theorem toNat_accumulateCarryBits (csum : BitVec 32) :
    (accumulateCarryBits csum).toNat = OnesComplement.fold 65535 csum.toNat := by
  have bound := csum.isLt
  have round (c : BitVec 32) : OnesComplement.fold 65535 (accumulate c).toNat = OnesComplement.fold 65535 c.toNat := by
    rw [toNat_accumulate]
    exact OnesComplement.fold_carry (by decide) c.toNat
  have once := toNat_accumulate csum
  have twice := toNat_accumulate (accumulate csum)
  have small : (accumulate (accumulate csum)).toNat ≤ 65535 := by omega
  unfold accumulateCarryBits
  rw [BitVec.toNat_setWidth, Nat.mod_eq_of_lt (by omega), ← OnesComplement.fold_of_le small, round, round]

end InternetChecksum

/-! ### Pseudo headers -/

/-- The bytes of a 16-bit number in network order. -/
def networkBytes (value : BitVec 16) : Bytes := [.ofBitVec (value.extractLsb' 8 8), .ofBitVec (value.extractLsb' 0 8)]

theorem sum_words_networkBytes (value : BitVec 16) : (Bytes.words (networkBytes value)).sum = value.toNat := by
  have high : (UInt8.ofBitVec (value.extractLsb' 8 8)).toNat = value.toNat / 256 := by
    change (value.extractLsb' 8 8).toNat = _
    rw [BitVec.extractLsb'_toNat, Nat.shiftRight_eq_div_pow]
    have := value.isLt
    omega
  have low : (UInt8.ofBitVec (value.extractLsb' 0 8)).toNat = value.toNat % 256 := by
    change (value.extractLsb' 0 8).toNat = _
    rw [BitVec.extractLsb'_toNat, Nat.shiftRight_zero]
  simp only [networkBytes, Bytes.words, List.sum_cons, List.sum_nil, high, low]
  omega

/-- Addresses, a zero byte, the protocol and the length. -/
def Ipv4Packet.pseudoHeader (packet : Bytes) (payloadlen : BitVec 16) (nextheader : BitVec 8) : Bytes :=
  packet.slice 12 8 ++ ([0, .ofBitVec nextheader] ++ networkBytes payloadlen)

/-- Addresses, the length in 32 bits, three zero bytes and the next header. -/
def Ipv6Packet.pseudoHeader (packet : Bytes) (payloadlen : BitVec 16) (nextheader : BitVec 8) : Bytes :=
  packet.slice 8 32 ++ ([0, 0] ++ (networkBytes payloadlen ++ [0, 0, 0, .ofBitVec nextheader]))

open Bytes

/-- The halves of a 32-bit member. -/
theorem Bytes.toNat_halves (p : Bytes) (i : Nat) :
    (InternetChecksum.byteswap16 ((p.long i).setWidth 16)).toNat = (p.netShort i).toNat ∧
      (InternetChecksum.byteswap16 (((p.long i) >>> 16).setWidth 16)).toNat = (p.netShort (i + 2)).toNat := by
  have low := (p.short i).isLt
  have high := (p.short (i + 2)).isLt
  have number : (p.long i).toNat = (p.short (i + 2)).toNat * 2 ^ 16 + (p.short i).toNat := by
    unfold long
    rw [BitVec.toNat_append, ← Nat.shiftLeft_add_eq_or_of_lt low, Nat.shiftLeft_eq]
  have lowHalf : (p.long i).setWidth 16 = p.short i := by
    apply BitVec.eq_of_toNat_eq
    rw [BitVec.toNat_setWidth, number]
    omega
  have highHalf : ((p.long i) >>> 16).setWidth 16 = p.short (i + 2) := by
    apply BitVec.eq_of_toNat_eq
    rw [BitVec.toNat_setWidth, BitVec.toNat_ushiftRight, Nat.shiftRight_eq_div_pow, number]
    omega
  rw [lowHalf, highHalf, InternetChecksum.byteswap16_short, InternetChecksum.byteswap16_short]
  exact ⟨rfl, rfl⟩

namespace Ipv4Packet

variable (packet : Bytes) (payloadlen : BitVec 16) (nextheader : BitVec 8)

theorem sum_pseudoHeader : (words (pseudoHeader packet payloadlen nextheader)).sum =
    packet.wordSum 12 8 + nextheader.toNat + payloadlen.toNat := by
  have protocol : (words [0, .ofBitVec nextheader]).sum = nextheader.toNat := by simp [words]
  unfold pseudoHeader
  rw [words_append (by rw [length_slice]), words_append (by simp), List.sum_append, List.sum_append, sum_words_slice, protocol,
    sum_words_networkBytes, Nat.add_assoc]

theorem toNat_computePseudoHeader : (computePseudoHeader packet payloadlen nextheader).toNat =
    packet.wordSum 12 8 + nextheader.toNat + payloadlen.toNat := by
  have length := payloadlen.isLt
  have protocol := nextheader.isLt
  have word (i : Nat) : (packet.netShort i).toNat < 65536 := (packet.netShort i).isLt
  have addresses : packet.wordSum 12 8 = (packet.netShort 12).toNat + (packet.netShort 14).toNat +
      (packet.netShort 16).toNat + (packet.netShort 18).toNat := by
    rw [show 8 = 2 * 4 by rfl, wordSum_eq_sum_netShort]
    simp only [Finset.sum_range_succ, Finset.sum_range_zero, Nat.zero_add, Nat.reduceMul, Nat.reduceAdd]
  rw [addresses]
  unfold computePseudoHeader getSrcIpaddr getDstIpaddr
  simp only [BitVec.toNat_add, BitVec.toNat_setWidth, (toNat_halves packet _).1, (toNat_halves packet _).2,
    Nat.reduceAdd]
  have := word 12
  have := word 14
  have := word 16
  have := word 18
  omega

end Ipv4Packet

namespace Ipv6Packet

variable (packet : Bytes) (payloadlen : BitVec 16) (nextheader : BitVec 8)

theorem sum_pseudoHeader : (words (pseudoHeader packet payloadlen nextheader)).sum =
    packet.wordSum 8 32 + nextheader.toNat + payloadlen.toNat := by
  have protocol : (words [0, 0, 0, .ofBitVec nextheader]).sum = nextheader.toNat := by simp [words]
  have zeros : (words [0, 0]).sum = 0 := rfl
  unfold pseudoHeader
  rw [words_append (by rw [length_slice]), words_append (by simp), words_append (by simp [networkBytes]), List.sum_append,
    List.sum_append, List.sum_append, sum_words_slice, protocol, zeros, sum_words_networkBytes]
  omega

theorem toNat_computePseudoHeader : (computePseudoHeader packet payloadlen nextheader).toNat =
    packet.wordSum 8 32 + nextheader.toNat + payloadlen.toNat := by
  have lengthBound := payloadlen.isLt
  have protocol := nextheader.isLt
  have length : (payloadlen.setWidth 32).toNat = payloadlen.toNat := BitVec.toNat_setWidth_of_le (by decide)
  have addresses : packet.wordSum 8 32 = ∑ i ∈ Finset.range 16, (packet.netShort (8 + 2 * i)).toNat :=
    wordSum_eq_sum_netShort 16
  have small := InternetChecksum.sum_toNat_le (fun i => packet.netShort (8 + 2 * i)) 16
  unfold computePseudoHeader
  rw [BitVec.toNat_add, InternetChecksum.toNat_foldl_add (by omega), ← addresses, length, BitVec.toNat_setWidth]
  omega

end Ipv6Packet

end IPStack
