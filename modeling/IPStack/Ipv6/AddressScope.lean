import IPStack.Ipv6.DestinationCache
import IPStack.Ipv6.PrefixComparison

/-! The scopes of addresses, and the prefixes that are documented for them. -/

namespace IPStack

open Ipv6Addr

variable {addr : Ipv6Addr}

/-! ### The documented prefixes -/

namespace IPv6AddressScope

/-- `::1`. -/
def loopbackAddress : Ipv6Addr := oneByte 15 1

/-- `fc00::`. -/
def uniqueLocalPrefix : Ipv6Addr := oneByte 0 0xFC

/-- `ff00::`. -/
def multicastPrefix : Ipv6Addr := oneByte 0 0xFF

/-- `2000::`. -/
def globalPrefix : Ipv6Addr := oneByte 0 0x20

/-- `::ffff:0:0`. -/
def mappedPrefix : Ipv6Addr := (oneByte 10 0xFF).set! 11 0xFF

/-- The prefixes that stand behind the members of the enumeration. -/
def Documented : IPv6AddressScope → Ipv6Addr → Prop
  | .nondefined, addr => SamePrefix 128 addr unspecifiedIPv6Address
  | .loopback, addr => SamePrefix 128 addr loopbackAddress
  | .linklocal, addr => SamePrefix 64 addr Router.linkLocalPrefix
  | .uniqueLocalUnicast, addr => SamePrefix 7 addr uniqueLocalPrefix
  | .multicast, addr => SamePrefix 8 addr multicastPrefix
  | .globalUnicast, addr => SamePrefix 3 addr globalPrefix ∨ SamePrefix 96 addr mappedPrefix
  | .notRecogniced, _ => False

/-- The scope has the address, or no scope has it. -/
def Contains (scope : IPv6AddressScope) (addr : Ipv6Addr) : Prop :=
  scope.Documented addr ∨ scope = .notRecogniced ∧ ∀ other : IPv6AddressScope, ¬other.Documented addr

end IPv6AddressScope

/-! ### Bytes -/

theorem getElem!_eq_byte (addr : Ipv6Addr) (block : Nat) : addr[block]! = addr.byte block := by
  unfold byte
  by_cases inside : block < 16
  · rw [getElem!_pos addr block inside, List.getD_eq_getElem _ _ (by simpa using inside)]
    simp
  · rw [getElem!_neg addr block inside, List.getD_eq_default _ _ (by simpa using inside)]
    rfl

/-- The first bytes are 0. -/
def Zeros (n : Nat) (addr : Ipv6Addr) : Prop := ∀ block < n, addr.byte block = 0

instance (n : Nat) (addr : Ipv6Addr) : Decidable (Zeros n addr) := inferInstanceAs (Decidable (∀ block < n, _))

theorem Zeros.first {n : Nat} (zeros : Zeros n addr) (pos : 0 < n) : addr.byte 0 = 0 := zeros 0 pos

theorem Zeros.shorter {n m : Nat} (zeros : Zeros n addr) (le : m ≤ n) : Zeros m addr :=
  fun block inside => zeros block (Nat.lt_of_lt_of_le inside le)

theorem zeros_succ (n : Nat) : Zeros (n + 1) addr ↔ Zeros n addr ∧ addr.byte n = 0 := by
  constructor
  · exact fun zeros => ⟨zeros.shorter (Nat.le_succ n), zeros n (Nat.lt_succ_self n)⟩
  · rintro ⟨zeros, last⟩ block inside
    rcases Nat.lt_succ_iff_lt_or_eq.mp inside with before | rfl
    · exact zeros block before
    · exact last

theorem take_all_zero {n : Nat} (small : n ≤ 16) : (addr.toList.take n).all (· = 0) = true ↔ Zeros n addr := by
  unfold Zeros byte
  simp only [List.all_eq_true, decide_eq_true_eq]
  constructor
  · intro all block inside
    have long : block < addr.toList.length := by simp; omega
    rw [List.getD_eq_getElem _ _ long]
    exact all _ (List.mem_take_iff_getElem.mpr ⟨block, by omega, rfl⟩)
  · intro zeros value member
    obtain ⟨block, inside, rfl⟩ := List.mem_take_iff_getElem.mp member
    have here := zeros block (by omega)
    rwa [List.getD_eq_getElem _ _ (by omega)] at here

namespace IPv6AddressScope

/-! ### The documented scope of an address -/

/-- The bytes of `fe80::/64`. -/
def LinkLocalBytes (addr : Ipv6Addr) : Prop :=
  addr.byte 0 = 0xFE ∧ addr.byte 1 = 0x80 ∧ ∀ block < 6, addr.byte (2 + block) = 0

instance (addr : Ipv6Addr) : Decidable (LinkLocalBytes addr) := inferInstanceAs (Decidable (_ ∧ _ ∧ ∀ block < 6, _))

/-- The scope whose documented prefix contains the address. -/
def documentedScope (addr : Ipv6Addr) : IPv6AddressScope :=
  if addr.byte 0 &&& 0xE0 = 0x20 then .globalUnicast
  else if addr.byte 0 = 0xFF then .multicast
  else if LinkLocalBytes addr then .linklocal
  else if addr.byte 0 = 0xFC ∨ addr.byte 0 = 0xFD then .uniqueLocalUnicast
  else if Zeros 10 addr ∧ addr.byte 10 = 0xFF ∧ addr.byte 11 = 0xFF then .globalUnicast
  else if Zeros 16 addr then .nondefined
  else if Zeros 15 addr ∧ addr.byte 15 = 1 then .loopback
  else .notRecogniced

theorem documented_nondefined : Documented .nondefined addr ↔ Zeros 16 addr := by
  simp [Documented, Zeros, samePrefix_iff, unspecifiedIPv6Address, byte_replicate_zero, sameTopBits]

theorem documented_loopback : Documented .loopback addr ↔ Zeros 15 addr ∧ addr.byte 15 = 1 := by
  simp only [Documented, Zeros, samePrefix_iff, loopbackAddress, sameTopBits]
  constructor
  · rintro ⟨bytes, -⟩
    refine ⟨fun block inside => ?_, ?_⟩
    · rw [bytes block (by omega), byte_oneByte (by decide), if_neg (by omega)]
    · rw [bytes 15 (by decide), byte_oneByte (by decide), if_pos rfl]
  · rintro ⟨zeros, one⟩
    refine ⟨fun block inside => ?_, fun i none => absurd none (by omega)⟩
    rw [byte_oneByte (by decide)]
    split_ifs with last
    · rw [← last, one]
    · exact zeros block (by omega)

theorem byte_linkLocalPrefix (block : Nat) :
    byte Router.linkLocalPrefix block = if 1 = block then 0x80 else if 0 = block then 0xFE else 0 := by
  rw [Router.linkLocalPrefix, byte_set! (by decide), byte_set! (by decide), unspecifiedIPv6Address, byte_replicate_zero]

theorem samePrefix_linkLocalPrefix : SamePrefix 16 addr Router.linkLocalPrefix ↔ addr.byte 0 = 0xFE ∧ addr.byte 1 = 0x80 := by
  simp only [samePrefix_iff, byte_linkLocalPrefix, sameTopBits]
  constructor
  · exact fun same => ⟨same.1 0 (by decide), same.1 1 (by decide)⟩
  · rintro ⟨first, second⟩
    refine ⟨fun block inside => ?_, fun i none => absurd none (by omega)⟩
    rcases (show block = 0 ∨ block = 1 by omega) with rfl | rfl
    · exact first
    · exact second

theorem documented_linklocal : Documented .linklocal addr ↔ LinkLocalBytes addr := by
  simp only [Documented, samePrefix_iff, byte_linkLocalPrefix, sameTopBits, LinkLocalBytes]
  constructor
  · rintro ⟨bytes, -⟩
    refine ⟨bytes 0 (by decide), bytes 1 (by decide), fun block inside => ?_⟩
    rw [bytes (2 + block) (by omega), if_neg (by omega), if_neg (by omega)]
  · rintro ⟨first, second, zeros⟩
    refine ⟨fun block inside => ?_, fun i none => absurd none (by omega)⟩
    split_ifs with one zero
    · rw [← one, second]
    · rw [← zero, first]
    · have here := zeros (block - 2) (by omega)
      rwa [Nat.add_sub_cancel' (by omega)] at here

theorem documented_uniqueLocalUnicast : Documented .uniqueLocalUnicast addr ↔ addr.byte 0 = 0xFC ∨ addr.byte 0 = 0xFD := by
  have table (first : UInt8) : sameTopBits 7 first 0xFC ↔ first = 0xFC ∨ first = 0xFD := by
    have all : ∀ bits : BitVec 8, sameTopBits 7 ⟨bits⟩ 0xFC ↔ (⟨bits⟩ : UInt8) = 0xFC ∨ (⟨bits⟩ : UInt8) = 0xFD := by
      decide +kernel
    exact all first.toBitVec
  simp [Documented, samePrefix_iff, uniqueLocalPrefix, byte_oneByte, table]

theorem samePrefix_multicastPrefix : SamePrefix 8 addr multicastPrefix ↔ addr.byte 0 = 0xFF := by
  simp [samePrefix_iff, multicastPrefix, byte_oneByte, sameTopBits]

theorem documented_multicast : Documented .multicast addr ↔ addr.byte 0 = 0xFF := samePrefix_multicastPrefix

theorem samePrefix_globalPrefix : SamePrefix 3 addr globalPrefix ↔ addr.byte 0 &&& 0xE0 = 0x20 := by
  have table (first : UInt8) : sameTopBits 3 first 0x20 ↔ first &&& 0xE0 = 0x20 := by
    have all : ∀ bits : BitVec 8, sameTopBits 3 ⟨bits⟩ 0x20 ↔ (⟨bits⟩ : UInt8) &&& 0xE0 = 0x20 := by decide +kernel
    exact all first.toBitVec
  simp [samePrefix_iff, globalPrefix, byte_oneByte, table]

theorem documented_globalUnicast : Documented .globalUnicast addr ↔
    addr.byte 0 &&& 0xE0 = 0x20 ∨ Zeros 10 addr ∧ addr.byte 10 = 0xFF ∧ addr.byte 11 = 0xFF := by
  have mapped (block : Nat) : byte mappedPrefix block = if 11 = block then 0xFF else if 10 = block then 0xFF else 0 := by
    rw [mappedPrefix, byte_set! (by decide), byte_oneByte (by decide)]
  simp only [Documented]
  refine or_congr samePrefix_globalPrefix ?_
  simp only [samePrefix_iff, mapped, sameTopBits, Zeros]
  constructor
  · rintro ⟨bytes, -⟩
    refine ⟨fun block inside => ?_, bytes 10 (by decide), bytes 11 (by decide)⟩
    rw [bytes block (by omega), if_neg (by omega), if_neg (by omega)]
  · rintro ⟨zeros, tenth, eleventh⟩
    refine ⟨fun block inside => ?_, fun i none => absurd none (by omega)⟩
    split_ifs with eleven ten
    · rw [← eleven, eleventh]
    · rw [← ten, tenth]
    · exact zeros block (by omega)

theorem and_e0_eq {first : UInt8} (global : first &&& 0xE0 = 0x20) :
    first ≠ 0 ∧ first ≠ 0xFC ∧ first ≠ 0xFD ∧ first ≠ 0xFE ∧ first ≠ 0xFF := by
  refine ⟨?_, ?_, ?_, ?_, ?_⟩ <;> (rintro rfl; revert global; decide)

/-- The documented prefixes do not overlap. -/
theorem Documented.scope {scope : IPv6AddressScope} (documented : scope.Documented addr) : documentedScope addr = scope := by
  cases scope with
  | globalUnicast =>
    rcases documented_globalUnicast.mp documented with global | ⟨zeros, mapped⟩
    · simp [documentedScope, global]
    · have first := zeros.first (by decide)
      simp +decide [documentedScope, LinkLocalBytes, first, zeros, mapped]
  | multicast => simp +decide [documentedScope, documented_multicast.mp documented]
  | linklocal =>
    have bytes := documented_linklocal.mp documented
    have first := bytes.1
    simp +decide [documentedScope, first, bytes]
  | uniqueLocalUnicast =>
    rcases documented_uniqueLocalUnicast.mp documented with first | first <;>
      simp +decide [documentedScope, LinkLocalBytes, first]
  | nondefined =>
    have zeros := documented_nondefined.mp documented
    have first := zeros.first (by decide)
    have tenth : addr.byte 10 = 0 := zeros 10 (by decide)
    simp +decide [documentedScope, LinkLocalBytes, first, zeros, tenth]
  | loopback =>
    obtain ⟨zeros, one⟩ := documented_loopback.mp documented
    have first := zeros.first (by decide)
    have tenth : addr.byte 10 = 0 := zeros 10 (by decide)
    have some : ¬Zeros 16 addr := fun all => absurd (all 15 (by decide)) (by simp [one])
    simp +decide [documentedScope, LinkLocalBytes, first, zeros, tenth, some, one]
  | notRecogniced => exact absurd documented id

theorem documented_of_scope (known : documentedScope addr ≠ .notRecogniced) : (documentedScope addr).Documented addr := by
  unfold documentedScope at known ⊢
  split_ifs at known ⊢ with global multicast linklocal unique mapped zeros loopback
  · exact documented_globalUnicast.mpr (.inl global)
  · exact documented_multicast.mpr multicast
  · exact documented_linklocal.mpr linklocal
  · exact documented_uniqueLocalUnicast.mpr unique
  · exact documented_globalUnicast.mpr (.inr mapped)
  · exact documented_nondefined.mpr zeros
  · exact documented_loopback.mpr loopback
  · exact absurd rfl known

theorem contains_iff {scope : IPv6AddressScope} : scope.Contains addr ↔ documentedScope addr = scope := by
  constructor
  · rintro (documented | ⟨rfl, none⟩)
    · exact documented.scope
    · exact not_not.mp fun known => none _ (documented_of_scope known)
  · rintro rfl
    by_cases known : documentedScope addr = .notRecogniced
    · refine .inr ⟨known, fun other documented => ?_⟩
      rw [documented.scope] at known
      rw [known] at documented
      exact documented
    · exact .inl (documented_of_scope known)

end IPv6AddressScope

/-! ### The scope that the code finds -/

/-- Eleven bytes are 0, the twelfth is not, three more are 0 and the last one is 0 or 1. -/
def AlmostZero (addr : Ipv6Addr) : Prop :=
  Zeros 11 addr ∧ addr.byte 11 ≠ 0 ∧ (addr.byte 12 = 0 ∧ addr.byte 13 = 0 ∧ addr.byte 14 = 0) ∧
    (addr.byte 15 = 0 ∨ addr.byte 15 = 1)

/-- The address lies in none of the parts of the address space where the tests of the code and
the documented prefixes differ: `2000::/3`, the addresses of `fe80::/16` outside `fe80::/64`, and
those that are almost `::` or `::1`. -/
def ScopeExact (addr : Ipv6Addr) : Prop :=
  ¬SamePrefix 3 addr IPv6AddressScope.globalPrefix ∧
    (SamePrefix 16 addr Router.linkLocalPrefix → SamePrefix 64 addr Router.linkLocalPrefix) ∧ ¬AlmostZero addr

theorem getIPv6AddressScope_eq (addr : Ipv6Addr) : getIPv6AddressScope addr =
    if addr.byte 0 = 0xFF then .multicast
    else if addr.byte 0 = 0xFE ∧ addr.byte 1 = 0x80 then .linklocal
    else if addr.byte 0 = 0xFC ∨ addr.byte 0 = 0xFD then .uniqueLocalUnicast
    else if Zeros 10 addr then
      if addr.byte 10 = 0xFF ∧ addr.byte 11 = 0xFF then .globalUnicast
      else if addr.byte 10 = 0 ∧ addr.byte 12 = 0 ∧ addr.byte 13 = 0 ∧ addr.byte 14 = 0 ∧ addr.byte 15 = 0 then .nondefined
      else if addr.byte 10 = 0 ∧ addr.byte 12 = 0 ∧ addr.byte 13 = 0 ∧ addr.byte 14 = 0 ∧ addr.byte 15 = 1 then .loopback
      else .notRecogniced
    else .notRecogniced := by
  have never (first : UInt8) : ¬first &&& 0x30 = 1 := by
    have all : ∀ bits : BitVec 8, ¬(⟨bits⟩ : UInt8) &&& 0x30 = 1 := by decide +kernel
    exact all first.toBitVec
  unfold getIPv6AddressScope
  simp only [getElem!_eq_byte, if_neg (never _), take_all_zero (show 10 ≤ 16 by decide)]

open IPv6AddressScope in
/-- Where the code finds the documented scope. Each of its tests comes in the order of the code. -/
theorem scope_eq_iff (addr : Ipv6Addr) : getIPv6AddressScope addr = documentedScope addr ↔
    ¬addr.byte 0 &&& 0xE0 = 0x20 ∧ (addr.byte 0 = 0xFE ∧ addr.byte 1 = 0x80 → LinkLocalBytes addr) ∧ ¬AlmostZero addr := by
  have fifteen : Zeros 15 addr ↔ Zeros 10 addr ∧ addr.byte 10 = 0 ∧ addr.byte 11 = 0 ∧ addr.byte 12 = 0 ∧
      addr.byte 13 = 0 ∧ addr.byte 14 = 0 := by
    rw [zeros_succ 14, zeros_succ 13, zeros_succ 12, zeros_succ 11, zeros_succ 10]
    simp only [and_assoc]
  rw [getIPv6AddressScope_eq, documentedScope]
  by_cases global : addr.byte 0 &&& 0xE0 = 0x20
  · obtain ⟨zero, fc, fd, fe, ff⟩ := and_e0_eq global
    have some : ¬Zeros 10 addr := fun zeros => zero (zeros.first (by decide))
    rw [if_pos global, if_neg ff, if_neg (fun both => fe both.1), if_neg (not_or.mpr ⟨fc, fd⟩), if_neg some]
    exact iff_of_false (by decide) (fun ok => ok.1 global)
  rw [if_neg global, and_iff_right global]
  by_cases multicast : addr.byte 0 = 0xFF
  · rw [if_pos multicast, if_pos multicast]
    refine iff_of_true rfl ⟨fun both => absurd (multicast.symm.trans both.1) (by decide), fun almost => ?_⟩
    exact absurd (multicast.symm.trans (almost.1.first (by decide))) (by decide)
  rw [if_neg multicast, if_neg multicast]
  by_cases linklocal : addr.byte 0 = 0xFE ∧ addr.byte 1 = 0x80
  · have some (n : Nat) (pos : 0 < n) : ¬Zeros n addr := fun zeros =>
      absurd (linklocal.1.symm.trans (zeros.first pos)) (by decide)
    have unique : ¬(addr.byte 0 = 0xFC ∨ addr.byte 0 = 0xFD) := by
      rw [linklocal.1]
      decide
    have apart : ¬AlmostZero addr := fun almost => some 11 (by decide) almost.1
    rw [if_pos linklocal, forall_prop_of_true linklocal, and_iff_left apart]
    by_cases bytes : LinkLocalBytes addr
    · rw [if_pos bytes]
      exact iff_of_true rfl bytes
    · rw [if_neg bytes, if_neg unique, if_neg (fun both => some 10 (by decide) both.1), if_neg (some 16 (by decide)),
        if_neg (fun both => some 15 (by decide) both.1)]
      exact iff_of_false (by decide) bytes
  have other : ¬LinkLocalBytes addr := fun bytes => linklocal ⟨bytes.1, bytes.2.1⟩
  rw [if_neg linklocal, if_neg other, and_iff_right (fun both => absurd both linklocal)]
  by_cases unique : addr.byte 0 = 0xFC ∨ addr.byte 0 = 0xFD
  · rw [if_pos unique, if_pos unique]
    refine iff_of_true rfl fun almost => ?_
    rw [almost.1.first (by decide)] at unique
    exact absurd unique (by decide)
  rw [if_neg unique, if_neg unique]
  have sixteen : Zeros 16 addr ↔ Zeros 15 addr ∧ addr.byte 15 = 0 := zeros_succ 15
  have eleven : Zeros 11 addr ↔ Zeros 10 addr ∧ addr.byte 10 = 0 := zeros_succ 10
  simp only [AlmostZero, sixteen, eleven, fifteen]
  by_cases zeros : Zeros 10 addr
  · simp only [zeros, true_and, if_true]
    by_cases mapped : addr.byte 10 = 0xFF ∧ addr.byte 11 = 0xFF
    · have some : ¬addr.byte 10 = 0 := by simp [mapped.1]
      rw [if_pos mapped, if_pos mapped]
      exact iff_of_true rfl fun almost => some almost.1
    rw [if_neg mapped, if_neg mapped]
    split_ifs <;> simp_all
  · simp [zeros]

/-- The code finds the scope whose documented prefix contains the address exactly outside these
parts. -/
theorem scopes_iff (addr : Ipv6Addr) :
    (∀ scope, getIPv6AddressScope addr = scope ↔ scope.Contains addr) ↔ ScopeExact addr := by
  have same : (∀ scope, getIPv6AddressScope addr = scope ↔ scope.Contains addr) ↔
      getIPv6AddressScope addr = IPv6AddressScope.documentedScope addr := by
    simp only [IPv6AddressScope.contains_iff]
    exact ⟨fun all => (all _).mpr rfl, fun eq scope => by rw [eq]⟩
  rw [same, scope_eq_iff, ScopeExact, IPv6AddressScope.samePrefix_globalPrefix, IPv6AddressScope.samePrefix_linkLocalPrefix]
  exact and_congr_right fun _ => and_congr_left fun _ => imp_congr_right fun _ => IPv6AddressScope.documented_linklocal.symm

/-- A global address is not recognised, and a link-local one is found outside `fe80::/64`. -/
theorem scopes_differ :
    getIPv6AddressScope (oneByte 0 0x20) = .notRecogniced ∧ IPv6AddressScope.Contains .globalUnicast (oneByte 0 0x20) ∧
      ¬∀ scope, getIPv6AddressScope (oneByte 0 0x20) = scope ↔ scope.Contains (oneByte 0 0x20) := by
  have found : getIPv6AddressScope (oneByte 0 0x20) = .notRecogniced := by decide
  have documented : IPv6AddressScope.Contains .globalUnicast (oneByte 0 0x20) :=
    .inl (.inl ((Ipv6Addr.samePrefix_equivalence 3).refl _))
  refine ⟨found, documented, fun all => ?_⟩
  exact absurd (found.symm.trans ((all _).mpr documented)) (by decide)

end IPStack
