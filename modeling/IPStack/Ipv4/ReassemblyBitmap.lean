import IPStack.Ipv4.Reassembly

/-! What `update_bitmap` marks and what `full_bitmap` checks. -/

namespace IPStack

namespace Reassembly

theorem mem_offsets {start stop i : Nat} : i ∈ offsets start stop ↔ start ≤ i ∧ i ≤ stop ∧ (i - start) % 8 = 0 := by
  unfold offsets
  rw [List.mem_range']
  constructor
  · rintro ⟨k, below, rfl⟩
    omega
  · rintro ⟨above, below, aligned⟩
    exact ⟨(i - start) / 8, by omega, by omega⟩

/-- The loop of `update_bitmap` meets every block from the start's to the end's, both included. -/
theorem offsets_blocks {start stop b : Nat} :
    (∃ i ∈ offsets (start / 8 * 8) stop, i / 8 = b) ↔ start / 8 ≤ b ∧ b ≤ stop / 8 := by
  constructor
  · rintro ⟨i, member, rfl⟩
    obtain ⟨above, below, aligned⟩ := mem_offsets.mp member
    omega
  · rintro ⟨above, below⟩
    exact ⟨b * 8, mem_offsets.mpr (by omega), by omega⟩

/-- What a sequence of `bitmap[index] |= (1 << value)` does at the offsets `l`. -/
structure Marked (l : List Nat) (r r' : Reassembly) : Prop where
  frame : r' =
    { r with
      bitmap := r'.bitmap
      headerLen := r'.headerLen
      trace := { r.trace with bitmapAccesses := r.trace.bitmapAccesses ++ l.map (· / 64) } }
  length : r'.bitmap.length = r.bitmap.length
  blocks : ∀ b, b / 8 < r.bitmap.length → (marked r'.bitmap b ↔ marked r.bitmap b ∨ ∃ i ∈ l, i / 8 = b)
  header : (∀ i ∈ l, i < 64 * r.bitmap.length) → r'.headerLen = r.headerLen
  beyond : (∀ i ∈ l, i ≤ 64 * r.bitmap.length) → r'.headerLen = r.headerLen ∨ r'.headerLen = r.headerLen ||| 1#8

theorem setBlock_marked (r : Reassembly) (i : Nat) : Marked [i] r (r.setBlock i) := by
  unfold setBlock
  dsimp only
  split_ifs with inside
  · refine ⟨rfl, length_mark, fun b _ => ?_, fun _ => rfl, fun _ => .inl rfl⟩
    rw [marked_mark (by omega)]
    simp only [List.mem_singleton, exists_eq_left]
    exact or_comm.trans (or_congr_right eq_comm)
  · refine ⟨rfl, rfl, fun b within => ?_, fun bound => ?_, fun bound => .inr ?_⟩
    · have outside : i / 8 ≠ b := by omega
      simp [outside]
    · have := bound i (List.mem_singleton_self i)
      omega
    · have := bound i (List.mem_singleton_self i)
      have at_end : i % 64 / 8 = 0 := by omega
      dsimp only
      rw [at_end]
      rfl

theorem Marked.append {l l' : List Nat} {r r' r'' : Reassembly} (first : Marked l r r') (second : Marked l' r' r'') :
    Marked (l ++ l') r r'' := by
  refine ⟨?_, second.length.trans first.length, fun b within => ?_, fun bound => ?_, fun bound => ?_⟩
  · rw [second.frame, first.frame]
    simp only [List.map_append, List.append_assoc]
  · rw [second.blocks b (first.length ▸ within), first.blocks b within, or_assoc]
    simp only [List.mem_append, or_and_right, exists_or]
  · rw [second.header, first.header]
    · exact fun i member => bound i (List.mem_append_left _ member)
    · exact fun i member => first.length ▸ bound i (List.mem_append_right _ member)
  · have before := first.beyond fun i member => bound i (List.mem_append_left _ member)
    have after := second.beyond fun i member => first.length ▸ bound i (List.mem_append_right _ member)
    rcases before with before | before <;> rcases after with after | after <;> rw [after, before]
    · exact .inl rfl
    · exact .inr rfl
    · exact .inr rfl
    · right
      rw [BitVec.or_assoc, BitVec.or_self]

theorem foldl_marked (l : List Nat) (r : Reassembly) : Marked l r (l.foldl setBlock r) := by
  induction l generalizing r with
  | nil =>
    refine ⟨?_, rfl, fun b _ => by simp, fun _ => rfl, fun _ => .inl rfl⟩
    simp
  | cons i rest ih => exact (setBlock_marked r i).append (ih _)

theorem updateBitmap_marked (r : Reassembly) (start stop : Nat) :
    Marked (offsets (start / 8 * 8) stop) r (r.updateBitmap start stop) := foldl_marked _ r

/-! ### The check for completeness -/

theorem fullFrom_iff (r : Reassembly) (i rounds : Nat) :
    (r.fullFrom i rounds).1 = true ↔ ∀ j, i ≤ j → j < i + rounds → r.cell j = 0xFF#8 := by
  induction rounds generalizing i with
  | zero =>
    simp only [fullFrom, Nat.add_zero, true_iff]
    intro j above below
    omega
  | succ rounds ih =>
    unfold fullFrom
    split_ifs with other
    · refine iff_of_false not_false ?_
      exact fun all => other (all i le_rfl (by omega))
    · rw [ih]
      have same : r.cell i = 0xFF#8 := not_not.mp other
      constructor
      · intro rest j above below
        rcases Nat.eq_or_lt_of_le above with rfl | later
        · exact same
        · exact rest j later (by omega)
      · exact fun all j above below => all j (by omega) (by omega)

/-- The loop reads the bytes up to the first one that is not full. -/
theorem mem_fullFrom {r : Reassembly} {i rounds j : Nat} :
    j ∈ (r.fullFrom i rounds).2 ↔ i ≤ j ∧ j < i + rounds ∧ ∀ k, i ≤ k → k < j → r.cell k = 0xFF#8 := by
  induction rounds generalizing i with
  | zero =>
    simp only [fullFrom, List.not_mem_nil, Nat.add_zero, false_iff, not_and]
    intro above below
    omega
  | succ rounds ih =>
    unfold fullFrom
    split_ifs with other
    · rw [List.mem_singleton]
      constructor
      · rintro rfl
        exact ⟨le_rfl, by omega, fun k above below => absurd below (by omega)⟩
      · rintro ⟨above, below, before⟩
        by_contra later
        exact other (before i le_rfl (by omega))
    · have same : r.cell i = 0xFF#8 := not_not.mp other
      simp only [List.mem_cons, ih]
      constructor
      · rintro (rfl | ⟨above, below, before⟩)
        · exact ⟨le_rfl, by omega, fun k above below => absurd below (by omega)⟩
        · refine ⟨by omega, by omega, fun k lower upper => ?_⟩
          rcases Nat.eq_or_lt_of_le lower with rfl | next
          · exact same
          · exact before k next upper
      · rintro ⟨above, below, before⟩
        rcases Nat.eq_or_lt_of_le above with equal | next
        · exact .inl equal.symm
        · exact .inr ⟨next, by omega, fun k lower upper => before k (by omega) upper⟩

theorem mask_eq {total : Nat} (bound : total < 1024) : total &&& 0xFFFFFF40 = total / 256 * 256 + total / 64 % 2 * 64 := by
  have all : ∀ n : Fin 1024, n.val &&& 0xFFFFFF40 = n.val / 256 * 256 + n.val / 64 % 2 * 64 := by decide +kernel
  exact all ⟨total, bound⟩

theorem foldl_bits (l : List Nat) (value : BitVec 8) {k : Nat} (bound : k < 8) :
    (l.foldl (fun value i => value ||| 1#8 <<< (i % 64 / 8)) value).getLsbD k = true ↔
      value.getLsbD k = true ∨ ∃ i ∈ l, i % 64 / 8 = k := by
  induction l generalizing value with
  | nil => simp
  | cons i rest ih =>
    rw [List.foldl_cons, ih, BitVec.getLsbD_or, Bool.or_eq_true, or_assoc]
    refine or_congr_right ?_
    have bit : (1#8 <<< (i % 64 / 8)).getLsbD k = true ↔ i % 64 / 8 = k := by
      have small : i % 64 / 8 < 8 := by omega
      generalize i % 64 / 8 = n at small
      interval_cases n <;> interval_cases k <;> decide
    rw [bit]
    simp

/-- The bits of the last byte that `full_bitmap` asks for: all of them where bit 7 of the
total length is set, and those up to the datagram's end elsewhere. -/
theorem lastValue_bit {total k : Nat} (bound : total < 1024) (small : k < 8) :
    (lastValue total).getLsbD k = true ↔ total / 128 % 2 = 1 ∨ k ≤ total % 64 / 8 := by
  unfold lastValue
  rw [foldl_bits _ _ small, mask_eq bound]
  simp only [BitVec.getLsbD_zero, Bool.false_eq_true, false_or, mem_offsets]
  constructor
  · rintro ⟨i, ⟨above, below, aligned⟩, rfl⟩
    omega
  · intro asked
    exact ⟨total / 256 * 256 + total / 64 % 2 * 64 + 8 * k, by omega, by omega⟩

/-- The shape of the aspect's memory, which every packet keeps. -/
structure Shaped (r : Reassembly) : Prop where
  buffer : r.buffer.length = bufferSize
  bitmap : r.bitmap.length = 12
  header : 20 ≤ r.headerLen.toNat ∧ r.headerLen.toNat ≤ 61
  total : r.totalLen.toNat ≤ bufferSize

variable {r : Reassembly}

theorem cell_of_lt (length : r.bitmap.length = 12) {i : Nat} (inside : i < 12) : r.cell i = r.bitmap.getD i 0 :=
  List.getD_append _ _ _ _ (length ▸ inside)

theorem cell_header (length : r.bitmap.length = 12) : r.cell 12 = r.headerLen := by
  unfold cell
  rw [List.getD_append_right _ _ _ _ (by omega), length]
  rfl

theorem cell_bit (length : r.bitmap.length = 12) {i k : Nat} (inside : i < 12) (small : k < 8) :
    (r.cell i).getLsbD k = true ↔ marked r.bitmap (8 * i + k) := by
  unfold marked
  rw [cell_of_lt length inside, show (8 * i + k) / 8 = i by omega, show (8 * i + k) % 8 = k by omega]

theorem full_iff (length : r.bitmap.length = 12) {i : Nat} (inside : i < 12) :
    r.cell i = 0xFF#8 ↔ ∀ b, b / 8 = i → marked r.bitmap b := by
  constructor
  · rintro full b rfl
    exact marked_of_full ((cell_of_lt length inside).symm.trans full)
  · intro all
    apply BitVec.eq_of_getLsbD_eq
    intro k small
    have bit := (cell_bit length inside small).mpr (all _ (by omega))
    rw [bit]
    interval_cases k <;> rfl

/-- What `full_bitmap` checks: the bytes before the last but one, and the last one. The last
but one is not looked at, and no datagram below 64 or of 768 bytes is ever complete. -/
theorem fullBitmap_iff (shaped : Shaped r) :
    r.fullBitmap.1 = true ↔
      64 ≤ r.totalLen.toNat ∧ r.totalLen.toNat < 768 ∧
        (∀ b, b / 8 + 1 < r.totalLen.toNat / 64 → marked r.bitmap b) ∧
        ∀ k < 8, (marked r.bitmap (8 * (r.totalLen.toNat / 64) + k) ↔
          r.totalLen.toNat / 128 % 2 = 1 ∨ k ≤ r.totalLen.toNat % 64 / 8) := by
  have total : r.totalLen.toNat ≤ 768 := shaped.total
  have header : ∀ value : BitVec 8, value.toNat < 20 ∨ 61 < value.toNat → r.cell 12 ≠ value := by
    rintro value other equal
    rw [cell_header shaped.bitmap] at equal
    have := shaped.header
    rw [equal] at this
    omega
  unfold fullBitmap
  dsimp only
  generalize r.totalLen.toNat = t at total ⊢
  by_cases all : (r.fullFrom 0 (fullRounds t)).1 = true
  · rw [if_pos all]
    rw [fullFrom_iff] at all
    have large : 64 ≤ t := by
      by_contra short
      refine header 0xFF#8 (by decide) (all 12 (Nat.zero_le _) ?_)
      unfold fullRounds
      rw [if_pos (by omega)]
      omega
    have rounds : fullRounds t = t / 64 - 1 := by
      unfold fullRounds
      rw [if_neg (by omega)]
    rw [rounds] at all
    have inner : ∀ b, b / 8 + 1 < t / 64 → marked r.bitmap b := fun b checked =>
      (full_iff shaped.bitmap (i := b / 8) (by omega)).mp (all _ (Nat.zero_le _) (by omega)) b rfl
    simp only [decide_eq_true_eq]
    rcases Nat.lt_or_ge t 768 with below | at_end
    · have lastBits : r.cell (t / 64) = lastValue t ↔
          ∀ k < 8, ((r.cell (t / 64)).getLsbD k = true ↔ (lastValue t).getLsbD k = true) := by
        constructor
        · intro equal k _
          rw [equal]
        · intro bits
          apply BitVec.eq_of_getLsbD_eq
          exact fun k small => Bool.eq_iff_iff.mpr (bits k small)
      rw [lastBits]
      constructor
      · intro bits
        refine ⟨large, below, inner, fun k small => ?_⟩
        rw [← cell_bit shaped.bitmap (by omega) small, bits k small, lastValue_bit (by omega) small]
      · rintro ⟨-, -, -, bits⟩ k small
        rw [cell_bit shaped.bitmap (by omega) small, bits k small, lastValue_bit (by omega) small]
    · obtain rfl : t = 768 := by omega
      have never : ¬ r.cell (768 / 64) = lastValue 768 := header _ (by decide)
      simp [never]
  · rw [if_neg all]
    refine iff_of_false all ?_
    rintro ⟨large, below, inner, -⟩
    refine all ((fullFrom_iff ..).mpr fun j _ upper => ?_)
    have checked : j + 1 < t / 64 := by
      unfold fullRounds at upper
      rw [if_neg (by omega)] at upper
      omega
    exact (full_iff shaped.bitmap (by omega)).mpr fun b equal => inner b (by omega)

end Reassembly

end IPStack
