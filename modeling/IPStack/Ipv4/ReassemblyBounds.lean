import IPStack.Ipv4.ReassemblyRuns

/-! The ranges the reassembly accesses and the lengths it computes. -/

namespace IPStack

open Transition Ipv4Packet

namespace Reassembly

/-- Every access lies inside its array, and no copy length has wrapped around. -/
structure InBounds (r : Reassembly) : Prop where
  buffer : ∀ access ∈ r.trace.bufferAccesses, access.1 + access.2 ≤ bufferSize
  bitmap : ∀ i ∈ r.trace.bitmapAccesses, i < bufferSize / (8 * 8)
  lengths : ∀ pair ∈ r.trace.subtractions, pair.2 ≤ pair.1

instance (r : Reassembly) : Decidable r.InBounds :=
  have : Decidable (∀ pair ∈ r.trace.subtractions, pair.2 ≤ pair.1) := List.decidableBAll _ _
  decidable_of_iff
    ((∀ access ∈ r.trace.bufferAccesses, access.1 + access.2 ≤ bufferSize) ∧
      (∀ i ∈ r.trace.bitmapAccesses, i < bufferSize / (8 * 8)) ∧ ∀ pair ∈ r.trace.subtractions, pair.2 ≤ pair.1)
    ⟨fun ⟨buffer, bitmap, lengths⟩ => ⟨buffer, bitmap, lengths⟩, fun ⟨buffer, bitmap, lengths⟩ => ⟨buffer, bitmap, lengths⟩⟩

/-- The total length that is known once a fragment is stored (0: not yet). -/
def knownTotal (r : Reassembly) (packet : Bytes) (offset : BitVec 16) : Nat :=
  if getFlags packet ≠ mfFlag then offset.toNat + getTotalLen packet else r.totalLen.toNat

/-- The block is marked for the header, for an earlier fragment or for this one. -/
def touchedWith (r : Reassembly) (packet : Bytes) (offset : BitVec 16) (b : Nat) : Prop :=
  b ≤ r.headerLen.toNat / 8 ∨ ∃ p ∈ r.trace.copied ++ [r.added packet offset], p.touches b

instance (r : Reassembly) (packet : Bytes) (offset : BitVec 16) (b : Nat) : Decidable (r.touchedWith packet offset b) :=
  inferInstanceAs (Decidable (_ ∨ ∃ p ∈ r.trace.copied ++ [r.added packet offset], p.touches b))

/-- The fragment is as long as the header of the datagram's first fragment, does not end with
the last byte of the buffer, and leaves a block open while the known length is below 64. -/
def Fits (r : Reassembly) (packet : Bytes) (offset : BitVec 16) : Prop :=
  r.headerLen.toNat ≤ getTotalLen packet ∧ offset.toNat + getTotalLen packet ≠ bufferSize ∧
    (offset.toNat + getTotalLen packet < bufferSize → r.knownTotal packet offset ≠ 0 → r.knownTotal packet offset < 64 →
      ∃ b < 96, ¬ r.touchedWith packet offset b)

instance (r : Reassembly) (packet : Bytes) (offset : BitVec 16) : Decidable (r.Fits packet offset) :=
  inferInstanceAs (Decidable (_ ∧ _ ∧ (_ → _ → _ → ∃ b < 96, ¬ r.touchedWith packet offset b)))

/-- The buffer into which a fragment of the datagram is stored. -/
def target (r : Reassembly) (now : BitVec 64) (packet : Bytes) : Reassembly :=
  if now < r.expiredTime then r else r.reset packet

/-- Of the packets that reach the reassembly, those that are stored fit. -/
def arrivesInBounds (r : Reassembly) (a : Arrival) : Prop :=
  a.reassembles → (r.target a.now a.packet).sameDatagram a.packet →
    (r.target a.now a.packet).Fits a.packet (BitVec.ofNat 16 (getFragmentOffset a.packet * 8))

instance (r : Reassembly) (a : Arrival) : Decidable (r.arrivesInBounds a) :=
  inferInstanceAs (Decidable (_ → _ → _))

variable {clock : Clock} {now : BitVec 64} {r r' : Reassembly} {packet : Bytes} {offset : BitVec 16}

/-! ### One fragment -/

theorem dataLen_toNat (large : r.headerLen.toNat ≤ getTotalLen packet) :
    (r.dataLen packet).toNat = getTotalLen packet - r.headerLen.toNat := by
  have := getTotalLen_lt packet
  have := r.headerLen.isLt
  unfold dataLen
  simp only [BitVec.toNat_sub, BitVec.toNat_ofNat, BitVec.toNat_setWidth]
  omega

/-- The copy of a fragment that is long enough ends at its own total length. -/
theorem copy_end (large : r.headerLen.toNat ≤ getTotalLen packet) :
    (r.dataStart offset).toNat + (r.dataLen packet).toNat = offset.toNat + getTotalLen packet := by
  rw [dataStart_toNat, dataLen_toNat large]
  omega

theorem dataEnd_toNat_of_le (large : r.headerLen.toNat ≤ getTotalLen packet) :
    (r.dataEnd packet offset).toNat = offset.toNat + getTotalLen packet := by
  have stop : (r.dataStart offset).toNat + (r.dataLen packet).toNat = _ := copy_end large
  have := getTotalLen_lt packet
  have := offset.isLt
  unfold dataEnd
  rw [BitVec.toNat_add]
  omega

/-- The lengths of a fragment wrap around exactly when it is shorter than the kept header. -/
theorem measured_lengths (r : Reassembly) (packet : Bytes) (offset : BitVec 16) :
    (∀ pair ∈ (r.measured packet offset).trace.subtractions, pair.2 ≤ pair.1) ↔
      (∀ pair ∈ r.trace.subtractions, pair.2 ≤ pair.1) ∧ r.headerLen.toNat ≤ getTotalLen packet := by
  have total := getTotalLen_lt packet
  have header := r.headerLen.isLt
  have first : r.headerLen.setWidth 32 ≤ BitVec.ofNat 32 (getTotalLen packet) ↔ r.headerLen.toNat ≤ getTotalLen packet := by
    rw [BitVec.le_def, BitVec.toNat_setWidth, BitVec.toNat_ofNat, Nat.mod_eq_of_lt (by omega), Nat.mod_eq_of_lt (by omega)]
  unfold measured
  simp only [List.mem_append, List.mem_cons, List.not_mem_nil, or_false, or_imp, forall_and, forall_eq, first]
  refine and_congr_right fun _ => and_iff_left_of_imp fun large => ?_
  rw [BitVec.le_def, dataEnd_toNat_of_le large, dataStart_toNat]
  omega

theorem marks_bounds {start stop : Nat} (ordered : start ≤ stop) (below : stop ≤ bufferSize) :
    (∀ i ∈ (offsets (start / 8 * 8) stop).map (· / 64), i < bufferSize / (8 * 8)) ↔ stop ≠ bufferSize := by
  unfold bufferSize at *
  simp only [List.mem_map, forall_exists_index, and_imp, forall_apply_eq_imp_iff₂]
  constructor
  · rintro inside rfl
    have := inside 768 (mem_offsets.mpr (by omega))
    omega
  · intro other i member
    have := mem_offsets.mp member
    omega

/-- `full_bitmap` leaves the bitmap exactly when the known length is below 64 and all of it is full. -/
theorem fullBitmap_bounds (shaped : Shaped r) (below : r.totalLen.toNat < bufferSize) :
    (∀ i ∈ r.fullBitmap.2, i < bufferSize / (8 * 8)) ↔
      (r.totalLen.toNat < 64 → ∃ b < 96, ¬ marked r.bitmap b) := by
  have header : r.cell 12 ≠ 0xFF#8 := by
    rw [cell_header shaped.bitmap]
    intro full
    have := shaped.header
    rw [full] at this
    exact absurd this (by decide)
  unfold bufferSize at *
  unfold fullBitmap
  dsimp only
  generalize r.totalLen.toNat = t at below ⊢
  rcases Nat.lt_or_ge t 64 with small | large
  · have rounds : fullRounds t = 2 ^ 32 - 1 := by
      unfold fullRounds
      rw [if_pos (by omega)]
    have never : ¬ (r.fullFrom 0 (fullRounds t)).1 = true := by
      rw [fullFrom_iff, rounds]
      exact fun all => header (all 12 (by omega) (by omega))
    rw [if_neg never, rounds]
    constructor
    · intro inside _
      by_contra all
      have full : ∀ k < 12, r.cell k = 0xFF#8 := fun k small => (full_iff shaped.bitmap small).mpr fun b block => by
        by_contra unmarked
        exact all ⟨b, by omega, unmarked⟩
      have := inside 12 (mem_fullFrom.mpr ⟨by omega, by omega, fun k _ before => full k before⟩)
      omega
    · intro unmarked i member
      obtain ⟨-, -, before⟩ := mem_fullFrom.mp member
      obtain ⟨b, inside, missing⟩ := unmarked small
      by_contra outside
      exact missing ((full_iff shaped.bitmap (i := b / 8) (by omega)).mp (before _ (by omega) (by omega)) b rfl)
  · refine iff_of_true (fun i member => ?_) fun small => absurd small (by omega)
    have rounds : fullRounds t = t / 64 - 1 := by
      unfold fullRounds
      rw [if_neg (by omega)]
    rw [rounds] at member
    split_ifs at member
    · rcases List.mem_append.mp member with scanned | last
      · have := (mem_fullFrom.mp scanned).2.1
        omega
      · rw [List.mem_singleton.mp last]
        omega
    · have := (mem_fullFrom.mp member).2.1
      omega

theorem tryReassemble_bounds :
    InBounds (r.tryReassemble clock now).1 ↔
      InBounds r ∧ (r.totalLen.toNat ≠ 0 → ∀ i ∈ r.fullBitmap.2, i < bufferSize / (8 * 8)) := by
  have known : r.totalLen.toNat ≠ 0 ↔ r.totalLen ≠ 0 := not_congr (BitVec.toNat_inj (y := 0#16))
  have ends : ∀ access ∈ [(6, 2), (2, 2)], access.1 + access.2 ≤ bufferSize := by decide
  rw [known]
  unfold tryReassemble
  dsimp only
  split_ifs with total full
  · constructor
    · rintro ⟨buffer, bitmap, lengths⟩
      exact ⟨⟨fun access member => buffer access (List.mem_append_left _ member),
        fun i member => bitmap i (List.mem_append_left _ member), lengths⟩,
        fun _ i member => bitmap i (List.mem_append_right _ member)⟩
    · rintro ⟨⟨buffer, bitmap, lengths⟩, reads⟩
      refine ⟨fun access member => ?_, fun i member => ?_, lengths⟩
      · exact (List.mem_append.mp member).elim (buffer access) (ends access)
      · exact (List.mem_append.mp member).elim (bitmap i) (reads total i)
  · constructor
    · rintro ⟨buffer, bitmap, lengths⟩
      exact ⟨⟨buffer, fun i member => bitmap i (List.mem_append_left _ member), lengths⟩,
        fun _ i member => bitmap i (List.mem_append_right _ member)⟩
    · rintro ⟨⟨buffer, bitmap, lengths⟩, reads⟩
      exact ⟨buffer, fun i member => (List.mem_append.mp member).elim (bitmap i) (reads total i), lengths⟩
  · exact ⟨fun inside => ⟨⟨inside.buffer, inside.bitmap, inside.lengths⟩, fun known => absurd known total⟩,
      fun inside => ⟨inside.1.buffer, inside.1.bitmap, inside.1.lengths⟩⟩

theorem store_bounds (fits : (r.dataStart offset).toNat + (r.dataLen packet).toNat ≤ bufferSize) :
    InBounds (r.store packet offset) ↔
      InBounds r ∧ (r.dataStart offset).toNat + (r.dataLen packet).toNat ≠ bufferSize := by
  obtain ⟨stored, updated, result, -⟩ := store_marked fits
  have marks := marks_bounds (Nat.le_add_right _ (r.dataLen packet).toNat) fits
  have trace : (r.store packet offset).trace =
      { r.trace with
        copied := r.trace.copied ++ [r.added packet offset]
        bufferAccesses := r.trace.bufferAccesses ++ [((r.dataStart offset).toNat, (r.dataLen packet).toNat)]
        bitmapAccesses :=
          r.trace.bitmapAccesses ++
            (offsets ((r.dataStart offset).toNat / 8 * 8) ((r.dataStart offset).toNat + (r.dataLen packet).toNat)).map
              (· / 64) } := by
    rw [result, updated.frame]
    rfl
  constructor
  · rintro ⟨buffer, bitmap, lengths⟩
    rw [trace] at buffer bitmap lengths
    exact ⟨⟨fun access member => buffer access (List.mem_append_left _ member),
      fun i member => bitmap i (List.mem_append_left _ member), lengths⟩,
      marks.mp fun i member => bitmap i (List.mem_append_right _ member)⟩
  · rintro ⟨⟨buffer, bitmap, lengths⟩, other⟩
    refine ⟨?_, ?_, ?_⟩ <;> rw [trace]
    · intro access member
      rcases List.mem_append.mp member with before | new
      · exact buffer access before
      · rw [List.mem_singleton.mp new]
        exact fits
    · exact fun i member => (List.mem_append.mp member).elim (bitmap i) (marks.mpr other i)
    · exact lengths

theorem store_subtractions (r : Reassembly) (packet : Bytes) (offset : BitVec 16) :
    (r.store packet offset).trace.subtractions = r.trace.subtractions := by
  have updated := updateBitmap_marked (r.paste packet offset) (r.dataStart offset).toNat (r.dataEnd packet offset).toNat
  unfold store
  dsimp only
  split_ifs <;> rw [updated.frame] <;> rfl

theorem tryReassemble_subtractions (clock : Clock) (now : BitVec 64) (r : Reassembly) :
    (r.tryReassemble clock now).1.trace.subtractions = r.trace.subtractions := by
  unfold tryReassemble
  dsimp only
  split_ifs <;> rfl

theorem copyData_subtractions (clock : Clock) (now : BitVec 64) (r : Reassembly) (packet : Bytes) (offset : BitVec 16) :
    (r.copyData clock now packet offset).1.trace.subtractions = (r.measured packet offset).trace.subtractions := by
  unfold copyData
  dsimp only
  split_ifs
  · rfl
  · rfl
  · rw [tryReassemble_subtractions, store_subtractions]

theorem copyData_bounds (filled : Filled r) (same : r.sameDatagram packet) (short : r.totalLen.toNat < bufferSize)
    (inside : InBounds r) : InBounds (r.copyData clock now packet offset).1 ↔ r.Fits packet offset := by
  have lengths := measured_lengths r packet offset
  by_cases large : r.headerLen.toNat ≤ getTotalLen packet
  · have measured : InBounds (r.measured packet offset) := ⟨inside.buffer, inside.bitmap, lengths.mpr ⟨inside.lengths, large⟩⟩
    have stop : ((r.measured packet offset).dataEnd packet offset).toNat = offset.toNat + getTotalLen packet :=
      dataEnd_toNat_of_le large
    have copyEnd : ((r.measured packet offset).dataStart offset).toNat + ((r.measured packet offset).dataLen packet).toNat =
      offset.toNat + getTotalLen packet := copy_end large
    unfold copyData
    dsimp only
    rw [stop, copyEnd]
    unfold Fits
    split_ifs with big
    · refine iff_of_true ⟨measured.buffer, measured.bitmap, measured.lengths⟩ ⟨large, by omega, fun below => ?_⟩
      omega
    · have fits : ((r.measured packet offset).dataStart offset).toNat +
          ((r.measured packet offset).dataLen packet).toNat ≤ bufferSize := by omega
      obtain ⟨storedFilled, -⟩ := store_filled (filled.measured packet offset) same fits
      obtain ⟨-, -, -, total⟩ := store_marked fits
      rw [tryReassemble_bounds, store_bounds fits, copyEnd, and_iff_right measured, and_iff_right large]
      refine and_congr_right fun other => ?_
      have known : ((r.measured packet offset).store packet offset).totalLen.toNat = r.knownTotal packet offset := by
        rw [total, copyEnd]
        rfl
      have below : ((r.measured packet offset).store packet offset).totalLen.toNat < bufferSize := by
        rw [known]
        unfold knownTotal
        split_ifs <;> omega
      have touched : ∀ b < 96, marked ((r.measured packet offset).store packet offset).bitmap b ↔
          r.touchedWith packet offset b := by
        intro b inBitmap
        rw [storedFilled.marks b inBitmap, (store_header (filled.measured packet offset).toShaped fits).1, store_copied fits]
        rfl
      rw [fullBitmap_bounds storedFilled.toShaped below, known, imp_iff_right (by omega : offset.toNat + getTotalLen packet < bufferSize)]
      refine imp_congr_right fun _ => imp_congr_right fun _ => exists_congr fun b => and_congr_right fun inBitmap => ?_
      rw [touched b inBitmap]
  · refine iff_of_false (fun after => large ?_) fun fits => large fits.1
    exact (lengths.mp (copyData_subtractions clock now r packet offset ▸ after.lengths)).2

/-! ### Runs -/

/-- The aspect's memory between two packets of a run that has stayed inside its arrays. -/
structure Bounded (r : Reassembly) : Prop extends Inv r where
  inside : InBounds r
  alive : r.crashed = false
  short : r.expiredTime ≠ 0 → r.totalLen.toNat < bufferSize

theorem tryReassemble_kept (clock : Clock) (now : BitVec 64) (r : Reassembly) :
    (r.tryReassemble clock now).1.crashed = r.crashed ∧ (r.tryReassemble clock now).1.totalLen = r.totalLen := by
  unfold tryReassemble
  dsimp only
  split_ifs <;> exact ⟨rfl, rfl⟩

theorem copyData_kept (clock : Clock) (now : BitVec 64) (short : r.totalLen.toNat < bufferSize) (fits : r.Fits packet offset) :
    (r.copyData clock now packet offset).1.crashed = r.crashed ∧
      (r.copyData clock now packet offset).1.totalLen.toNat < bufferSize := by
  obtain ⟨large, other, -⟩ := fits
  have stop : ((r.measured packet offset).dataEnd packet offset).toNat = offset.toNat + getTotalLen packet :=
    dataEnd_toNat_of_le large
  have copyEnd : ((r.measured packet offset).dataStart offset).toNat + ((r.measured packet offset).dataLen packet).toNat =
    offset.toNat + getTotalLen packet := copy_end large
  unfold copyData
  dsimp only
  rw [stop, copyEnd]
  split_ifs with big
  · exact ⟨rfl, short⟩
  · have inBuffer : ((r.measured packet offset).dataStart offset).toNat +
        ((r.measured packet offset).dataLen packet).toNat ≤ bufferSize := by omega
    obtain ⟨stored, updated, result, total⟩ := store_marked inBuffer
    obtain ⟨crashed, kept⟩ := tryReassemble_kept clock now ((r.measured packet offset).store packet offset)
    rw [crashed, kept, total, copyEnd]
    constructor
    · rw [result, updated.frame]
      rfl
    · have old : (r.measured packet offset).totalLen.toNat < bufferSize := short
      split_ifs <;> omega

theorem reset_bounds (inside : InBounds r) : InBounds (r.reset packet) := by
  have updated := reset_marked r packet
  have ihl := getIhl_lt packet
  have header := headerLen_toNat packet
  refine ⟨?_, ?_, ?_⟩ <;> rw [updated.frame]
  · intro access member
    rcases List.mem_append.mp member with before | new
    · exact inside.buffer access before
    · rw [List.mem_singleton.mp new]
      unfold bufferSize
      dsimp only
      omega
  · intro i member
    rcases List.mem_append.mp member with before | new
    · exact inside.bitmap i before
    · obtain ⟨j, block, rfl⟩ := List.mem_map.mp new
      have := mem_offsets.mp block
      unfold bufferSize
      omega
  · exact inside.lengths

theorem reset_crashed (r : Reassembly) (packet : Bytes) : (r.reset packet).crashed = r.crashed := by
  rw [(reset_marked r packet).frame]
  rfl

theorem examined_bounds (inside : InBounds r) : InBounds r.examined := by
  refine ⟨fun access member => ?_, inside.bitmap, inside.lengths⟩
  rcases List.mem_append.mp member with before | new
  · exact inside.buffer access before
  · rw [List.mem_singleton.mp new]
    decide

/-- A fragment stays inside the arrays exactly when it fits, if it is stored at all; and
what it leaves can take the next one. -/
theorem ipv4Reassemble_bounds (bounded : Bounded r) (lengths : Lengths packet) :
    (InBounds (r.ipv4Reassemble clock now packet offset).1 ↔
      ((r.target now packet).sameDatagram packet → (r.target now packet).Fits packet offset)) ∧
    (InBounds (r.ipv4Reassemble clock now packet offset).1 → Bounded (r.ipv4Reassemble clock now packet offset).1) := by
  have inv : Inv (r.ipv4Reassemble clock now packet offset).1 := ipv4Reassemble_inv bounded.toInv lengths
  have crashed : ¬ r.crashed = true := by simp [bounded.alive]
  unfold target
  unfold ipv4Reassemble at inv ⊢
  rw [if_neg crashed] at inv ⊢
  split_ifs at inv ⊢ with hot same
  · have alive := hot_of_lt hot
    have short : r.examined.totalLen.toNat < bufferSize := bounded.short alive
    have fits : InBounds (r.examined.copyData clock now packet offset).1 ↔ _ := copyData_bounds
      (bounded.hot alive bounded.alive).examined same short (examined_bounds bounded.inside)
    refine ⟨fits.trans (imp_iff_right same).symm, fun inside => ?_⟩
    obtain ⟨crashed, total⟩ := copyData_kept clock now short (fits.mp inside)
    exact ⟨inv, inside, crashed.trans bounded.alive, fun _ => total⟩
  · exact ⟨iff_of_true (examined_bounds bounded.inside) fun other => absurd other same,
      fun inside => ⟨inv, inside, bounded.alive, bounded.short⟩⟩
  · obtain ⟨filled, same, -, -, total⟩ := reset_filled bounded.buffer lengths
    have short : (r.reset packet).totalLen.toNat < bufferSize := by
      rw [total]
      decide
    have fits : InBounds ((r.reset packet).copyData clock now packet offset).1 ↔ _ := copyData_bounds filled same short
      (reset_bounds bounded.inside)
    refine ⟨fits.trans (imp_iff_right same).symm, fun inside => ?_⟩
    obtain ⟨crashed, below⟩ := copyData_kept clock now short (fits.mp inside)
    exact ⟨inv, inside, (crashed.trans (reset_crashed r packet)).trans bounded.alive, fun _ => below⟩

theorem step_bounds (bounded : Bounded r) (a : Arrival) :
    (InBounds (step clock r a) ↔ r.arrivesInBounds a) ∧ (InBounds (step clock r a) → Bounded (step clock r a)) := by
  rw [step_eq]
  unfold arrivesInBounds
  split_ifs with reaches
  · rw [imp_iff_right reaches]
    exact ipv4Reassemble_bounds bounded (accepted_lengths reaches.1)
  · exact ⟨iff_of_true bounded.inside fun is => absurd is reaches, fun _ => bounded⟩

/-- A run stays inside the arrays, and its copy lengths do not wrap around, exactly as long
as the fragments that are stored fit. -/
theorem accesses_inBounds (reach : Reach (step clock) arrivesInBounds initial r) :
    InBounds r ∧ ∀ a, InBounds (step clock r a) ↔ r.arrivesInBounds a := by
  have bounded : Bounded r := by
    refine reach.invariant Bounded ?_ fun _ a bounded fits => (step_bounds bounded a).2 ((step_bounds bounded a).1.mpr fits)
    have untouched : InBounds initial := ⟨nofun, nofun, nofun⟩
    exact ⟨⟨List.length_replicate, fun hot => absurd rfl hot⟩, untouched, rfl, fun hot => absurd rfl hot⟩
  exact ⟨bounded.inside, fun a => (step_bounds bounded a).1⟩

/-- A fragment whose data end with the last byte of the buffer: `bitmap[12]` is written. -/
theorem lastByte_outside : ∃ r, Reach (step Sample.clock) (fun _ _ => True) initial r ∧ ¬ InBounds r :=
  ⟨step Sample.clock initial ⟨0, Sample.interface, Sample.fragment false 93 [1, 2, 3, 4], 24⟩, Reach.start.next trivial,
    by decide +kernel⟩

theorem accesses_inBounds_inOrder : InBounds
    (step Sample.clock
      (step Sample.clock initial ⟨0, Sample.interface, Sample.fragment true 0 (List.replicate 40 1), 60⟩)
      ⟨1, Sample.interface, Sample.fragment false 5 (List.replicate 40 2), 60⟩) :=
  (accesses_inBounds (Reach.start.next (by decide +kernel) |>.next (by decide +kernel))).1

end Reassembly

end IPStack
