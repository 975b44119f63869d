import IPStack.Ipv4.ReassemblyBounds

/-! The fragments of one datagram, delivered in any order. -/

namespace IPStack

open Ipv4Packet

/-- The place of a fragment's data in the payload of its datagram. -/
structure Part where
  offset : Nat
  len : Nat
deriving DecidableEq, Repr

def Part.stop (p : Part) : Nat := p.offset + p.len

/-- The parts cut the payload from `start` on into pieces, each at a multiple of eight. -/
def Cuts (start : Nat) : List Part → Nat → Prop
  | [], stop => start = stop
  | p :: rest, stop => p.offset = start ∧ start % 8 = 0 ∧ 0 < p.len ∧ Cuts p.stop rest stop

instance Cuts.decidable : (start : Nat) → (parts : List Part) → (stop : Nat) → Decidable (Cuts start parts stop)
  | _, [], _ => inferInstanceAs (Decidable (_ = _))
  | _, p :: rest, stop => @instDecidableAnd _ _ _ (@instDecidableAnd _ _ _ (@instDecidableAnd _ _ _ (Cuts.decidable p.stop rest stop)))

theorem Cuts.ordered {start stop : Nat} {parts : List Part} (cuts : Cuts start parts stop) : start ≤ stop := by
  induction parts generalizing start with
  | nil => exact cuts.le
  | cons p rest ih =>
    obtain ⟨at_start, -, -, later⟩ := cuts
    have := ih later
    unfold Part.stop at this
    omega

theorem Cuts.bounds {start stop : Nat} {parts : List Part} (cuts : Cuts start parts stop) {p : Part} (member : p ∈ parts) :
    start ≤ p.offset ∧ 0 < p.len ∧ p.stop ≤ stop := by
  induction parts generalizing start with
  | nil => exact absurd member List.not_mem_nil
  | cons q rest ih =>
    obtain ⟨at_start, -, nonempty, later⟩ := cuts
    rcases List.mem_cons.mp member with rfl | inRest
    · exact ⟨at_start.ge, nonempty, later.ordered⟩
    · obtain ⟨above, positive, below⟩ := ih later inRest
      unfold Part.stop at above
      exact ⟨by omega, positive, below⟩

theorem Cuts.covers {start stop : Nat} {parts : List Part} (cuts : Cuts start parts stop) {i : Nat} (above : start ≤ i)
    (below : i < stop) : ∃ p ∈ parts, p.offset ≤ i ∧ i < p.stop := by
  induction parts generalizing start with
  | nil =>
    have : start = stop := cuts
    omega
  | cons p rest ih =>
    obtain ⟨at_start, -, -, later⟩ := cuts
    rcases Nat.lt_or_ge i p.stop with first | behind
    · exact ⟨p, List.mem_cons_self .., by omega, first⟩
    · obtain ⟨q, member, covers⟩ := ih later behind
      exact ⟨q, List.mem_cons_of_mem _ member, covers⟩

/-- A partition has one last part. -/
theorem Cuts.one_last {start stop : Nat} {parts : List Part} (cuts : Cuts start parts stop) :
    parts.Pairwise fun p q => ¬ (p.stop = stop ∧ q.stop = stop) := by
  induction parts generalizing start with
  | nil => exact .nil
  | cons p rest ih =>
    obtain ⟨-, -, -, later⟩ := cuts
    refine .cons (fun q member both => ?_) (ih later)
    obtain ⟨above, positive, below⟩ := later.bounds member
    unfold Part.stop at *
    omega

theorem Cuts.has_last {start stop : Nat} {parts : List Part} (cuts : Cuts start parts stop) (nonempty : start < stop) :
    ∃ p ∈ parts, p.stop = stop := by
  obtain ⟨p, member, -, below⟩ := cuts.covers (i := stop - 1) (by omega) (by omega)
  have := (cuts.bounds member).2.2
  exact ⟨p, member, by omega⟩

/-- A datagram that has room in the reassembly buffer. -/
structure Datagram where
  ihl : Nat
  src : BitVec 32
  dst : BitVec 32
  id : BitVec 16
  payload : Bytes
  header : 5 ≤ ihl
  fits : ihl * 4 + payload.length ≤ Reassembly.bufferSize

namespace Datagram

def headerLen (d : Datagram) : Nat := d.ihl * 4

def total (d : Datagram) : Nat := d.headerLen + d.payload.length

/-- The part at the end of the payload. -/
def isLast (d : Datagram) (p : Part) : Prop := p.stop = d.payload.length

instance (d : Datagram) (p : Part) : Decidable (d.isLast p) := inferInstanceAs (Decidable (_ = _))

/-- The packet is the fragment of the datagram with this part of the payload. -/
structure Carries (d : Datagram) (p : Part) (packet : Bytes) : Prop where
  ihl : getIhl packet = d.ihl
  totalLen : getTotalLen packet = d.headerLen + p.len
  flags : getFlags packet = if d.isLast p then 0 else mfFlag
  offset : getFragmentOffset packet * 8 = p.offset
  src : getSrcIpaddr packet = d.src
  dst : getDstIpaddr packet = d.dst
  id : getId packet = d.id
  data : ∀ i < p.len, (getData packet).byte i = d.payload.byte (p.offset + i)

instance (d : Datagram) (p : Part) (packet : Bytes) : Decidable (d.Carries p packet) :=
  decidable_of_iff
    (getIhl packet = d.ihl ∧ getTotalLen packet = d.headerLen + p.len ∧
      getFlags packet = (if d.isLast p then 0 else mfFlag) ∧ getFragmentOffset packet * 8 = p.offset ∧
      getSrcIpaddr packet = d.src ∧ getDstIpaddr packet = d.dst ∧ getId packet = d.id ∧
      ∀ i < p.len, (getData packet).byte i = d.payload.byte (p.offset + i))
    ⟨fun ⟨ihl, totalLen, flags, offset, src, dst, id, data⟩ => ⟨ihl, totalLen, flags, offset, src, dst, id, data⟩,
      fun ⟨ihl, totalLen, flags, offset, src, dst, id, data⟩ => ⟨ihl, totalLen, flags, offset, src, dst, id, data⟩⟩

end Datagram

/-- A fragment that arrives at some time. -/
structure Delivery where
  now : BitVec 64
  part : Part
  packet : Bytes

def Delivery.offset (x : Delivery) : BitVec 16 := BitVec.ofNat 16 (getFragmentOffset x.packet * 8)

namespace Reassembly

/-- Fragments arrive one after the other; the result is that of the last one. -/
def deliver (clock : Clock) (r : Reassembly) (deliveries : List Delivery) : Reassembly × Bool :=
  deliveries.foldl (fun s x => s.1.ipv4Reassemble clock x.now x.packet x.offset) (r, false)

/-- The datagram is reported complete, and the buffer holds its payload behind the header. -/
structure Completed (d : Datagram) (result : Reassembly × Bool) : Prop where
  reported : result.2 = true
  total : result.1.totalLen.toNat = d.total
  payload : ∀ i < d.payload.length, result.1.buffer.byte (d.headerLen + i) = d.payload.byte i

instance (d : Datagram) (result : Reassembly × Bool) : Decidable (Completed d result) :=
  decidable_of_iff
    (result.2 = true ∧ result.1.totalLen.toNat = d.total ∧
      ∀ i < d.payload.length, result.1.buffer.byte (d.headerLen + i) = d.payload.byte i)
    ⟨fun ⟨reported, total, payload⟩ => ⟨reported, total, payload⟩,
      fun ⟨reported, total, payload⟩ => ⟨reported, total, payload⟩⟩

/-- The total lengths for which `full_bitmap` can be true. -/
def Checkable (total : Nat) : Prop := 64 ≤ total ∧ total < bufferSize ∧ (total / 128 % 2 = 0 ∨ 56 ≤ total % 64)

instance (total : Nat) : Decidable (Checkable total) := inferInstanceAs (Decidable (_ ∧ _ ∧ (_ ∨ _)))

end Reassembly

namespace Datagram

open Reassembly

/-- The blocks that are marked for a delivered fragment. -/
def touches (d : Datagram) (x : Delivery) (b : Nat) : Prop :=
  (d.headerLen + x.part.offset) / 8 ≤ b ∧ b ≤ (d.headerLen + x.part.stop) / 8

instance (d : Datagram) (x : Delivery) (b : Nat) : Decidable (d.touches x b) := inferInstanceAs (Decidable (_ ∧ _))

/-- Every block that `full_bitmap` looks at is marked once these fragments are there. -/
def looksFull (d : Datagram) (front : List Delivery) : Prop :=
  (∃ x ∈ front, d.isLast x.part) ∧
    ∀ b ≤ d.total / 8, b / 8 + 1 ≠ d.total / 64 → b ≤ d.headerLen / 8 ∨ ∃ x ∈ front, d.touches x b

instance (d : Datagram) (front : List Delivery) : Decidable (d.looksFull front) :=
  inferInstanceAs (Decidable ((∃ x ∈ front, d.isLast x.part) ∧
    ∀ b ≤ d.total / 8, b / 8 + 1 ≠ d.total / 64 → b ≤ d.headerLen / 8 ∨ ∃ x ∈ front, d.touches x b))

/-- The copy that the fragment of a delivery leaves in the buffer. -/
def copyOf (d : Datagram) (x : Delivery) : Copy := ⟨x.packet, d.headerLen + x.part.offset, x.part.len⟩

/-- All fragments of a datagram together mark every block behind its header. -/
theorem looksFull_all {d : Datagram} {deliveries : List Delivery} (nonempty : 0 < d.payload.length)
    (covered : ∀ i < d.payload.length, ∃ y ∈ deliveries, y.part.offset ≤ i ∧ i < y.part.stop)
    (last : ∃ y ∈ deliveries, d.isLast y.part) : d.looksFull deliveries := by
  refine ⟨last, fun b below _ => ?_⟩
  unfold Datagram.total at below
  rcases Nat.lt_or_ge (d.headerLen / 8) b with behind | inHeader
  · right
    rcases Nat.lt_or_ge (8 * b) (d.headerLen + d.payload.length) with inside | atEnd
    · obtain ⟨y, member, above, upTo⟩ := covered (8 * b - d.headerLen) (by omega)
      exact ⟨y, member, by unfold Datagram.touches; omega⟩
    · obtain ⟨y, member, stop⟩ := last
      have stop : y.part.stop = d.payload.length := stop
      refine ⟨y, member, ?_⟩
      unfold Datagram.touches
      have : y.part.offset ≤ y.part.stop := Nat.le_add_right ..
      omega
  · exact .inl inHeader

end Datagram

namespace Reassembly

variable {clock : Clock} {now : BitVec 64} {d : Datagram} {r r' : Reassembly} {x : Delivery} {front : List Delivery}

/-- The buffer while fragments of the datagram arrive. -/
structure Receiving (d : Datagram) (r : Reassembly) : Prop extends Filled r where
  src : getSrcIpaddr r.buffer = d.src
  dst : getDstIpaddr r.buffer = d.dst
  id : getId r.buffer = d.id
  alive : r.crashed = false
  headerLen : d.headerLen ≤ r.headerLen.toNat ∧ r.headerLen.toNat ≤ d.headerLen + 1
  known : r.totalLen.toNat = 0 ∨ r.totalLen.toNat = d.total
  ends : ∀ p ∈ r.trace.copied, p.start + p.len ≤ d.total

/-- A fragment of the datagram, somewhere inside its payload. -/
structure Delivers (d : Datagram) (x : Delivery) : Prop extends d.Carries x.part x.packet where
  nonempty : 0 < x.part.len
  inside : x.part.stop ≤ d.payload.length

theorem Delivers.offset_toNat (delivers : Delivers d x) : x.offset.toNat = x.part.offset := by
  have masked : getFragmentOffset x.packet ≤ 0x1FFF := by
    unfold getFragmentOffset
    rw [BitVec.toNat_and]
    exact Nat.and_le_right
  unfold Delivery.offset
  rw [BitVec.toNat_ofNat, ← delivers.offset]
  omega

theorem Delivers.lengths (delivers : Delivers d x) : Lengths x.packet := by
  have := d.header
  have total := delivers.totalLen
  unfold Datagram.headerLen at total
  exact ⟨by rw [delivers.ihl]; omega, by rw [delivers.ihl, total]; omega⟩

theorem Receiving.matches (receiving : Receiving d r) (delivers : Delivers d x) : r.sameDatagram x.packet :=
  ⟨receiving.src.trans delivers.src.symm, receiving.dst.trans delivers.dst.symm, receiving.id.trans delivers.id.symm⟩

theorem Receiving.large (receiving : Receiving d r) (delivers : Delivers d x) : r.headerLen.toNat ≤ getTotalLen x.packet := by
  have := delivers.nonempty
  have := receiving.headerLen
  rw [delivers.totalLen]
  omega

/-- A fragment ends at its own place in the buffer, whatever header length was kept. -/
theorem Receiving.copy_end (receiving : Receiving d r) (delivers : Delivers d x) :
    (r.dataStart x.offset).toNat + (r.dataLen x.packet).toNat = d.headerLen + x.part.stop := by
  rw [Reassembly.copy_end (receiving.large delivers), delivers.offset_toNat, delivers.totalLen]
  unfold Part.stop
  omega

theorem Receiving.copy_fits (receiving : Receiving d r) (delivers : Delivers d x) :
    (r.dataStart x.offset).toNat + (r.dataLen x.packet).toNat ≤ bufferSize := by
  have := delivers.inside
  have := d.fits
  rw [receiving.copy_end delivers]
  unfold Datagram.headerLen
  omega

theorem Receiving.copyData_eq (receiving : Receiving d r) (delivers : Delivers d x) :
    r.copyData clock now x.packet x.offset = ((r.measured x.packet x.offset).store x.packet x.offset).tryReassemble clock now := by
  have fits : ((r.measured x.packet x.offset).dataStart x.offset).toNat +
    ((r.measured x.packet x.offset).dataLen x.packet).toNat ≤ bufferSize := receiving.copy_fits delivers
  unfold copyData
  dsimp only
  rw [dataEnd_toNat fits, if_neg (by omega), if_neg (by omega)]

theorem Receiving.measured (receiving : Receiving d r) (packet : Bytes) (offset : BitVec 16) :
    Receiving d (r.measured packet offset) where
  toFilled := receiving.toFilled.measured packet offset
  src := receiving.src
  dst := receiving.dst
  id := receiving.id
  alive := receiving.alive
  headerLen := receiving.headerLen
  known := receiving.known
  ends := receiving.ends

theorem Receiving.examined (receiving : Receiving d r) : Receiving d r.examined where
  toFilled := receiving.toFilled.examined
  src := receiving.src
  dst := receiving.dst
  id := receiving.id
  alive := receiving.alive
  headerLen := receiving.headerLen
  known := receiving.known
  ends := receiving.ends

theorem store_crashed (fits : (r.dataStart x.offset).toNat + (r.dataLen x.packet).toNat ≤ bufferSize) :
    (r.store x.packet x.offset).crashed = r.crashed := by
  obtain ⟨stored, updated, result, -⟩ := store_marked fits
  rw [result, updated.frame]
  rfl

theorem Receiving.store_total (receiving : Receiving d r) (delivers : Delivers d x) :
    (r.store x.packet x.offset).totalLen.toNat = if d.isLast x.part then d.total else r.totalLen.toNat := by
  obtain ⟨-, -, -, total⟩ := store_marked (receiving.copy_fits delivers)
  rw [total, receiving.copy_end delivers, delivers.flags]
  by_cases last : d.isLast x.part
  · rw [if_pos last, if_pos last, if_pos (by decide)]
    unfold Datagram.total
    rw [show x.part.stop = d.payload.length from last]
  · rw [if_neg last, if_neg last, if_neg (by decide)]

theorem Receiving.store (receiving : Receiving d r) (delivers : Delivers d x) : Receiving d (r.store x.packet x.offset) := by
  have fits := receiving.copy_fits delivers
  obtain ⟨filled, src, dst, id⟩ := store_filled receiving.toFilled (receiving.matches delivers) fits
  obtain ⟨-, above, below, -⟩ := store_header receiving.toShaped fits
  have header := receiving.headerLen
  refine ⟨filled, src.trans delivers.src, dst.trans delivers.dst, id.trans delivers.id,
    (store_crashed fits).trans receiving.alive, ?_, ?_, ?_⟩
  · unfold Datagram.headerLen at *
    omega
  · rw [receiving.store_total delivers]
    split_ifs
    · exact .inr rfl
    · exact receiving.known
  · rw [store_copied fits]
    intro p member
    rcases List.mem_append.mp member with old | new
    · exact receiving.ends p old
    · rw [List.mem_singleton.mp new]
      have stop := receiving.copy_end delivers
      have := delivers.inside
      unfold Datagram.total
      exact stop.le.trans (by omega)

/-- A datagram that is reported complete has a total length that can be checked. -/
theorem Receiving.checkable (receiving : Receiving d r) (complete : (r.tryReassemble clock now).2 = true) :
    Checkable d.total ∧ r.totalLen.toNat = d.total := by
  obtain ⟨full, -⟩ := tryReassemble_complete complete
  obtain ⟨large, below, -, last⟩ := (fullBitmap_iff receiving.toShaped).mp full
  have total : r.totalLen.toNat = d.total := receiving.known.resolve_left (by omega)
  refine ⟨⟨by omega, by unfold bufferSize; omega, ?_⟩, total⟩
  by_contra neither
  have bit := (last 7 (by decide)).mpr (.inl (by omega))
  have header := receiving.header
  rcases (receiving.marks _ (by omega)).mp bit with inHeader | ⟨p, member, -, upTo⟩
  · omega
  · have := receiving.ends p member
    omega

theorem Receiving.restart (receiving : Receiving d r) (incomplete : (r.tryReassemble clock now).2 = false) :
    Receiving d (r.tryReassemble clock now).1 ∧ (r.tryReassemble clock now).1.trace.copied = r.trace.copied ∧
      (r.tryReassemble clock now).1.headerLen = r.headerLen ∧
      (r.tryReassemble clock now).1.expiredTime = now + clock.msToTicks 60000 := by
  have reads (accesses : List Nat) : Receiving d
      { r with
        expiredTime := now + clock.msToTicks 60000
        trace := { r.trace with bitmapAccesses := accesses } } :=
    ⟨receiving.toFilled.times _ accesses, receiving.src, receiving.dst, receiving.id, receiving.alive,
      receiving.headerLen, receiving.known, receiving.ends⟩
  unfold tryReassemble at incomplete ⊢
  dsimp only at incomplete ⊢
  split_ifs at incomplete ⊢
  · exact ⟨reads _, rfl, rfl, rfl⟩
  · exact ⟨reads r.trace.bitmapAccesses, rfl, rfl, rfl⟩

/-! ### The buffer between two fragments -/

/-- At this time the buffer is cold or holds fragments of the datagram. -/
structure Between (d : Datagram) (now : BitVec 64) (r : Reassembly) : Prop where
  buffer : r.buffer.length = bufferSize
  alive : r.crashed = false
  hot : now < r.expiredTime → Receiving d r

/-- The buffer as the next fragment finds it. -/
def base (r : Reassembly) (x : Delivery) : Reassembly := if x.now < r.expiredTime then r.examined else r.reset x.packet

/-- The buffer with the next fragment in it. -/
def received (r : Reassembly) (x : Delivery) : Reassembly :=
  ((r.base x).measured x.packet x.offset).store x.packet x.offset

theorem base_hot (hot : x.now < r.expiredTime) : r.base x = r.examined := if_pos hot

theorem base_cold (cold : ¬ x.now < r.expiredTime) : r.base x = r.reset x.packet := if_neg cold

theorem Between.base (between : Between d x.now r) (delivers : Delivers d x) : Receiving d (r.base x) := by
  unfold Reassembly.base
  split_ifs with hot
  · exact (between.hot hot).examined
  · obtain ⟨filled, ⟨src, dst, id⟩, copied, header, total⟩ := reset_filled between.buffer delivers.lengths
    refine ⟨filled, src.trans delivers.src, dst.trans delivers.dst, id.trans delivers.id,
      (reset_crashed r x.packet).trans between.alive, ?_, .inl (by rw [total]; rfl), by simp [copied]⟩
    rw [header, delivers.ihl]
    exact ⟨le_rfl, Nat.le_succ _⟩

theorem Between.received (between : Between d x.now r) (delivers : Delivers d x) : Receiving d (r.received x) :=
  ((between.base delivers).measured _ _).store delivers

theorem Between.ipv4Reassemble_eq (between : Between d x.now r) (delivers : Delivers d x) :
    r.ipv4Reassemble clock x.now x.packet x.offset = (r.received x).tryReassemble clock x.now := by
  have receiving := between.base delivers
  have stored : (r.base x).copyData clock x.now x.packet x.offset = (r.received x).tryReassemble clock x.now :=
    receiving.copyData_eq delivers
  rw [← stored]
  unfold Reassembly.ipv4Reassemble Reassembly.base
  rw [if_neg (by simp [between.alive])]
  split_ifs with hot same
  · rfl
  · exact absurd ((between.hot hot).matches delivers) same
  · rfl

/-- A completed reassembly leaves a cold buffer. -/
theorem tryReassemble_cold (complete : (r.tryReassemble clock now).2 = true) : (r.tryReassemble clock now).1.expiredTime = 0 := by
  unfold tryReassemble at complete ⊢
  dsimp only at complete ⊢
  split_ifs at complete ⊢
  rfl

theorem Between.step (between : Between d x.now r) (delivers : Delivers d x) (later : BitVec 64) :
    Between d later (r.ipv4Reassemble clock x.now x.packet x.offset).1 := by
  have receiving := between.received delivers
  rw [between.ipv4Reassemble_eq delivers]
  rcases complete : ((r.received x).tryReassemble clock x.now).2 with _ | _
  · obtain ⟨again, -⟩ := receiving.restart complete
    exact ⟨again.buffer, again.alive, fun _ => again⟩
  · refine ⟨(tryReassemble_inv receiving.toFilled).buffer, (tryReassemble_kept clock x.now _).1.trans receiving.alive,
      fun hot => ?_⟩
    rw [tryReassemble_cold complete] at hot
    exact absurd hot BitVec.not_lt_zero

/-- The total length stays unknown until the last fragment arrives. -/
def Unknown (d : Datagram) (r : Reassembly) (x : Delivery) : Prop :=
  ¬ d.isLast x.part ∧ (x.now < r.expiredTime → r.totalLen.toNat = 0)

theorem Between.unknown (between : Between d x.now r) (delivers : Delivers d x) (unknown : Unknown d r x) :
    (r.received x).totalLen.toNat = 0 := by
  have total : (r.received x).totalLen.toNat = _ := ((between.base delivers).measured _ _).store_total delivers
  rw [total, if_neg unknown.1]
  change (r.base x).totalLen.toNat = 0
  rcases Decidable.em (x.now < r.expiredTime) with hot | cold
  · rw [base_hot hot]
    exact unknown.2 hot
  · obtain ⟨-, -, -, -, none⟩ := reset_filled between.buffer delivers.lengths
    rw [base_cold cold, none]
    rfl

theorem Between.incomplete (clock : Clock) (between : Between d x.now r) (delivers : Delivers d x)
    (never : ¬ Checkable d.total ∨ Unknown d r x) : (r.ipv4Reassemble clock x.now x.packet x.offset).2 = false := by
  rw [between.ipv4Reassemble_eq delivers]
  by_contra complete
  obtain ⟨checkable, total⟩ := (between.received delivers).checkable (Bool.eq_true_of_not_eq_false complete)
  have large := checkable.1
  rcases never with not | unknown
  · exact not checkable
  · have := between.unknown delivers unknown
    omega

/-- Without its last fragment, or with a length that cannot be checked, a datagram is never complete. -/
theorem Between.never (clock : Clock) (flag : Bool) (rest : List Delivery) (between : Between d x.now r)
    (delivers : ∀ y ∈ x :: rest, Delivers d y)
    (never : ¬ Checkable d.total ∨ Unknown d r x ∧ ∀ y ∈ rest, ¬ d.isLast y.part) :
    ((x :: rest).foldl (fun s x => s.1.ipv4Reassemble clock x.now x.packet x.offset) (r, flag)).2 = false := by
  have first := delivers x (List.mem_cons_self ..)
  induction rest generalizing r flag x with
  | nil => exact between.incomplete clock first (never.imp_right And.left)
  | cons y rest ih =>
    have later : ∀ z ∈ y :: rest, Delivers d z := fun z member => delivers z (List.mem_cons_of_mem _ member)
    refine ih (r := (r.ipv4Reassemble clock x.now x.packet x.offset).1) _ (between.step first y.now) later (never.imp_right fun ⟨unknown, notLast⟩ => ?_) (later y (List.mem_cons_self ..))
    refine ⟨⟨notLast y (List.mem_cons_self ..), fun _ => ?_⟩, fun z member => notLast z (List.mem_cons_of_mem _ member)⟩
    rw [between.ipv4Reassemble_eq first, (tryReassemble_kept clock x.now _).2]
    exact between.unknown first unknown

/-! ### Datagrams whose length can be checked -/

/-- The buffer with exactly these fragments. -/
structure Holding (d : Datagram) (front : List Delivery) (r : Reassembly) : Prop extends Receiving d r where
  kept : r.headerLen.toNat = d.headerLen
  copied : r.trace.copied = front.map d.copyOf
  last : r.totalLen.toNat = if ∃ y ∈ front, d.isLast y.part then d.total else 0

theorem Holding.copyOf (holding : Holding d front r) (delivers : Delivers d x) : r.added x.packet x.offset = d.copyOf x := by
  have start : (r.dataStart x.offset).toNat = d.headerLen + x.part.offset := by
    rw [dataStart_toNat, holding.kept, delivers.offset_toNat]
  have len : (r.dataLen x.packet).toNat = x.part.len := by
    rw [dataLen_toNat (holding.large delivers), delivers.totalLen, holding.kept]
    omega
  unfold added Datagram.copyOf
  rw [start, len]

theorem Holding.store (holding : Holding d front r) (delivers : Delivers d x) (small : d.total < bufferSize) :
    Holding d (front ++ [x]) (r.store x.packet x.offset) := by
  have fits := holding.copy_fits delivers
  refine ⟨holding.toReceiving.store delivers, ?_, ?_, ?_⟩
  · rw [(store_header holding.toShaped fits).2.2.2]
    · exact holding.kept
    · have := delivers.inside
      rw [holding.copy_end delivers]
      unfold Datagram.total at small
      omega
  · rw [store_copied fits, holding.copied, holding.copyOf delivers, List.map_append]
    rfl
  · rw [holding.store_total delivers, holding.last]
    simp only [List.mem_append, List.mem_singleton, or_and_right, exists_or, exists_eq_left]
    by_cases last : d.isLast x.part <;> simp [last]

theorem Holding.examined (holding : Holding d front r) : Holding d front r.examined :=
  ⟨holding.toReceiving.examined, holding.kept, holding.copied, holding.last⟩

theorem Holding.measured (holding : Holding d front r) (packet : Bytes) (offset : BitVec 16) :
    Holding d front (r.measured packet offset) :=
  ⟨holding.toReceiving.measured packet offset, holding.kept, holding.copied, holding.last⟩

theorem Holding.touched (holding : Holding d front r) {b : Nat} (inside : b < 96) :
    marked r.bitmap b ↔ b ≤ d.headerLen / 8 ∨ ∃ y ∈ front, d.touches y b := by
  rw [holding.marks b inside, holding.kept, holding.copied]
  simp only [List.mem_map, exists_exists_and_eq_and]
  refine or_congr_right (exists_congr fun y => and_congr_right fun _ => ?_)
  unfold Copy.touches Datagram.touches Datagram.copyOf Part.stop
  rw [Nat.add_assoc]

/-- The check succeeds as soon as the blocks it looks at are marked. -/
theorem Holding.complete_iff (holding : Holding d front r) (checkable : Checkable d.total) :
    (r.tryReassemble clock now).2 = true ↔ d.looksFull front := by
  obtain ⟨large, small, bits⟩ := checkable
  have last := holding.last
  unfold bufferSize at small
  have known : (r.tryReassemble clock now).2 = true ↔ r.totalLen.toNat ≠ 0 ∧ r.fullBitmap.1 = true := by
    have zero : r.totalLen ≠ 0 ↔ r.totalLen.toNat ≠ 0 := not_congr (BitVec.toNat_inj (y := 0#16)).symm
    rw [← zero]
    unfold tryReassemble
    dsimp only
    split_ifs with total full
    · exact iff_of_true rfl ⟨total, full⟩
    · exact iff_of_false not_false fun both => full both.2
    · exact iff_of_false not_false fun both => total both.1
  rw [known]
  unfold Datagram.looksFull
  by_cases there : ∃ y ∈ front, d.isLast y.part
  · rw [if_pos there] at last
    rw [and_iff_right (show r.totalLen.toNat ≠ 0 by omega), and_iff_right there, fullBitmap_iff holding.toShaped, last]
    constructor
    · rintro ⟨-, -, inner, ending⟩ b below checked
      rw [← holding.touched (by omega)]
      rcases Nat.lt_or_ge (b / 8 + 1) (d.total / 64) with before | atEnd
      · exact inner b before
      · have bit := (ending (b % 8) (by omega)).mpr (.inr (by omega))
        rwa [show 8 * (d.total / 64) + b % 8 = b by omega] at bit
    · intro all
      refine ⟨large, small, fun b before => (holding.touched (by omega)).mpr (all b (by omega) (by omega)), fun k inByte => ?_⟩
      rw [holding.touched (by omega)]
      constructor
      · rintro (inHeader | ⟨y, member, -, upTo⟩)
        · have := holding.header
          have := holding.kept
          omega
        · have copy : d.copyOf y ∈ r.trace.copied := holding.copied ▸ List.mem_map_of_mem member
          have ends := holding.ends _ copy
          have stop : (d.copyOf y).start + (d.copyOf y).len = d.headerLen + y.part.stop := by
            unfold Datagram.copyOf Part.stop
            exact Nat.add_assoc ..
          omega
      · intro asked
        exact all _ (by omega) (by omega)
  · rw [if_neg there] at last
    simp [last, there]

/-- The complete buffer holds the payload behind the header. -/
theorem Holding.completed (holding : Holding d front r) (delivers : ∀ y ∈ front, Delivers d y)
    (covered : ∀ i < d.payload.length, ∃ y ∈ front, y.part.offset ≤ i ∧ i < y.part.stop)
    (last : ∃ y ∈ front, d.isLast y.part) (complete : (r.tryReassemble clock now).2 = true) :
    Completed d (r.tryReassemble clock now) := by
  refine ⟨complete, ?_, fun i inside => ?_⟩
  · rw [(tryReassemble_kept clock now r).2, holding.last, if_pos last]
  · have header := holding.header
    have kept := holding.kept
    have finished : (r.tryReassemble clock now).1.buffer.byte (d.headerLen + i) = r.buffer.byte (d.headerLen + i) := by
      unfold tryReassemble at complete ⊢
      dsimp only at complete ⊢
      split_ifs at complete ⊢
      exact finish_byte holding.buffer (by omega)
    obtain ⟨y, member, above, below⟩ := covered i inside
    have cover : ∃ p ∈ r.trace.copied, p.covers (d.headerLen + i) := by
      rw [holding.copied]
      refine ⟨_, List.mem_map_of_mem member, ?_⟩
      unfold Copy.covers Datagram.copyOf
      unfold Part.stop at below
      dsimp only
      omega
    obtain ⟨p, copied, -, covers, byte⟩ := holding.origin _ cover
    rw [holding.copied] at copied
    obtain ⟨z, received, rfl⟩ := List.mem_map.mp copied
    unfold Copy.covers Datagram.copyOf at covers
    dsimp only at covers
    rw [finished, byte]
    unfold Copy.byteAt Datagram.copyOf
    dsimp only
    rw [(delivers z received).data _ (by omega)]
    congr 1
    omega

/-- No proper part of the fragments, in the order of their arrival, already looks full. -/
def Awaited (d : Datagram) (front back : List Delivery) : Prop :=
  ∀ mid rest, back = mid ++ rest → mid ≠ [] → rest ≠ [] → ¬ d.looksFull (front ++ mid)

theorem awaited_singleton : Awaited d front [x] := by
  intro mid rest split nonempty more
  have lengths := congrArg List.length split
  have := List.length_pos_iff.mpr nonempty
  have := List.length_pos_iff.mpr more
  simp only [List.length_append, List.length_cons, List.length_nil] at lengths
  omega

theorem awaited_cons {y : Delivery} {rest : List Delivery} :
    Awaited d front (x :: y :: rest) ↔ ¬ d.looksFull (front ++ [x]) ∧ Awaited d (front ++ [x]) (y :: rest) := by
  constructor
  · intro awaited
    refine ⟨awaited [x] (y :: rest) rfl (by simp) (by simp), fun mid after split _ more => ?_⟩
    rw [List.append_assoc]
    exact awaited (x :: mid) after (by rw [split]; rfl) (by simp) more
  · rintro ⟨first, later⟩ mid after split nonempty more
    obtain ⟨z, tail, rfl⟩ := List.exists_cons_of_ne_nil nonempty
    obtain ⟨rfl, tails⟩ := List.cons.inj split
    rcases Decidable.em (tail = []) with rfl | longer
    · exact first
    · have := later tail after tails longer more
      rwa [List.append_assoc] at this

variable (clock) in
/-- The fragments are complete at the last one exactly if they do not look complete before. -/
theorem Holding.run (back : List Delivery) (front : List Delivery) (r : Reassembly) (flag : Bool) (x : Delivery)
    (checkable : Checkable d.total) (between : Between d x.now r) (holding : Holding d front (r.base x))
    (timely : (x :: back).IsChain fun a b => b.now < a.now + clock.msToTicks 60000)
    (delivers : ∀ y ∈ front ++ x :: back, Delivers d y)
    (once : (front ++ x :: back).Pairwise fun a b => ¬ (d.isLast a.part ∧ d.isLast b.part))
    (covered : ∀ i < d.payload.length, ∃ y ∈ front ++ x :: back, y.part.offset ≤ i ∧ i < y.part.stop)
    (full : d.looksFull (front ++ x :: back)) :
    Completed d ((x :: back).foldl (fun s x => s.1.ipv4Reassemble clock x.now x.packet x.offset) (r, flag)) ↔
      Awaited d front (x :: back) := by
  induction back generalizing front r flag x with
  | nil =>
    have first := delivers x (by simp)
    have stored : Holding d (front ++ [x]) (r.received x) := (holding.measured _ _).store first checkable.2.1
    have result : r.ipv4Reassemble clock x.now x.packet x.offset = _ := between.ipv4Reassemble_eq first
    rw [List.foldl_cons, List.foldl_nil, result]
    exact iff_of_true (stored.completed delivers covered full.1 ((stored.complete_iff checkable).mpr full)) awaited_singleton
  | cons y rest ih =>
    have first := delivers x (by simp)
    have stored : Holding d (front ++ [x]) (r.received x) := (holding.measured _ _).store first checkable.2.1
    have result : r.ipv4Reassemble clock x.now x.packet x.offset = _ := between.ipv4Reassemble_eq first
    have next : Between d y.now (r.ipv4Reassemble clock x.now x.packet x.offset).1 := between.step first y.now
    have later : ∀ z ∈ y :: rest, Delivers d z := fun z member =>
      delivers z (List.mem_append_right _ (List.mem_cons_of_mem _ member))
    have regroup : front ++ x :: y :: rest = (front ++ [x]) ++ y :: rest := by simp
    rw [awaited_cons, List.foldl_cons]
    by_cases early : d.looksFull (front ++ [x])
    · refine iff_of_false (fun completed => ?_) fun awaited => awaited.1 early
      have complete : ((r.received x).tryReassemble clock x.now).2 = true := (stored.complete_iff checkable).mpr early
      have cold : (r.ipv4Reassemble clock x.now x.packet x.offset).1.expiredTime = 0 := by
        rw [result]
        exact tryReassemble_cold complete
      obtain ⟨z, there, last⟩ := early.1
      rw [regroup] at once
      have others : ∀ w ∈ y :: rest, ¬ d.isLast w.part := fun w member lastToo =>
        (List.pairwise_append.mp once).2.2 z there w member ⟨last, lastToo⟩
      have never := next.never clock (r.ipv4Reassemble clock x.now x.packet x.offset).2 rest later
        (.inr ⟨⟨others y (List.mem_cons_self ..), fun hot => ?_⟩, fun w member => others w (List.mem_cons_of_mem _ member)⟩)
      · exact Bool.false_ne_true (never.symm.trans completed.reported)
      · rw [cold] at hot
        exact absurd hot BitVec.not_lt_zero
    · rw [and_iff_right early]
      have incomplete : ((r.received x).tryReassemble clock x.now).2 = false :=
        Bool.eq_false_iff.mpr fun complete => early ((stored.complete_iff checkable).mp complete)
      obtain ⟨again, copied, header, expired⟩ := stored.toReceiving.restart incomplete
      have kept : Holding d (front ++ [x]) (r.ipv4Reassemble clock x.now x.packet x.offset).1 := by
        rw [result]
        exact ⟨again, by rw [header]; exact stored.kept, copied.trans stored.copied,
          by rw [(tryReassemble_kept clock x.now _).2]; exact stored.last⟩
      have hot : y.now < (r.ipv4Reassemble clock x.now x.packet x.offset).1.expiredTime := by
        rw [result, expired]
        exact (List.isChain_cons_cons.mp timely).1
      refine ih (front ++ [x]) (r.ipv4Reassemble clock x.now x.packet x.offset).1
        (r.ipv4Reassemble clock x.now x.packet x.offset).2 y next ?_ (List.isChain_cons_cons.mp timely).2 ?_ ?_ ?_ ?_
      · rw [base_hot hot]
        exact kept.examined
      all_goals rw [← regroup]
      · exact delivers
      · exact once
      · exact covered
      · exact full

/-- The fragments of a datagram, each delivered once and in time to a cold buffer, make it
complete with the last one exactly if its length is one that can be checked and no proper
part of them, in the order of their arrival, already looks full. -/
theorem delivered_iff (clock : Clock) (d : Datagram) (parts : List Part) (deliveries : List Delivery) (r : Reassembly)
    (cuts : Cuts 0 parts d.payload.length) (several : 2 ≤ parts.length)
    (order : (deliveries.map Delivery.part).Perm parts) (carries : ∀ x ∈ deliveries, d.Carries x.part x.packet)
    (timely : deliveries.IsChain fun a b => b.now < a.now + clock.msToTicks 60000)
    (buffer : r.buffer.length = bufferSize) (alive : r.crashed = false)
    (cold : ∀ x ∈ deliveries.head?, ¬ x.now < r.expiredTime) :
    Completed d (r.deliver clock deliveries) ↔ Checkable d.total ∧ Awaited d [] deliveries := by
  have delivers : ∀ x ∈ deliveries, Delivers d x := by
    intro x member
    have inParts : x.part ∈ parts := order.subset (List.mem_map_of_mem member)
    obtain ⟨-, nonempty, inside⟩ := cuts.bounds inParts
    exact ⟨carries x member, nonempty, inside⟩
  have payload : 0 < d.payload.length := by
    obtain ⟨p, rest, rfl⟩ := List.exists_cons_of_ne_nil (List.ne_nil_of_length_pos (by omega : 0 < parts.length))
    obtain ⟨-, positive, below⟩ := cuts.bounds (List.mem_cons_self ..)
    unfold Part.stop at below
    omega
  have inDeliveries : ∀ p ∈ parts, ∃ y ∈ deliveries, y.part = p := fun p member =>
    List.mem_map.mp (order.mem_iff.mpr member)
  have covered : ∀ i < d.payload.length, ∃ y ∈ deliveries, y.part.offset ≤ i ∧ i < y.part.stop := by
    intro i inside
    obtain ⟨p, member, covers⟩ := cuts.covers (Nat.zero_le i) inside
    obtain ⟨y, received, rfl⟩ := inDeliveries p member
    exact ⟨y, received, covers⟩
  have last : ∃ y ∈ deliveries, d.isLast y.part := by
    obtain ⟨p, member, stop⟩ := cuts.has_last payload
    obtain ⟨y, received, rfl⟩ := inDeliveries p member
    exact ⟨y, received, stop⟩
  have once : deliveries.Pairwise fun a b => ¬ (d.isLast a.part ∧ d.isLast b.part) := by
    rw [← List.pairwise_map (f := Delivery.part) (R := fun p q => ¬ (d.isLast p ∧ d.isLast q))]
    exact (order.pairwise_iff fun both other => both other.symm).mpr cuts.one_last
  obtain ⟨x, rest, rfl⟩ : ∃ x rest, deliveries = x :: rest := by
    obtain ⟨y, member, -⟩ := last
    exact List.exists_cons_of_ne_nil (List.ne_nil_of_mem member)
  have notHot : ¬ x.now < r.expiredTime := cold x rfl
  have between : Between d x.now r := ⟨buffer, alive, fun hot => absurd hot notHot⟩
  have first := delivers x (List.mem_cons_self ..)
  have empty : Holding d [] (r.base x) := by
    obtain ⟨-, -, copied, header, total⟩ := reset_filled buffer first.lengths
    refine ⟨between.base first, ?_, ?_, ?_⟩ <;> rw [base_cold notHot]
    · rw [header, first.ihl]
      rfl
    · exact copied
    · rw [total]
      simp
  by_cases checkable : Checkable d.total
  · rw [and_iff_right checkable]
    exact Holding.run clock rest [] r false x checkable between empty timely delivers once covered
      (Datagram.looksFull_all payload covered last)
  · refine iff_of_false (fun completed => ?_) fun both => checkable both.1
    have never := between.never clock false rest delivers (.inl checkable)
    exact Bool.false_ne_true (never.symm.trans completed.reported)

end Reassembly

namespace Sample

/-- A datagram with the given payload from 10.0.0.2 to 10.0.0.1. -/
def datagram (payload : Bytes) (fits : 20 + payload.length ≤ Reassembly.bufferSize) : Datagram where
  ihl := 5
  src := 0x0200000A
  dst := 0x0100000A
  id := 7
  payload := payload
  header := le_rfl
  fits := fits

/-- The fragments with the first `8 * blocks` bytes and with the others. -/
def halves (blocks : Nat) (payload : Bytes) : List Delivery :=
  [⟨0, ⟨0, 8 * blocks⟩, fragment true 0 (payload.take (8 * blocks))⟩,
    ⟨1, ⟨8 * blocks, payload.length - 8 * blocks⟩, fragment false (UInt8.ofNat blocks) (payload.drop (8 * blocks))⟩]

end Sample

namespace Reassembly

/-- A datagram of 36 bytes in two fragments is never complete. -/
theorem shortDatagram_incomplete :
    Cuts 0 [⟨0, 8⟩, ⟨8, 8⟩] 16 ∧
      (∀ x ∈ Sample.halves 1 (List.replicate 16 1),
        (Sample.datagram (List.replicate 16 1) (by decide)).Carries x.part x.packet) ∧
      ¬ Completed (Sample.datagram (List.replicate 16 1) (by decide))
        (initial.deliver Sample.clock (Sample.halves 1 (List.replicate 16 1))) := by
  decide +kernel

theorem delivered_iff_inOrder :
    Completed (Sample.datagram (List.replicate 80 1) (by decide +kernel))
      (initial.deliver Sample.clock (Sample.halves 5 (List.replicate 80 1))) :=
  (delivered_iff Sample.clock _ [⟨0, 40⟩, ⟨40, 40⟩] _ initial (by decide +kernel) (by decide) (by decide +kernel)
    (by decide +kernel) (by decide +kernel) List.length_replicate rfl (by decide +kernel)).mpr
    ⟨by decide +kernel, awaited_cons.mpr ⟨by decide +kernel, awaited_singleton⟩⟩

end Reassembly

end IPStack
