import IPStack.Ipv6.ExtensionHeaders

/-! Option headers as their senders write them, and what the walk makes of them. -/

namespace IPStack

open ExtensionHeaderOptions

variable {packet : Bytes} {len data remaining fuel rounds : Nat} {number : BitVec 8} {upper : Ipv6Payload → Bool}

/-! ### Well-formed headers -/

/-- An option of an extension header. PadN is an option of type 1. -/
inductive Ipv6Option where
  | pad1
  | data (type : UInt8) (bytes : Bytes)
deriving DecidableEq, Repr

def Ipv6Option.encode : Ipv6Option → Bytes
  | .pad1 => [0]
  | .data type bytes => type :: .ofNat bytes.length :: bytes

/-- The option is known to every node, or may be skipped by one that does not know it. -/
def Ipv6Option.skippable : Ipv6Option → Prop
  | .pad1 => True
  | .data type bytes => type ≠ 0 ∧ parseOption type.toBitVec ∧ bytes.length < 256

instance : (option : Ipv6Option) → Decidable option.skippable
  | .pad1 => inferInstanceAs (Decidable True)
  | .data .. => inferInstanceAs (Decidable (_ ∧ _ ∧ _))

/-- A hop-by-hop (0) or destination options (60) header. -/
structure ExtensionHeader where
  number : UInt8
  options : List Ipv6Option
deriving DecidableEq, Repr

namespace ExtensionHeader

def size (header : ExtensionHeader) : Nat := 2 + (header.options.flatMap Ipv6Option.encode).length

/-- The header is of one of the two kinds, its options may be skipped, and they are padded to
a multiple of eight bytes that the length byte can express. -/
structure WellFormed (header : ExtensionHeader) : Prop where
  kind : header.number = 0 ∨ header.number = 60
  skippable : ∀ option ∈ header.options, option.skippable
  aligned : header.size % 8 = 0
  bounded : header.size ≤ 2048

def encode (header : ExtensionHeader) (next : UInt8) : Bytes :=
  next :: .ofNat (header.size / 8 - 1) :: header.options.flatMap Ipv6Option.encode

end ExtensionHeader

/-- The next header in front of a chain that ends with an upper layer. -/
def firstHeader (upperLayer : UInt8) : List ExtensionHeader → UInt8
  | [] => upperLayer
  | header :: _ => header.number

def encodeChain (upperLayer : UInt8) (payload : Bytes) : List ExtensionHeader → Bytes
  | [] => payload
  | header :: rest => header.encode (firstHeader upperLayer rest) ++ encodeChain upperLayer payload rest

def chainSize (chain : List ExtensionHeader) : Nat := (chain.map ExtensionHeader.size).sum

/-- The packet carries the chain and behind it the payload. -/
structure Ipv6Packet.Holds (packet : Bytes) (chain : List ExtensionHeader) (upperLayer : UInt8) (payload : Bytes) : Prop where
  layer : upperLayer.toBitVec ∈ upperLayers
  headers : ∀ header ∈ chain, header.WellFormed
  nonempty : payload ≠ []
  nextHeader : getNextheader packet = (firstHeader upperLayer chain).toBitVec
  length : (getPayloadLen packet).toNat = (encodeChain upperLayer payload chain).length
  bytes : (packet.drop headerSizeInBytes).take (getPayloadLen packet).toNat = encodeChain upperLayer payload chain

/-! ### The chain -/

def Ipv6Event.isHands : Ipv6Event → Bool
  | .hands .. => true
  | _ => false

/-- The walk ends, and the only thing it hands over is the payload behind the chain, with its
length, to the upper layer that the last header names. -/
def Delivers (upper : Ipv6Payload → Bool) (packet : Bytes) (chain : List ExtensionHeader) (upperLayer : UInt8)
    (payload : Bytes) : Prop :=
  ∃ fuel, (ipv6Demux upper fuel packet).result.isSome ∧ (ipv6Demux upper fuel packet).events.filter Ipv6Event.isHands =
    [.hands upperLayer.toBitVec (Ipv6Packet.headerSizeInBytes + chainSize chain) (BitVec.ofNat 32 payload.length)]

theorem all_read_bind {α : Type} {P : Ipv6Event → Prop} (reads : ∀ position, P (.read position)) (packet : Bytes)
    (position : Nat) (f : BitVec 8 → Ipv6Walk α) : (readByte packet position >>= f).All P ↔ (f (packet.byte position)).All P := by
  rw [Traced.all_bind, readByte, Traced.all_emit]
  exact ⟨fun all => all.2 _ rfl, fun later => ⟨reads position, fun a returned => Option.some.inj returned ▸ later⟩⟩

theorem parseOptions_reads {P : Ipv6Event → Prop} (reads : ∀ position, P (.read position)) (fuel : Nat) (packet : Bytes)
    (data remaining : Nat) : (parseOptions fuel packet data remaining).All P := by
  induction fuel generalizing data remaining with
  | zero => exact Traced.all_running
  | succ fuel ih =>
    by_cases more : remaining = 0
    · subst more
      exact Traced.all_pure _
    rw [parseOptions_succ more, all_read_bind reads, all_read_bind reads]
    split_ifs
    · exact Traced.all_pure _
    · exact ih _ _

/-- The next header stays that of the first extension header, so nothing is handed over. -/
theorem headers_hands {p : Ipv6Payload} (kind : p.nextHeader = 0 ∨ p.nextHeader = 60) (rounds : Nat) :
    (headers upper fuel packet rounds p).All (fun e => e.isHands = false) := by
  induction rounds generalizing p with
  | zero => exact Traced.all_running
  | succ rounds ih =>
    rw [headers_succ kind, all_read_bind (fun _ => rfl), Traced.all_bind]
    refine ⟨parseOptions_reads (P := fun e => e.isHands = false) (fun _ => rfl) _ _ _ _, fun parsed _ => ?_⟩
    split_ifs
    · exact Traced.all_pure _
    · exact Traced.all_pure _
    · rw [Traced.all_bind, Traced.all_emit]
      exact ⟨rfl, fun _ _ => ih (p := p.next packet) kind⟩

theorem hands_nothing (kind : Ipv6Packet.getNextheader packet = 0 ∨ Ipv6Packet.getNextheader packet = 60)
    (upper : Ipv6Payload → Bool) (fuel : Nat) : (ipv6Demux upper fuel packet).events.filter Ipv6Event.isHands = [] := by
  have all : (ipv6Demux upper fuel packet).All (fun e => e.isHands = false) := by
    rw [ipv6Demux_eq, all_read_bind (fun _ => rfl), all_read_bind (fun _ => rfl), all_read_bind (fun _ => rfl)]
    exact headers_hands kind fuel
  rw [List.filter_eq_nil_iff]
  intro e member
  rw [all e member]
  exact Bool.false_ne_true

theorem upperLayers_other {layer : BitVec 8} (member : layer ∈ upperLayers) : layer ≠ 0 ∧ layer ≠ 60 := by
  have others : ∀ layer ∈ upperLayers, layer ≠ 0 ∧ layer ≠ 60 := by decide
  exact others layer member

theorem events_ipv6Demux (upper : Ipv6Payload → Bool) (fuel : Nat) (packet : Bytes) : (ipv6Demux upper fuel packet).events =
    .read 4 :: .read 5 :: .read 6 :: (headers upper fuel packet fuel (.start packet)).events := rfl

/-- For every packet with a chain of well-formed option headers and an upper-layer payload:
the payload is delivered exactly when the chain is empty. -/
theorem delivers_iff {chain : List ExtensionHeader} {upperLayer : UInt8} {payload : Bytes}
    (holds : Ipv6Packet.Holds packet chain upperLayer payload) (upper : Ipv6Payload → Bool) :
    Delivers upper packet chain upperLayer payload ↔ chain = [] := by
  cases chain with
  | nil =>
    refine iff_of_true ⟨1, ?_⟩ rfl
    have length : (Ipv6Packet.getPayloadLen packet).toNat = payload.length := holds.length
    have bound := (Ipv6Packet.getPayloadLen packet).isLt
    have start : (Ipv6Payload.start packet).payloadLength = BitVec.ofNat 32 payload.length := by
      apply BitVec.eq_of_toNat_eq
      rw [BitVec.toNat_ofNat, Nat.mod_eq_of_lt (by omega), ← length]
      exact BitVec.toNat_setWidth_of_le (by decide)
    have nonempty : (Ipv6Payload.start packet).payloadLength ≠ 0 := by
      intro zero
      have none := congrArg BitVec.toNat (start.symm.trans zero)
      rw [BitVec.toNat_ofNat, Nat.mod_eq_of_lt (by omega)] at none
      exact holds.nonempty (List.eq_nil_of_length_eq_zero none)
    have layer : (Ipv6Payload.start packet).nextHeader = upperLayer.toBitVec := holds.nextHeader
    obtain ⟨r, round⟩ := headers_upper (p := .start packet) upper packet 1 0
      (layer ▸ upperLayers_other holds.layer) nonempty
    rw [if_pos (layer ▸ holds.layer), layer, start] at round
    rw [result_ipv6Demux, events_ipv6Demux, round]
    exact ⟨rfl, rfl⟩
  | cons header rest =>
    refine iff_of_false ?_ (List.cons_ne_nil _ _)
    rintro ⟨fuel, -, handed⟩
    have kind : Ipv6Packet.getNextheader packet = 0 ∨ Ipv6Packet.getNextheader packet = 60 := by
      rw [holds.nextHeader]
      rcases (holds.headers header (List.mem_cons_self ..)).kind with zero | sixty
      · exact .inl (congrArg UInt8.toBitVec zero)
      · exact .inr (congrArg UInt8.toBitVec sixty)
    rw [hands_nothing kind] at handed
    exact List.cons_ne_nil _ _ handed.symm

namespace Sample

/-- A UDP datagram without data from port 1 to port 2. -/
def udpDatagram : Bytes := [0, 1, 0, 2, 0, 8, 0, 0]

/-- A hop-by-hop header with a PadN option only. -/
def padded : ExtensionHeader := ⟨0, [.data 1 [0, 0, 0, 0]]⟩

end Sample

theorem padded_undelivered :
    Ipv6Packet.Holds (Sample.ipv6Packet 0 (encodeChain 17 Sample.udpDatagram [Sample.padded])) [Sample.padded] 17 Sample.udpDatagram ∧
      ∀ upper, ¬ Delivers upper (Sample.ipv6Packet 0 (encodeChain 17 Sample.udpDatagram [Sample.padded])) [Sample.padded] 17
        Sample.udpDatagram := by
  refine ⟨⟨by decide, fun header member => ?_, by decide, by decide, by decide, by decide⟩, fun upper => ?_⟩
  · rw [List.mem_singleton.mp member]
    exact ⟨by decide, by decide, by decide, by decide⟩
  · rintro ⟨fuel, -, handed⟩
    rw [hands_nothing (.inl (by decide))] at handed
    exact List.cons_ne_nil _ _ handed.symm

theorem delivers_iff_datagram :
    Delivers (fun _ => true) (Sample.ipv6Packet 17 Sample.udpDatagram) [] 17 Sample.udpDatagram :=
  (delivers_iff ⟨by decide, fun _ member => absurd member List.not_mem_nil, by decide, by decide, by decide, by decide⟩ _).mpr rfl

/-! ### The cursor of the parser -/

/-- The parser's cursor and the rest of its length move together. -/
theorem parseOptions_data {parsed : Parsed} (returned : (parseOptions fuel packet data remaining).result = some parsed)
    (accepted : parsed.accepted = true) : parsed.data = data + remaining := by
  induction fuel generalizing data remaining with
  | zero => simp [parseOptions, Traced.loop] at returned
  | succ fuel ih =>
    by_cases more : remaining = 0
    · subst more
      rw [parseOptions_fill, Traced.result_pure, Option.some.injEq] at returned
      rw [← returned, Nat.add_zero]
    rw [parseOptions_succ more, result_readByte_bind, result_readByte_bind] at returned
    split_ifs at returned with refused
    · rw [Traced.result_pure, Option.some.injEq] at returned
      rw [← returned] at accepted
      exact absurd accepted Bool.false_ne_true
    · rw [ih returned]
      omega

/-- `parseOptions`, as the receive advice calls it, accepts the header at a position, and its
cursor ends where the header ends. -/
def ParsesExactly (packet : Bytes) (payload : Nat) : Prop :=
  ∃ fuel, (parseOptions fuel packet (payload + 2) (extensionLengthAt packet payload)).result =
    some ⟨true, payload + extensionLengthAt packet payload⟩

/-- No header in any packet is parsed exactly: the advice passes the length of the whole
header with the address of its options, so the cursor of an accepting run ends two bytes
behind the header. -/
theorem parsesExactly_never (packet : Bytes) (payload : Nat) : ¬ ParsesExactly packet payload := by
  rintro ⟨fuel, returned⟩
  have ends := parseOptions_data returned rfl
  dsimp only at ends
  omega

/-- The header that the stack itself writes for the router alert of a multicast listener
message, in front of any payload: the parser takes the two bytes of the alert's value for an
option of length 0 and never returns. -/
theorem routerAlert_endless :
    Ipv6HopByHop.writeExtensionHeader ⟨true, 0⟩ (List.replicate 8 58) = (8, [58, 0, 5, 2, 0, 0, 1, 0]) ∧
      ∀ behind fuel, (parseOptions fuel ((Ipv6HopByHop.writeExtensionHeader ⟨true, 0⟩ (List.replicate 8 58)).2 ++ behind) 2
        (extensionLengthAt ((Ipv6HopByHop.writeExtensionHeader ⟨true, 0⟩ (List.replicate 8 58)).2 ++ behind) 0)).result = none := by
  have header : Ipv6HopByHop.writeExtensionHeader ⟨true, 0⟩ (List.replicate 8 58) = (8, [58, 0, 5, 2, 0, 0, 1, 0]) := by
    decide
  refine ⟨header, fun behind fuel => ?_⟩
  rw [header]
  cases fuel with
  | zero => rfl
  | succ fuel =>
    have size : extensionLengthAt ([58, 0, 5, 2, 0, 0, 1, 0] ++ behind) 0 = 8 := rfl
    have type : Bytes.byte ([58, 0, 5, 2, 0, 0, 1, 0] ++ behind) 2 = 5 := rfl
    have first : Bytes.byte ([58, 0, 5, 2, 0, 0, 1, 0] ++ behind) 3 = 2 := rfl
    have value : Bytes.byte ([58, 0, 5, 2, 0, 0, 1, 0] ++ behind) 4 = 0 := rfl
    rw [size, parseOptions_succ (by decide), result_readByte_bind, result_readByte_bind]
    dsimp only
    rw [type, first, if_neg (by decide)]
    exact parseOptions_stuck (by decide) ((congrArg parseOption value).trans (by decide)) rfl fuel

end IPStack
