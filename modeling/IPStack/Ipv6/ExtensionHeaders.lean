import IPStack.Ipv6.Packet
import Mathlib.Tactic.SplitIfs
import Mathlib.Data.BitVec

/-! The walk of `ipv6_demux` over extension headers: when it ends inside the packet. -/

namespace IPStack

open ExtensionHeaderOptions

variable {packet : Bytes} {len data remaining fuel : Nat} {ok : Bool} {number : BitVec 8} {upper : Ipv6Payload → Bool}

/-- A byte that is read lies in the packet, and a round that goes on leaves less payload. -/
def Ipv6Event.Inside (len : Nat) : Ipv6Event → Prop
  | .read position => position < len
  | .hands .. => True
  | .continues payloadLength payloadLength' => payloadLength' < payloadLength

@[simp] theorem result_readByte_bind {α : Type} (packet : Bytes) (position : Nat) (f : BitVec 8 → Ipv6Walk α) :
    (readByte packet position >>= f).result = (f (packet.byte position)).result := rfl

@[simp] theorem all_readByte_bind {α : Type} (packet : Bytes) (position : Nat) (f : BitVec 8 → Ipv6Walk α) :
    (readByte packet position >>= f).All (Ipv6Event.Inside len) ↔
      position < len ∧ (f (packet.byte position)).All (Ipv6Event.Inside len) := by
  rw [Traced.all_bind, readByte, Traced.all_emit]
  exact and_congr_right fun _ => ⟨fun later => later _ rfl, fun later a returned => Option.some.inj returned ▸ later⟩

/-! ### Options -/

/-- The options from a position on, as `parseOptions` takes them, lie in the packet, and
none that is skipped has the length 0. They fill the `remaining` bytes, or one of them is
refused or too long. -/
inductive OptionsClean (packet : Bytes) (len : Nat) : Nat → Nat → Bool → Prop
  | fill {data : Nat} : OptionsClean packet len data 0 true
  | refuse {data remaining : Nat} : remaining ≠ 0 → data + 1 < len →
      parseOption (packet.byte data) = false ∨ remaining < (packet.byte (data + 1)).toNat → OptionsClean packet len data remaining false
  | skip {data remaining : Nat} {ok : Bool} : remaining ≠ 0 → data + 1 < len → parseOption (packet.byte data) = true →
      (packet.byte (data + 1)).toNat ≠ 0 → (packet.byte (data + 1)).toNat ≤ remaining →
        OptionsClean packet len (data + (packet.byte (data + 1)).toNat) (remaining - (packet.byte (data + 1)).toNat) ok →
          OptionsClean packet len data remaining ok

theorem parseOptions_fill (packet : Bytes) (data fuel : Nat) :
    parseOptions (fuel + 1) packet data 0 = pure ⟨true, data⟩ := rfl

/-- The bytes that every option is read from. -/
theorem parseOptions_succ (more : remaining ≠ 0) : parseOptions (fuel + 1) packet data remaining =
    readByte packet (data + 1) >>= fun _ => readByte packet data >>= fun _ =>
      if parseOption (packet.byte data) = false ∨ remaining < (packet.byte (data + 1)).toNat then pure ⟨false, data⟩
      else parseOptions fuel packet (data + (packet.byte (data + 1)).toNat) (remaining - (packet.byte (data + 1)).toNat) := by
  unfold parseOptions
  rw [Traced.loop_succ, parseRound, if_neg more]
  simp only [bind_assoc, readByte]
  rw [Traced.emit_bind]
  refine congrArg _ (funext fun _ => ?_)
  rw [Traced.emit_bind]
  refine congrArg _ (funext fun _ => ?_)
  by_cases known : parseOption (packet.byte data) = true
  · by_cases fits : remaining < (packet.byte (data + 1)).toNat
    · simp [known, fits]
    · simp [known, fits]
  · simp [known]

theorem OptionsClean.all (clean : OptionsClean packet len data remaining ok) (fuel : Nat) :
    (parseOptions fuel packet data remaining).All (Ipv6Event.Inside len) := by
  induction clean generalizing fuel with
  | fill =>
    cases fuel with
    | zero => exact Traced.all_running
    | succ fuel => exact Traced.all_pure _
  | refuse more inside refused =>
    cases fuel with
    | zero => exact Traced.all_running
    | succ fuel =>
      rw [parseOptions_succ more, all_readByte_bind, all_readByte_bind, if_pos refused]
      exact ⟨inside, by omega, Traced.all_pure _⟩
  | skip more inside known nonzero fits _ ih =>
    cases fuel with
    | zero => exact Traced.all_running
    | succ fuel =>
      rw [parseOptions_succ more, all_readByte_bind, all_readByte_bind, if_neg (by simp [known]; omega)]
      exact ⟨inside, by omega, ih fuel⟩

theorem OptionsClean.returns (clean : OptionsClean packet len data remaining ok) (enough : remaining < fuel) :
    ∃ parsed, (parseOptions fuel packet data remaining).result = some parsed ∧ parsed.accepted = ok := by
  induction clean generalizing fuel with
  | fill =>
    obtain ⟨rest, rfl⟩ := Nat.exists_eq_succ_of_ne_zero (by omega : fuel ≠ 0)
    exact ⟨_, rfl, rfl⟩
  | refuse more inside refused =>
    obtain ⟨rest, rfl⟩ := Nat.exists_eq_succ_of_ne_zero (by omega : fuel ≠ 0)
    rw [parseOptions_succ more, result_readByte_bind, result_readByte_bind, if_pos refused]
    exact ⟨_, rfl, rfl⟩
  | skip more inside known nonzero fits _ ih =>
    obtain ⟨rest, rfl⟩ := Nat.exists_eq_succ_of_ne_zero (by omega : fuel ≠ 0)
    rw [parseOptions_succ more, result_readByte_bind, result_readByte_bind, if_neg (by simp [known]; omega)]
    exact ih (by omega)

theorem OptionsClean.accepted_eq (clean : OptionsClean packet len data remaining ok) {parsed : Parsed}
    (returned : (parseOptions fuel packet data remaining).result = some parsed) : parsed.accepted = ok := by
  induction clean generalizing fuel with
  | fill =>
    cases fuel with
    | zero => simp [parseOptions, Traced.loop] at returned
    | succ fuel =>
      rw [parseOptions_fill, Traced.result_pure, Option.some.injEq] at returned
      rw [← returned]
  | refuse more inside refused =>
    cases fuel with
    | zero => simp [parseOptions, Traced.loop] at returned
    | succ fuel =>
      rw [parseOptions_succ more, result_readByte_bind, result_readByte_bind, if_pos refused, Traced.result_pure,
        Option.some.injEq] at returned
      rw [← returned]
  | skip more inside known nonzero fits _ ih =>
    cases fuel with
    | zero => simp [parseOptions, Traced.loop] at returned
    | succ fuel =>
      rw [parseOptions_succ more, result_readByte_bind, result_readByte_bind, if_neg (by simp [known]; omega)] at returned
      exact ih returned

/-- A run of `parseOptions` that returns and stays in the packet met clean options only. A
skipped option of length 0 leaves the state as it is. -/
theorem OptionsClean.of_returns {parsed : Parsed} (returned : (parseOptions fuel packet data remaining).result = some parsed)
    (inside : (parseOptions fuel packet data remaining).All (Ipv6Event.Inside len)) :
    OptionsClean packet len data remaining parsed.accepted := by
  induction fuel generalizing data remaining with
  | zero => simp [parseOptions, Traced.loop] at returned
  | succ fuel ih =>
    by_cases more : remaining = 0
    · subst more
      rw [parseOptions_fill, Traced.result_pure, Option.some.injEq] at returned
      rw [← returned]
      exact .fill
    rw [parseOptions_succ more, result_readByte_bind, result_readByte_bind] at returned
    rw [parseOptions_succ more, all_readByte_bind, all_readByte_bind] at inside
    by_cases refused : parseOption (packet.byte data) = false ∨ remaining < (packet.byte (data + 1)).toNat
    · rw [if_pos refused, Traced.result_pure, Option.some.injEq] at returned
      rw [← returned]
      exact .refuse more inside.1 refused
    · rw [if_neg refused] at returned inside
      have later := ih returned inside.2.2
      rw [not_or, Bool.not_eq_false, not_lt] at refused
      by_cases zero : (packet.byte (data + 1)).toNat = 0
      · rw [zero] at later
        exact later
      · exact .skip more inside.1 refused.1 zero refused.2 later

/-- A skipped option of length 0 is read again and again. -/
theorem parseOptions_stuck (more : remaining ≠ 0) (known : parseOption (packet.byte data) = true)
    (zero : packet.byte (data + 1) = 0) (fuel : Nat) : (parseOptions fuel packet data remaining).result = none := by
  induction fuel with
  | zero => rfl
  | succ fuel ih =>
    rw [parseOptions_succ more, result_readByte_bind, result_readByte_bind, if_neg (by simp [known, zero]), zero]
    exact ih

/-! ### Headers -/

/-- The size of the extension header at a position. -/
def extensionLengthAt (packet : Bytes) (payload : Nat) : Nat := extensionLengthInBytes (packet.byte (payload + 1))

/-- The extension headers from a position on, taken as headers of one kind, lie in the
packet with clean options. They fill the rest of the payload, or the options of one of
them are refused. -/
inductive HeadersClean (packet : Bytes) (len : Nat) : Nat → Nat → Prop
  | refuse {payload length : Nat} : payload + 1 < len →
      OptionsClean packet len (payload + 2) (extensionLengthAt packet payload) false → HeadersClean packet len payload length
  | fill {payload length : Nat} : payload + 1 < len →
      OptionsClean packet len (payload + 2) (extensionLengthAt packet payload) true →
        extensionLengthAt packet payload = length → HeadersClean packet len payload length
  | next {payload length : Nat} : payload + 1 < len →
      OptionsClean packet len (payload + 2) (extensionLengthAt packet payload) true →
        extensionLengthAt packet payload < length →
          HeadersClean packet len (payload + extensionLengthAt packet payload) (length - extensionLengthAt packet payload) →
            HeadersClean packet len payload length

theorem extensionLengthAt_pos (packet : Bytes) (payload : Nat) : 0 < extensionLengthAt packet payload := by
  unfold extensionLengthAt extensionLengthInBytes
  omega

theorem extensionLengthAt_le (packet : Bytes) (payload : Nat) : extensionLengthAt packet payload ≤ 2048 := by
  have := (packet.byte (payload + 1)).isLt
  unfold extensionLengthAt extensionLengthInBytes
  omega

theorem sub_ne_self (length : BitVec 32) (packet : Bytes) (payload : Nat) :
    length - BitVec.ofNat 32 (extensionLengthAt packet payload) ≠ length := by
  have := extensionLengthAt_pos packet payload
  have := extensionLengthAt_le packet payload
  intro same
  have := congrArg BitVec.toNat same
  rw [BitVec.toNat_sub, BitVec.toNat_ofNat] at this
  have := length.isLt
  omega

/-- One round over an extension header. -/
theorem demuxRound_extension {p : Ipv6Payload} (kind : p.nextHeader = 0 ∨ p.nextHeader = 60) :
    demuxRound upper fuel packet (p, p.payloadLength) = readByte packet (p.payload + 1) >>= fun _ =>
      parseOptions fuel packet (p.payload + 2) (extensionLengthAt packet p.payload) >>= fun parsed =>
        let length := p.payloadLength - BitVec.ofNat 32 (extensionLengthAt packet p.payload)
        if parsed.accepted = false then pure (.inr true)
        else if length = 0 then pure (.inr true)
        else Traced.emit (.continues p.payloadLength length)
          (.inl ({ p with payload := p.payload + extensionLengthAt packet p.payload, payloadLength := length }, length)) := by
  have differs := sub_ne_self p.payloadLength packet p.payload
  have received : ∀ number, p.nextHeader = number → receiveExtension number fuel packet p =
      readByte packet (p.payload + 1) >>= fun _ =>
        parseOptions fuel packet (p.payload + 2) (extensionLengthAt packet p.payload) >>= fun parsed =>
          if parsed.accepted = false then pure (p, true)
          else pure ({ p with
            payload := p.payload + extensionLengthAt packet p.payload
            payloadLength := p.payloadLength - BitVec.ofNat 32 (extensionLengthAt packet p.payload) }, false) := by
    intro number is
    rw [receiveExtension, if_pos is, readByte, Traced.emit_bind]
    simp only [extensionLengthAt, Bool.not_eq_true']
  unfold demuxRound ipv6PayloadDemux receiveHopByHop receiveDestination
  rcases kind with is | is
  · rw [received 0 is]
    simp only [bind_assoc]
    refine congrArg _ (funext fun _ => congrArg _ (funext fun parsed => ?_))
    cases parsed.accepted
    · simp
    · simp [receiveExtension, is, upperLayers, differs]
  · have passed : receiveExtension 0 fuel packet p = pure (p, false) := if_neg (by simp [is])
    dsimp only
    rw [passed]
    simp only [pure_bind, received 60 is, bind_assoc, Bool.false_eq_true, if_false]
    refine congrArg _ (funext fun _ => congrArg _ (funext fun parsed => ?_))
    cases parsed.accepted
    · simp
    · simp [is, upperLayers, differs]

theorem toNat_rest {length : BitVec 32} {payload : Nat} (fits : extensionLengthAt packet payload ≤ length.toNat) :
    (length - BitVec.ofNat 32 (extensionLengthAt packet payload)).toNat = length.toNat - extensionLengthAt packet payload := by
  have := extensionLengthAt_le packet payload
  have value : (BitVec.ofNat 32 (extensionLengthAt packet payload)).toNat = extensionLengthAt packet payload := by
    rw [BitVec.toNat_ofNat, Nat.mod_eq_of_lt (by omega)]
  rw [BitVec.toNat_sub_of_le (by rw [BitVec.le_def, value]; exact fits), value]

/-- A header that is longer than the remaining payload makes the length wrap around. -/
theorem fits_of_rest_lt {length : BitVec 32} {payload : Nat}
    (less : length - BitVec.ofNat 32 (extensionLengthAt packet payload) < length) :
    extensionLengthAt packet payload < length.toNat ∨ length - BitVec.ofNat 32 (extensionLengthAt packet payload) = 0 := by
  have bound := extensionLengthAt_le packet payload
  have small := length.isLt
  rw [BitVec.lt_def, BitVec.toNat_sub, BitVec.toNat_ofNat] at less
  by_cases fits : extensionLengthAt packet payload < length.toNat
  · exact .inl fits
  · right
    apply BitVec.eq_of_toNat_eq
    rw [BitVec.toNat_sub, BitVec.toNat_ofNat]
    simp only [BitVec.ofNat_eq_ofNat, BitVec.toNat_ofNat, Nat.zero_mod]
    omega

variable {p : Ipv6Payload} {payload length rounds : Nat}

/-- The loop over the headers from a state on. -/
def headers (upper : Ipv6Payload → Bool) (fuel : Nat) (packet : Bytes) (rounds : Nat) (p : Ipv6Payload) : Ipv6Walk Bool :=
  Traced.loop (demuxRound upper fuel packet) rounds (p, p.payloadLength)

/-- The state behind the extension header at the start of the payload. -/
def Ipv6Payload.next (packet : Bytes) (p : Ipv6Payload) : Ipv6Payload :=
  { p with
    payload := p.payload + extensionLengthAt packet p.payload
    payloadLength := p.payloadLength - BitVec.ofNat 32 (extensionLengthAt packet p.payload) }

theorem headers_succ (kind : p.nextHeader = 0 ∨ p.nextHeader = 60) : headers upper fuel packet (rounds + 1) p =
    readByte packet (p.payload + 1) >>= fun _ =>
      parseOptions fuel packet (p.payload + 2) (extensionLengthAt packet p.payload) >>= fun parsed =>
        if parsed.accepted = false then pure true
        else if (p.next packet).payloadLength = 0 then pure true
        else Traced.emit (.continues p.payloadLength (p.next packet).payloadLength) () >>= fun _ =>
          headers upper fuel packet rounds (p.next packet) := by
  unfold headers
  rw [Traced.loop_succ, demuxRound_extension kind]
  simp only [bind_assoc]
  refine congrArg _ (funext fun _ => congrArg _ (funext fun parsed => ?_))
  cases parsed.accepted
  · rfl
  · simp only [Bool.true_eq_false, if_false]
    unfold Ipv6Payload.next
    dsimp only
    split_ifs
    · rfl
    · rfl

theorem HeadersClean.all (clean : HeadersClean packet len payload length) (kind : p.nextHeader = 0 ∨ p.nextHeader = 60)
    (at_ : p.payload = payload) (rest : p.payloadLength.toNat = length) (rounds : Nat) :
    (headers upper fuel packet rounds p).All (Ipv6Event.Inside len) := by
  induction clean generalizing p rounds with
  | refuse inside options =>
    subst at_
    cases rounds with
    | zero => exact Traced.all_running
    | succ rounds =>
      rw [headers_succ kind, all_readByte_bind, Traced.all_bind]
      refine ⟨inside, options.all fuel, fun parsed returned => ?_⟩
      rw [if_pos (options.accepted_eq returned)]
      exact Traced.all_pure _
  | fill inside options equal =>
    subst at_ rest
    cases rounds with
    | zero => exact Traced.all_running
    | succ rounds =>
      rw [headers_succ kind, all_readByte_bind, Traced.all_bind]
      refine ⟨inside, options.all fuel, fun parsed returned => ?_⟩
      have zero : (p.next packet).payloadLength = 0 :=
        BitVec.eq_of_toNat_eq ((toNat_rest equal.le).trans (by rw [equal, Nat.sub_self]; rfl))
      rw [if_neg (by rw [options.accepted_eq returned]; decide), if_pos zero]
      exact Traced.all_pure _
  | next inside options less _ ih =>
    subst at_ rest
    cases rounds with
    | zero => exact Traced.all_running
    | succ rounds =>
      rw [headers_succ kind, all_readByte_bind, Traced.all_bind]
      refine ⟨inside, options.all fuel, fun parsed returned => ?_⟩
      have left : (p.next packet).payloadLength.toNat = p.payloadLength.toNat - extensionLengthAt packet p.payload :=
        toNat_rest less.le
      have positive := extensionLengthAt_pos packet p.payload
      rw [if_neg (by rw [options.accepted_eq returned]; decide),
        if_neg (by intro zero; rw [zero] at left; simp at left; omega), Traced.all_bind, Traced.all_emit]
      refine ⟨?_, fun _ _ => ih (p := p.next packet) kind rfl left rounds⟩
      rw [Ipv6Event.Inside, BitVec.lt_def, left]
      omega

theorem HeadersClean.returns (clean : HeadersClean packet len payload length) (kind : p.nextHeader = 0 ∨ p.nextHeader = 60)
    (at_ : p.payload = payload) (rest : p.payloadLength.toNat = length) (enough : 2048 < fuel) (many : length < rounds) :
    (headers upper fuel packet rounds p).result.isSome := by
  induction clean generalizing p rounds with
  | refuse inside options =>
    subst at_
    obtain ⟨rounds, rfl⟩ := Nat.exists_eq_succ_of_ne_zero (by omega : rounds ≠ 0)
    have size := extensionLengthAt_le packet p.payload
    obtain ⟨parsed, returned, accepted⟩ := options.returns (by omega : _ < fuel)
    rw [Nat.succ_eq_add_one, headers_succ kind, result_readByte_bind, Traced.result_bind, returned, Option.bind_some, if_pos accepted]
    rfl
  | fill inside options equal =>
    subst at_ rest
    obtain ⟨rounds, rfl⟩ := Nat.exists_eq_succ_of_ne_zero (by omega : rounds ≠ 0)
    have size := extensionLengthAt_le packet p.payload
    obtain ⟨parsed, returned, accepted⟩ := options.returns (by omega : _ < fuel)
    have zero : (p.next packet).payloadLength = 0 :=
      BitVec.eq_of_toNat_eq ((toNat_rest equal.le).trans (by rw [equal, Nat.sub_self]; rfl))
    rw [Nat.succ_eq_add_one, headers_succ kind, result_readByte_bind, Traced.result_bind, returned, Option.bind_some,
      if_neg (by rw [accepted]; decide), if_pos zero]
    rfl
  | next inside options less _ ih =>
    subst at_ rest
    obtain ⟨rounds, rfl⟩ := Nat.exists_eq_succ_of_ne_zero (by omega : rounds ≠ 0)
    have size := extensionLengthAt_le packet p.payload
    have positive := extensionLengthAt_pos packet p.payload
    obtain ⟨parsed, returned, accepted⟩ := options.returns (by omega : _ < fuel)
    have left : (p.next packet).payloadLength.toNat = p.payloadLength.toNat - extensionLengthAt packet p.payload :=
      toNat_rest less.le
    rw [Nat.succ_eq_add_one, headers_succ kind, result_readByte_bind, Traced.result_bind, returned, Option.bind_some,
      if_neg (by rw [accepted]; decide), if_neg (by intro zero; rw [zero] at left; simp at left; omega)]
    exact ih (p := p.next packet) kind rfl left (by omega)

theorem HeadersClean.of_returns (kind : p.nextHeader = 0 ∨ p.nextHeader = 60)
    (returned : (headers upper fuel packet rounds p).result.isSome)
    (inside : (headers upper fuel packet rounds p).All (Ipv6Event.Inside len)) :
    HeadersClean packet len p.payload p.payloadLength.toNat := by
  induction rounds generalizing p with
  | zero => simp [headers, Traced.loop] at returned
  | succ rounds ih =>
    rw [headers_succ kind, result_readByte_bind, Traced.result_bind] at returned
    rw [headers_succ kind, all_readByte_bind, Traced.all_bind] at inside
    obtain ⟨first, parsing, later⟩ := inside
    cases result : (parseOptions fuel packet (p.payload + 2) (extensionLengthAt packet p.payload)).result with
    | none => simp [result] at returned
    | some parsed =>
      have options := OptionsClean.of_returns result parsing
      have rest := later parsed result
      rw [result, Option.bind_some] at returned
      cases accepted : parsed.accepted with
      | false => exact .refuse first (accepted ▸ options)
      | true =>
        rw [accepted] at options returned rest
        by_cases zero : (p.next packet).payloadLength = 0
        · have bound := extensionLengthAt_le packet p.payload
          have same := congrArg BitVec.toNat (sub_eq_zero.mp zero)
          rw [BitVec.toNat_ofNat, Nat.mod_eq_of_lt (by omega)] at same
          exact .fill first options same.symm
        · rw [if_neg (by decide), if_neg zero, Traced.all_bind, Traced.all_emit] at rest
          rw [if_neg (by decide), if_neg zero] at returned
          have less := (fits_of_rest_lt rest.1).resolve_right zero
          refine .next first options less ?_
          rw [← toNat_rest less.le]
          exact ih (p := p.next packet) kind returned (rest.2 () rfl)

/-! ### The whole walk -/

/-- The state in which the walk starts. -/
def Ipv6Payload.start (packet : Bytes) : Ipv6Payload where
  payload := Ipv6Packet.headerSizeInBytes
  payloadLength := (Ipv6Packet.getPayloadLen packet).setWidth 32
  nextHeader := Ipv6Packet.getNextheader packet

theorem ipv6Demux_eq (upper : Ipv6Payload → Bool) (fuel : Nat) (packet : Bytes) : ipv6Demux upper fuel packet =
    readByte packet 4 >>= fun _ => readByte packet 5 >>= fun _ => readByte packet 6 >>= fun _ =>
      headers upper fuel packet fuel (.start packet) := rfl

/-- Without an extension header the loop makes one round. -/
theorem headers_upper (upper : Ipv6Payload → Bool) (packet : Bytes) (fuel rounds : Nat)
    (other : p.nextHeader ≠ 0 ∧ p.nextHeader ≠ 60) (nonempty : p.payloadLength ≠ 0) :
    ∃ r, headers upper fuel packet (rounds + 1) p =
      if p.nextHeader ∈ upperLayers then Traced.emit (.hands p.nextHeader p.payload p.payloadLength) r else pure r := by
  have hopByHop : receiveHopByHop fuel packet p = pure (p, false) := if_neg other.1
  have destination : receiveDestination fuel packet p = pure (p, false) := if_neg other.2
  unfold headers
  rw [Traced.loop_succ, demuxRound, ipv6PayloadDemux]
  dsimp only
  rw [hopByHop]
  simp only [pure_bind, destination, Bool.false_eq_true, if_false]
  by_cases layer : p.nextHeader ∈ upperLayers
  · refine ⟨upper p, ?_⟩
    simp only [if_pos layer, bind_assoc]
    rw [Traced.emit_bind]
    dsimp only
    cases upper p
    · rw [if_neg Bool.false_ne_true, if_neg nonempty, if_pos rfl]
      rfl
    · rfl
  · refine ⟨p.nextHeader = 59, ?_⟩
    simp only [if_neg layer, pure_bind, decide_eq_true_eq]
    by_cases last : p.nextHeader = 59
    · rw [if_pos last, decide_eq_true last]
      rfl
    · rw [if_neg last, if_neg nonempty, if_pos trivial, decide_eq_false last]
      rfl

/-- The walk ends, and on the way it reads the packet only and goes on with less payload
each time. -/
def WalksInside (upper : Ipv6Payload → Bool) (packet : Bytes) (len : Nat) : Prop :=
  (∃ fuel, (ipv6Demux upper fuel packet).result.isSome) ∧ ∀ fuel, (ipv6Demux upper fuel packet).All (Ipv6Event.Inside len)

theorem all_ipv6Demux (accepted : Ipv6Packet.validPacketLength packet len ≠ 0) :
    (ipv6Demux upper fuel packet).All (Ipv6Event.Inside len) ↔
      (headers upper fuel packet fuel (.start packet)).All (Ipv6Event.Inside len) := by
  have long : 40 ≤ len := by
    by_contra short
    exact accepted (if_pos (not_le.mp short))
  rw [ipv6Demux_eq, all_readByte_bind, all_readByte_bind, all_readByte_bind]
  exact ⟨fun all => all.2.2.2, fun all => ⟨by omega, by omega, by omega, all⟩⟩

theorem result_ipv6Demux (upper : Ipv6Payload → Bool) (fuel : Nat) (packet : Bytes) :
    (ipv6Demux upper fuel packet).result = (headers upper fuel packet fuel (.start packet)).result := rfl

theorem payloadLength_start_ne_zero (accepted : Ipv6Packet.validPacketLength packet len ≠ 0) :
    (Ipv6Payload.start packet).payloadLength ≠ 0 := by
  intro zero
  have length : (Ipv6Payload.start packet).payloadLength.toNat = (Ipv6Packet.getPayloadLen packet).toNat :=
    BitVec.toNat_setWidth_of_le (by decide)
  rw [zero] at length
  apply accepted
  unfold Ipv6Packet.validPacketLength
  split_ifs
  · rfl
  · rfl
  · exact length.symm

/-- For every packet of a valid length: the walk stays inside and ends exactly when the
packet has no extension header or the headers, all taken as headers of the first one's
kind, are clean. -/
theorem walksInside_iff (upper : Ipv6Payload → Bool) (accepted : Ipv6Packet.validPacketLength packet len ≠ 0) :
    WalksInside upper packet len ↔
      (Ipv6Packet.getNextheader packet ≠ 0 ∧ Ipv6Packet.getNextheader packet ≠ 60) ∨
        HeadersClean packet len Ipv6Packet.headerSizeInBytes (Ipv6Packet.getPayloadLen packet).toNat := by
  have length : (Ipv6Payload.start packet).payloadLength.toNat = (Ipv6Packet.getPayloadLen packet).toNat :=
    BitVec.toNat_setWidth_of_le (by decide)
  by_cases kind : Ipv6Packet.getNextheader packet = 0 ∨ Ipv6Packet.getNextheader packet = 60
  · rw [← length]
    constructor
    · rintro ⟨⟨fuel, returned⟩, inside⟩
      exact .inr (HeadersClean.of_returns (p := .start packet) kind returned ((all_ipv6Demux accepted).mp (inside fuel)))
    · rintro (other | clean)
      · exact absurd kind (not_or.mpr other)
      · have bound := (Ipv6Packet.getPayloadLen packet).isLt
        refine ⟨⟨2 ^ 16 + 1, clean.returns kind rfl rfl (by norm_num) (by omega)⟩, fun fuel => ?_⟩
        exact (all_ipv6Demux accepted).mpr (clean.all kind rfl rfl fuel)
  · refine iff_of_true ?_ (.inl (not_or.mp kind))
    have nonempty := payloadLength_start_ne_zero accepted
    refine ⟨⟨1, ?_⟩, fun fuel => (all_ipv6Demux accepted).mpr ?_⟩
    · obtain ⟨r, round⟩ := headers_upper (p := .start packet) upper packet 1 0 (not_or.mp kind) nonempty
      rw [result_ipv6Demux, round]
      split_ifs
      · rfl
      · rfl
    · cases fuel with
      | zero => exact Traced.all_running
      | succ fuel =>
        obtain ⟨r, round⟩ := headers_upper (p := .start packet) upper packet (fuel + 1) fuel (not_or.mp kind)
          nonempty
        rw [round]
        split_ifs
        · exact Traced.all_emit.mpr trivial
        · exact Traced.all_pure _

/-! ### What the upper layers get -/

/-- A payload that is handed to an upper layer is the one behind the IPv6 header. -/
def Ipv6Event.HandsStart (packet : Bytes) : Ipv6Event → Prop
  | .hands nextHeader payload payloadLength => ⟨payload, payloadLength, nextHeader⟩ = Ipv6Payload.start packet
  | _ => True

theorem all_handsStart_readByte {α : Type} (position : Nat) (f : BitVec 8 → Ipv6Walk α) :
    (readByte packet position >>= f).All (Ipv6Event.HandsStart packet) ↔
      (f (packet.byte position)).All (Ipv6Event.HandsStart packet) := by
  rw [Traced.all_bind, readByte, Traced.all_emit]
  exact (and_iff_right trivial).trans
    ⟨fun later => later _ rfl, fun later a returned => Option.some.inj returned ▸ later⟩

theorem handsStart_parseOptions : (parseOptions fuel packet data remaining).All (Ipv6Event.HandsStart packet) := by
  induction fuel generalizing data remaining with
  | zero => exact Traced.all_running
  | succ fuel ih =>
    by_cases more : remaining = 0
    · subst more
      exact Traced.all_pure _
    rw [parseOptions_succ more, all_handsStart_readByte, all_handsStart_readByte]
    split_ifs
    · exact Traced.all_pure _
    · exact ih

/-- Behind an extension header the walk looks for another one of the same kind. -/
theorem handsStart_headers (kind : p.nextHeader = 0 ∨ p.nextHeader = 60) :
    (headers upper fuel packet rounds p).All (Ipv6Event.HandsStart packet) := by
  induction rounds generalizing p with
  | zero => exact Traced.all_running
  | succ rounds ih =>
    rw [headers_succ kind, all_handsStart_readByte, Traced.all_bind]
    refine ⟨handsStart_parseOptions, fun parsed _ => ?_⟩
    split_ifs
    · exact Traced.all_pure _
    · exact Traced.all_pure _
    · rw [Traced.all_bind, Traced.all_emit]
      exact ⟨trivial, fun _ _ => ih kind⟩

theorem handsStart_ipv6Demux (accepted : Ipv6Packet.validPacketLength packet len ≠ 0) :
    (ipv6Demux upper fuel packet).All (Ipv6Event.HandsStart packet) := by
  rw [ipv6Demux_eq, all_handsStart_readByte, all_handsStart_readByte, all_handsStart_readByte]
  cases fuel with
  | zero => exact Traced.all_running
  | succ fuel =>
    by_cases kind : (Ipv6Payload.start packet).nextHeader = 0 ∨ (Ipv6Payload.start packet).nextHeader = 60
    · exact handsStart_headers kind
    · obtain ⟨r, round⟩ := headers_upper (p := .start packet) upper packet (fuel + 1) fuel (not_or.mp kind)
        (payloadLength_start_ne_zero accepted)
      rw [round]
      split_ifs
      · exact Traced.all_emit.mpr rfl
      · exact Traced.all_pure _

/-! ### Two packets -/

namespace Sample

/-- An IPv6 packet between unspecified addresses. -/
def ipv6Packet (nextHeader : UInt8) (payload : Bytes) : Bytes :=
  [0x60, 0, 0, 0, .ofNat (payload.length / 256), .ofNat payload.length, nextHeader, 255] ++ List.replicate 32 0 ++ payload

/-- A hop-by-hop header whose first option is a PadN without data. -/
def shortPadding : Bytes := ipv6Packet 0 [58, 0, 1, 0, 1, 2, 0, 0]

end Sample

/-- The walk over a packet with an empty PadN option never ends. -/
theorem shortPadding_endless : Ipv6Packet.validPacketLength Sample.shortPadding 48 ≠ 0 ∧
    (∀ upper fuel, (ipv6Demux upper fuel Sample.shortPadding).result = none) ∧
      ∀ upper, ¬ WalksInside upper Sample.shortPadding 48 := by
  have endless : ∀ upper fuel, (ipv6Demux upper fuel Sample.shortPadding).result = none := by
    intro upper fuel
    rw [result_ipv6Demux]
    cases fuel with
    | zero => rfl
    | succ fuel =>
      rw [headers_succ (.inl (by decide)), result_readByte_bind, Traced.result_bind,
        parseOptions_stuck (by decide) (by decide) (by decide), Option.bind_none]
  refine ⟨by decide, endless, fun upper inside => ?_⟩
  obtain ⟨fuel, returned⟩ := inside.1
  rw [endless] at returned
  exact absurd returned (by decide)

/-- A hop-by-hop header with one option whose length byte is that of the header. -/
theorem walksInside_iff_fill : WalksInside (fun _ => true) (Sample.ipv6Packet 0 [58, 0, 1, 8, 0, 0, 0, 0]) 48 :=
  (walksInside_iff _ (by decide)).mpr
    (.inr (.fill (by decide) (.skip (by decide) (by decide) (by decide) (by decide) (by decide) .fill) (by decide)))

end IPStack
