import IPStack.Lib.Reach
import IPStack.Tcp.Slices

/-! The round-trip estimation and the retransmission timeout over samples and back-offs. -/

namespace IPStack

open Transition

namespace RttEstimation

variable {t : RttEstimation} {msec : BitVec 32}

/-- What `update_RTT_Estimation` does with a measured time. -/
def sample (t : RttEstimation) (msec : BitVec 32) : RttEstimation :=
  let t := t.updateSrtt msec
  { t with rto := if t.rto < lowerRtoBound then lowerRtoBound else t.rto, rrtActive := false }

theorem update_eq_sample (c : Config) (t : RttEstimation) (acknum : SeqNum) (now : BitVec 64) : t.update c acknum now =
    if t.rrtActive ∧ seqLt t.rttSeqnum acknum then t.sample (c.clock.ticksToMs (now - t.rrtTime) &&& 0x7FFFFFFF) else t := rfl

/-! ### Samples -/

/-- No operation of `update_SRTT` leaves the signed 32-bit numbers. -/
def Exact (t : RttEstimation) (msec : BitVec 32) : Prop :=
  if t.srtt = 0 then
    ¬msec.smulOverflow 8 ∧ ¬msec.smulOverflow 2 ∧ ¬(msec <<< 1).smulOverflow 2 ∧ ¬msec.saddOverflow ((msec <<< 1) <<< 1)
  else
    let error := msec - t.srtt.sshiftRight 3
    let deviation := if error.slt 0 then -error else error
    ¬msec.ssubOverflow (t.srtt.sshiftRight 3) ∧ ¬t.srtt.saddOverflow error ∧ ¬error.negOverflow ∧
      ¬deviation.ssubOverflow (t.rttVar.sshiftRight 2) ∧ ¬t.rttVar.saddOverflow (deviation - t.rttVar.sshiftRight 2) ∧
      ¬((t.srtt + error).sshiftRight 3).saddOverflow (t.rttVar + (deviation - t.rttVar.sshiftRight 2))

/-- The bounds of the estimation for round trips of at most `M` milliseconds. -/
structure Within (M : Nat) (t : RttEstimation) : Prop where
  srtt : 0 ≤ t.srtt.toInt ∧ t.srtt.toInt ≤ 8 * M
  rttVar : 0 ≤ t.rttVar.toInt ∧ t.rttVar.toInt ≤ 4 * M
  rto : 200 ≤ t.rto.toNat ∧ t.rto.toNat ≤ max 200 (5 * M)

def Smooths (M : Nat) (t : RttEstimation) (msec : BitVec 32) : Prop := t.Exact msec ∧ (t.sample msec).Within M

/-- The bounds before a sample; the variation counts from the first one on. -/
structure Ready (M : Nat) (t : RttEstimation) : Prop where
  srtt : 0 ≤ t.srtt.toInt ∧ t.srtt.toInt ≤ 8 * M
  rttVar : t.srtt ≠ 0 → 0 ≤ t.rttVar.toInt ∧ t.rttVar.toInt ≤ 4 * M

theorem not_saddOverflow {a b : BitVec 32} (fits : -2 ^ 31 ≤ a.toInt + b.toInt ∧ a.toInt + b.toInt < 2 ^ 31) :
    ¬a.saddOverflow b ∧ (a + b).toInt = a.toInt + b.toInt := by
  have exact : ¬a.saddOverflow b := by
    simp only [BitVec.saddOverflow, Bool.or_eq_true, decide_eq_true_eq]
    omega
  exact ⟨exact, BitVec.toInt_add_of_not_saddOverflow exact⟩

theorem not_ssubOverflow {a b : BitVec 32} (fits : -2 ^ 31 ≤ a.toInt - b.toInt ∧ a.toInt - b.toInt < 2 ^ 31) :
    ¬a.ssubOverflow b ∧ (a - b).toInt = a.toInt - b.toInt := by
  have exact : ¬a.ssubOverflow b := by
    simp only [BitVec.ssubOverflow, Bool.or_eq_true, decide_eq_true_eq]
    omega
  exact ⟨exact, BitVec.toInt_sub_of_not_ssubOverflow exact⟩

theorem not_smulOverflow {a b : BitVec 32} (fits : -2 ^ 31 ≤ a.toInt * b.toInt ∧ a.toInt * b.toInt < 2 ^ 31) :
    ¬a.smulOverflow b ∧ (a * b).toInt = a.toInt * b.toInt := by
  have exact : ¬a.smulOverflow b := by
    simp only [BitVec.smulOverflow, Bool.or_eq_true, decide_eq_true_eq]
    omega
  exact ⟨exact, BitVec.toInt_mul_of_not_smulOverflow exact⟩

theorem deviation_toInt {e : BitVec 32} (least : -2 ^ 31 < e.toInt) :
    ¬e.negOverflow ∧ (if e.slt 0 then -e else e).toInt = e.toInt.natAbs := by
  have exact : ¬e.negOverflow := by
    simp only [BitVec.negOverflow, beq_iff_eq]
    omega
  refine ⟨exact, ?_⟩
  by_cases negative : e.toInt < 0
  · rw [if_pos (BitVec.slt_iff_toInt_lt.mpr negative), BitVec.toInt_neg_of_not_negOverflow exact]
    omega
  · rw [if_neg fun less => negative (BitVec.slt_iff_toInt_lt.mp less)]
    omega

theorem toInt_of_small {a : BitVec 32} (small : a.toNat < 2 ^ 31) : a.toInt = a.toNat :=
  BitVec.toInt_eq_toNat_of_lt (by omega)

theorem sshiftRight_toInt (a : BitVec 32) (n : Nat) : (a.sshiftRight n).toInt = a.toInt / 2 ^ n := by
  rw [BitVec.toInt_sshiftRight, Int.shiftRight_eq_div_pow, Int.natCast_pow]
  rfl

/-- A shift to the left is a product. -/
theorem shiftLeft_toInt {a : BitVec 32} {n : Nat} (small : n < 31) (fits : 0 ≤ a.toInt ∧ a.toInt * 2 ^ n < 2 ^ 31) :
    ¬a.smulOverflow (BitVec.ofNat 32 (2 ^ n)) ∧ (a <<< n).toInt = a.toInt * 2 ^ n := by
  have factor : (BitVec.ofNat 32 (2 ^ n)).toInt = 2 ^ n := by
    have power : 2 ^ n < 2 ^ 31 := Nat.pow_lt_pow_right (by omega) small
    have value : (BitVec.ofNat 32 (2 ^ n)).toNat = 2 ^ n := by
      rw [BitVec.toNat_ofNat]
      exact Nat.mod_eq_of_lt (by omega)
    rw [toInt_of_small (by omega), value, Int.natCast_pow]
    rfl
  have nonneg : 0 ≤ a.toInt * 2 ^ n := Int.mul_nonneg fits.1 (Int.le_of_lt (Int.pow_pos (by decide)))
  obtain ⟨exact, product⟩ := not_smulOverflow (a := a) (b := BitVec.ofNat 32 (2 ^ n)) (by rw [factor]; omega)
  have same : a <<< n = a * BitVec.ofNat 32 (2 ^ n) := by
    apply BitVec.eq_of_toNat_eq
    rw [BitVec.toNat_shiftLeft, BitVec.toNat_mul, BitVec.toNat_ofNat, Nat.shiftLeft_eq, Nat.mul_mod_mod]
  exact ⟨exact, by rw [same, product, factor]⟩

/-- The clamp of `update_RTT_Estimation`. -/
theorem sample_rto : (t.sample msec).rto.toNat = max 200 (t.updateSrtt msec).rto.toNat := by
  unfold sample
  dsimp only
  by_cases below : (t.updateSrtt msec).rto < lowerRtoBound
  · rw [if_pos below]
    exact (Nat.max_eq_left (Nat.le_of_lt below)).symm
  · rw [if_neg below]
    exact (Nat.max_eq_right (Nat.le_of_not_lt below)).symm

theorem within_of_updateSrtt {M : Nat} (srtt : 0 ≤ (t.updateSrtt msec).srtt.toInt ∧ (t.updateSrtt msec).srtt.toInt ≤ 8 * M)
    (rttVar : 0 ≤ (t.updateSrtt msec).rttVar.toInt ∧ (t.updateSrtt msec).rttVar.toInt ≤ 4 * M)
    (rto : 0 ≤ (t.updateSrtt msec).rto.toInt ∧ (t.updateSrtt msec).rto.toInt ≤ 5 * M) : (t.sample msec).Within M := by
  refine ⟨srtt, rttVar, ?_⟩
  have same := BitVec.toInt_eq_toNat_cond (t.updateSrtt msec).rto
  rw [sample_rto]
  split at same <;> omega

/-- The first sample, or one behind a smoothed time of zero. -/
theorem smooths_first {M : Nat} (small : 8 * M < 2 ^ 31) (first : t.srtt = 0) (within : msec.toNat ≤ M) : t.Smooths M msec := by
  have value : msec.toInt = msec.toNat := toInt_of_small (by omega)
  obtain ⟨exact3, shift3⟩ := shiftLeft_toInt (a := msec) (n := 3) (by omega) (by omega)
  obtain ⟨exact1, shift1⟩ := shiftLeft_toInt (a := msec) (n := 1) (by omega) (by omega)
  obtain ⟨exact2, shift2⟩ := shiftLeft_toInt (a := msec <<< 1) (n := 1) (by omega) (by omega)
  obtain ⟨exact4, sum⟩ := not_saddOverflow (a := msec) (b := (msec <<< 1) <<< 1) (by omega)
  constructor
  · unfold Exact
    rw [if_pos first]
    exact ⟨exact3, exact1, exact2, exact4⟩
  · have updated : t.updateSrtt msec =
        { t with srtt := msec <<< 3, rttVar := msec <<< 1, rto := msec + (msec <<< 1) <<< 1 } := if_pos first
    apply within_of_updateSrtt <;> rw [updated] <;> dsimp only <;> omega

/-- A later sample. -/
theorem smooths_later {M : Nat} (small : 8 * M < 2 ^ 31) (later : t.srtt ≠ 0) (ready : t.Ready M) (within : msec.toNat ≤ M) :
    t.Smooths M msec := by
  have value : msec.toInt = msec.toNat := toInt_of_small (by omega)
  obtain ⟨srtt0, srtt1⟩ := ready.srtt
  obtain ⟨rttVar0, rttVar1⟩ := ready.rttVar later
  have eighth := sshiftRight_toInt t.srtt 3
  have quarter := sshiftRight_toInt t.rttVar 2
  obtain ⟨exact1, error⟩ := not_ssubOverflow (a := msec) (b := t.srtt.sshiftRight 3) (by omega)
  obtain ⟨exact2, srtt⟩ := not_saddOverflow (a := t.srtt) (b := msec - t.srtt.sshiftRight 3) (by omega)
  obtain ⟨exact3, deviation⟩ := deviation_toInt (e := msec - t.srtt.sshiftRight 3) (by omega)
  have updated : t.updateSrtt msec = _ := if_neg later
  unfold Smooths Exact
  rw [if_neg later]
  dsimp only at updated ⊢
  generalize (if (msec - t.srtt.sshiftRight 3).slt 0 then -(msec - t.srtt.sshiftRight 3) else msec - t.srtt.sshiftRight 3) = d at *
  obtain ⟨exact4, change⟩ := not_ssubOverflow (a := d) (b := t.rttVar.sshiftRight 2) (by omega)
  obtain ⟨exact5, rttVar⟩ := not_saddOverflow (a := t.rttVar) (b := d - t.rttVar.sshiftRight 2) (by omega)
  have smoothed := sshiftRight_toInt (t.srtt + (msec - t.srtt.sshiftRight 3)) 3
  obtain ⟨exact6, rto⟩ := not_saddOverflow (a := (t.srtt + (msec - t.srtt.sshiftRight 3)).sshiftRight 3)
    (b := t.rttVar + (d - t.rttVar.sshiftRight 2)) (by omega)
  refine ⟨⟨exact1, exact2, exact3, exact4, exact5, exact6⟩, ?_⟩
  apply within_of_updateSrtt <;> rw [updated] <;> dsimp only <;> omega

theorem smooths_of_ready {M : Nat} (small : 8 * M < 2 ^ 31) (ready : t.Ready M) (within : msec.toNat ≤ M) :
    t.Smooths M msec ∧ (t.sample msec).Ready M := by
  have smooths : t.Smooths M msec := by
    by_cases first : t.srtt = 0
    · exact smooths_first small first within
    · exact smooths_later small first ready within
  exact ⟨smooths, smooths.2.srtt, fun _ => smooths.2.rttVar⟩

/-- Round trips of at most `M` milliseconds, from `rtt_init` on. -/
theorem smooths_run {M : Nat} (small : 8 * M < 2 ^ 31) (t : RttEstimation) {samples : List (BitVec 32)}
    (within : ∀ msec ∈ samples, msec.toNat ≤ M) : Follows sample (Smooths M) t.rttInit samples := by
  have start : t.rttInit.Ready M := ⟨⟨Int.le_refl 0, by change (0 : Int) ≤ 8 * M; omega⟩, fun later => absurd rfl later⟩
  have bounded : Follows sample (fun _ msec => msec.toNat ≤ M ∧ True) t.rttInit samples :=
    (Follows.of_forall (fun _ _ => trivial) _ _).and within
  exact (bounded.forall_prefix_and (fun t msec ready ok => smooths_of_ready small ready ok.1) start).1

/-- Three round trips of at most 100 ms. -/
theorem smooths_run_three : Follows sample (Smooths 100) (rttInit ⟨0, 0, false, 0, 0, 0⟩) [100, 0, 50] :=
  smooths_run (by decide) _ (by simp)

/-! ### Back-offs -/

end RttEstimation

inductive TimeoutEvent
  | sample (msec : BitVec 32)
  | backoff
deriving DecidableEq, Repr

namespace RttEstimation

variable {t : RttEstimation}

def step (t : RttEstimation) : TimeoutEvent → RttEstimation
  | .sample msec => t.sample msec
  | .backoff => t.backoff

/-- A back-off does not lower a timeout that is not above the bound, and ends at the bound. -/
def BacksOff (t : RttEstimation) : TimeoutEvent → Prop
  | .sample _ => True
  | .backoff => (t.rto ≤ upperRtoBound → t.rto ≤ t.backoff.rto) ∧ t.backoff.rto ≤ upperRtoBound

/-- Doubling does not pass the bound, or the bound is reached. -/
def doublesBelow (t : RttEstimation) : TimeoutEvent → Prop
  | .sample _ => True
  | .backoff => t.rto ≤ 32000 ∨ upperRtoBound ≤ t.rto

theorem backoff_rto : t.backoff.rto.toNat = if t.rto.toNat < 64000 then 2 * t.rto.toNat else 64000 := by
  unfold backoff
  by_cases below : t.rto < upperRtoBound
  · have less : t.rto.toNat < 64000 := below
    rw [if_pos less]
    simp only [if_pos below, BitVec.toNat_shiftLeft, Nat.shiftLeft_eq]
    omega
  · rw [if_neg (show ¬t.rto.toNat < 64000 from below)]
    simp only [if_neg below]
    rfl

theorem step_rto (above : 200 ≤ t.rto.toNat) (event : TimeoutEvent) : 200 ≤ (t.step event).rto.toNat := by
  cases event with
  | sample msec =>
    rw [step, sample_rto]
    exact Nat.le_max_left ..
  | backoff =>
    rw [step, backoff_rto]
    split <;> omega

theorem backsOff_iff (event : TimeoutEvent) : t.BacksOff event ↔ t.doublesBelow event := by
  cases event with
  | sample msec => exact Iff.rfl
  | backoff =>
    have next := backoff_rto (t := t)
    have upper : upperRtoBound.toNat = 64000 := rfl
    have half : (32000 : BitVec 32).toNat = 32000 := rfl
    simp only [BacksOff, doublesBelow, BitVec.le_def]
    split at next <;> omega

/-- From `rtt_init` on the timeout never falls below its lower bound; and every back-off keeps to
the upper one if and only if none of them doubles a timeout between half the bound and the bound. -/
theorem backsOff_run_iff (t : RttEstimation) (events : List TimeoutEvent) :
    Follows step BacksOff t.rttInit events ∧ (∀ l, l <+: events → 200 ≤ (l.foldl step t.rttInit).rto.toNat) ↔
      Follows step doublesBelow t.rttInit events := by
  have start : 200 ≤ t.rttInit.rto.toNat := by
    change 200 ≤ 6000
    decide
  have exact : ∀ (t : RttEstimation) event, 200 ≤ t.rto.toNat →
      (t.BacksOff event ∧ 200 ≤ (t.step event).rto.toNat ↔ t.doublesBelow event) :=
    fun _ event above => (and_iff_left (step_rto above event)).trans (backsOff_iff event)
  exact Follows.iff_forall_prefix_and exact start events

/-- Four back-offs from the first timeout on: 6, 12, 24, 48 and 96 seconds. -/
theorem fourBackoffs_exceed : ¬∀ (t : RttEstimation) (events : List TimeoutEvent),
    Follows step BacksOff t.rttInit events ∧ ∀ l, l <+: events → 200 ≤ (l.foldl step t.rttInit).rto.toNat := by
  intro always
  have last := (always ⟨0, 0, false, 0, 0, 0⟩ [.backoff, .backoff, .backoff, .backoff]).1.2.2.2.1
  exact absurd last.2 (by decide)

end RttEstimation

end IPStack
