import Mathlib.Algebra.Order.Floor.Div

/-! Values that are counted down at every cycle of a clock, and end with the cycle that finds
nothing left after it. -/

namespace Countdown

/-- The number of cycles a value lasts: its own cycles rounded up, but at least one. -/
def lasts (step start : Nat) : Nat := max 1 (start ⌈/⌉ step)

/-- A value some cycles after its start. The clock has passed `since` of its period since its
last cycle, and the value has its age since it started somewhere between two cycles. -/
def Runs (step period start value age since : Nat) : Prop :=
  ∃ cycles phase, phase ≤ period ∧ age + phase = period * cycles + since ∧ value + step * cycles = start ∧
    (cycles = 0 ∨ step * cycles < start)

variable {step period start value age since : Nat}

theorem lt_lasts {cycles : Nat} (positive : 0 < step) (left : cycles = 0 ∨ step * cycles < start) :
    cycles < lasts step start := by
  rcases left with rfl | more
  · exact lt_max_of_lt_left Nat.one_pos
  · refine lt_max_of_lt_right (Nat.lt_of_not_le fun few => ?_)
    have spent : start ≤ step * cycles := (ceilDiv_le_iff_le_mul positive).mp few
    omega

theorem lasts_le {cycles : Nat} (positive : 0 < step) (most : start ≤ step * (cycles + 1)) :
    lasts step start ≤ cycles + 1 :=
  max_le (Nat.le_add_left 1 cycles) ((ceilDiv_le_iff_le_mul positive).mpr most)

namespace Runs

theorem started (within : since ≤ period) : Runs step period start start 0 since :=
  ⟨0, since, within, by omega, by omega, .inl rfl⟩

theorem le (runs : Runs step period start value age since) : value ≤ start := by
  obtain ⟨cycles, phase, -, -, rest, -⟩ := runs
  omega

theorem elapse (runs : Runs step period start value age since) (ticks : Nat) :
    Runs step period start value (age + ticks) (since + ticks) := by
  obtain ⟨cycles, phase, within, time, rest, left⟩ := runs
  exact ⟨cycles, phase, within, by omega, rest, left⟩

/-- A cycle at the end of a period that leaves something of the value. -/
theorem cycle (runs : Runs step period start value age period) (more : step < value) :
    Runs step period start (value - step) age 0 := by
  obtain ⟨cycles, phase, within, time, rest, left⟩ := runs
  have again : step * (cycles + 1) = step * cycles + step := Nat.mul_succ step cycles
  have next : period * (cycles + 1) = period * cycles + period := Nat.mul_succ period cycles
  exact ⟨cycles + 1, phase, within, by omega, by omega, .inr (by omega)⟩

/-- A value that runs has not yet seen its last cycle. -/
theorem age_le (runs : Runs step period start value age since) (positive : 0 < step) (within : since ≤ period) :
    age ≤ period * lasts step start := by
  obtain ⟨cycles, phase, -, time, -, left⟩ := runs
  calc age ≤ period * cycles + since := by omega
    _ ≤ period * (cycles + 1) := by
      rw [Nat.mul_succ]
      omega
    _ ≤ period * lasts step start := Nat.mul_le_mul_left period (lt_lasts positive left)

/-- A value ends with its last cycle. -/
theorem le_age (runs : Runs step period start value age period) (positive : 0 < step) (ends : value ≤ step) :
    period * lasts step start ≤ age + period := by
  obtain ⟨cycles, phase, within, time, rest, -⟩ := runs
  have again : step * (cycles + 1) = step * cycles + step := Nat.mul_succ step cycles
  calc period * lasts step start ≤ period * (cycles + 1) := Nat.mul_le_mul_left period (lasts_le positive (by omega))
    _ = period * cycles + period := Nat.mul_succ period cycles
    _ ≤ age + period := by omega

end Runs

end Countdown
