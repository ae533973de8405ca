import ChipEight.Proofs.Timers.Rounding
import ChipEight.Timers.Basic

/-! The timers count exactly when a certain whole number of nanoseconds has passed. -/

namespace ChipEight

open Binary32

/-- The nanoseconds from which on the timers count. -/
def periodNanos : Nat := 16666667

/-- The period is the least whole number of nanoseconds of which sixty make up a second. -/
theorem periodNanos_least :
    nanosPerSecond ≤ 60 * periodNanos ∧
      ∀ shorter < periodNanos, 60 * shorter < nanosPerSecond := by
  refine ⟨by decide, fun shorter less => ?_⟩
  simp only [periodNanos, nanosPerSecond] at less ⊢
  omega

/-- The part of a span of time that is less than a second, in seconds. -/
def fraction (nanos : Nat) : Binary32 := div (ofNat nanos) (ofNat nanosPerSecond)

/-- A number of the format is its own rounding. -/
theorem nearest_one_of_held {n : Nat} (held : Held n) : nearest n 1 = n := by
  -- This is a quotient by one.
  have same := nearest_of_held Nat.one_pos held
  rwa [Nat.mul_one] at same

/-- A number of the format is read as it is. -/
theorem ofNat_of_held {n : Nat} (held : Held n) : ofNat n = ⟨n, 1⟩ := by
  rw [ofNat, nearest_one_of_held held]

/-- The nanoseconds in a second are a number of the format. -/
theorem held_nanosPerSecond : Held nanosPerSecond := by
  -- Six digits too many are all zero.
  have excess : Excess nanosPerSecond 6 := ⟨Or.inr (by decide), by decide⟩
  rw [Held, excess.spacing_eq]
  decide

/-- The period in units of two to the power of minus thirty-two, which it is eight of apart. -/
def periodUnits : Nat := 71582792

/-- The rounded period. -/
theorem timerPeriod_eq : timerPeriod = ⟨periodUnits, 2 ^ 32⟩ := by
  have scale : magnification 1 60 = 2 ^ 32 := by
    simp [magnification, limit]
  -- A sixtieth of the scale has three digits too many.
  have excess : Excess (2 ^ 32 / 60) 3 := ⟨Or.inr (by decide), by decide⟩
  rw [timerPeriod, ofNat_of_held (held_of_lt (by decide)), ofNat_of_held (held_of_lt (by decide))]
  simp only [div, Nat.mul_one, scale, Nat.one_mul, excess.nearest_eq]
  decide

/-- The period and the number of the format below it are both in the format. -/
theorem held_periodUnits : Held periodUnits ∧ Held (periodUnits - 8) := by
  -- Both are multiples of eight.
  have excess : Excess periodUnits 3 := ⟨Or.inr (by decide), by decide⟩
  have lower : Excess (periodUnits - 8) 3 := ⟨Or.inr (by decide), by decide⟩
  rw [Held, Held, excess.spacing_eq, lower.spacing_eq]
  decide

/-- The fraction of a second is rounded twice: its nanoseconds, and their quotient. -/
theorem fraction_eq (nanos : Nat) :
    fraction nanos =
      { numerator := nearest (nearest nanos 1 * magnification (nearest nanos 1) nanosPerSecond)
          nanosPerSecond
        denominator := magnification (nearest nanos 1) nanosPerSecond } := by
  rw [fraction, ofNat_of_held held_nanosPerSecond]
  simp only [div, ofNat, Nat.mul_one]

/-- Quotients from a two hundred and fifty-sixth on are magnified by the same power. -/
theorem magnification_of_mem {nanos : Nat} (low : 3906250 ≤ nanos)
    (high : nanos < nanosPerSecond) : magnification nanos nanosPerSecond = 2 ^ 32 := by
  simp only [nanosPerSecond] at high ⊢
  -- Three magnifications are not enough, and the fourth is.
  rw [magnification, if_neg (by simp only [limit]; omega),
    magnification, if_neg (by simp only [limit]; omega),
    magnification, if_neg (by simp only [limit]; omega),
    magnification, if_neg (by simp only [limit]; omega),
    magnification, if_pos (by simp only [limit]; omega)]
  decide

/-- From the period on, the fraction is bounded by a number of the format not below the period. -/
theorem exists_le_fraction {nanos : Nat} (enough : periodNanos ≤ nanos) :
    ∃ bound, Held bound ∧ bound ≤ (fraction nanos).numerator ∧
      periodUnits * (fraction nanos).denominator ≤ bound * 2 ^ 32 := by
  rw [fraction_eq]
  have read : periodNanos ≤ nearest nanos 1 :=
    le_nearest_of_held Nat.one_pos (held_of_lt (by decide)) (by omega)
  generalize nearest nanos 1 = rounded at read
  rcases Nat.lt_or_ge rounded nanosPerSecond with less | whole
  · -- The quotient is rounded no lower than the one of the period is.
    rw [magnification_of_mem (Nat.le_trans (by decide) read) less]
    have excess : Excess (periodNanos * 2 ^ 32 / nanosPerSecond) 3 :=
      ⟨Or.inr (by decide), by decide⟩
    have least : nearest (periodNanos * 2 ^ 32) nanosPerSecond = periodUnits := by
      rw [excess.nearest_eq]
      decide
    refine ⟨periodUnits, held_periodUnits.1, ?_, Nat.le_refl _⟩
    rw [← least]
    exact nearest_mono (by decide) (Nat.mul_le_mul_right _ read)
  · -- Rounding can make up a whole second, whatever the magnification is.
    obtain ⟨exponent, power⟩ := exists_magnification_eq rounded nanosPerSecond
    rw [power]
    refine ⟨2 ^ exponent, held_two_pow exponent, ?_, ?_⟩
    · apply le_nearest_of_held (by decide) (held_two_pow exponent)
      rw [Nat.mul_comm]
      exact Nat.mul_le_mul_right _ whole
    · rw [Nat.mul_comm]
      exact Nat.mul_le_mul_left _ (by decide)

/-- No time is no seconds. -/
theorem fraction_zero : fraction 0 = ⟨0, 1⟩ := by
  -- Zero cannot be magnified, and is held by every format.
  have scale : magnification 0 nanosPerSecond = 1 := by rw [magnification, if_pos (Or.inl rfl)]
  have none_passed : nearest (0 * nanosPerSecond) nanosPerSecond = 0 :=
    nearest_of_held (by decide) (held_of_lt (by decide))
  rw [Nat.zero_mul] at none_passed
  rw [fraction_eq, nearest_one_of_held (held_of_lt (by decide)), scale, Nat.zero_mul, none_passed]

/-- Less than a two hundred and fifty-sixth of a second is rounded to no more than that. -/
theorem exists_fraction_le_of_tiny {nanos : Nat} (positive : 0 < nanos) (tiny : nanos < 3906250) :
    ∃ exponent, (fraction nanos).numerator ≤ 2 ^ exponent ∧
      (fraction nanos).denominator = 256 * 2 ^ exponent := by
  have read : nearest nanos 1 = nanos :=
    nearest_one_of_held (held_of_lt (Nat.lt_trans tiny (by decide)))
  -- The magnification of a quotient this small goes on for eight powers at least.
  obtain ⟨exponent, power⟩ := exists_magnification_eq (256 * nanos) nanosPerSecond
  have scale : magnification nanos nanosPerSecond = 256 * 2 ^ exponent := by
    rw [magnification, if_neg (by simp only [nanosPerSecond, limit]; omega), power]
  rw [fraction_eq, read, scale]
  refine ⟨exponent, ?_, rfl⟩
  apply nearest_le_of_held (by decide) (held_two_pow exponent)
  rw [← Nat.mul_assoc, Nat.mul_comm (2 ^ exponent)]
  apply Nat.mul_le_mul_right
  simp only [nanosPerSecond]
  omega

/-- Before the period, a number of the format that is less than the period bounds the fraction. -/
theorem exists_fraction_le {nanos : Nat} (short : nanos < periodNanos) :
    ∃ bound, Held bound ∧ (fraction nanos).numerator ≤ bound ∧
      bound * 2 ^ 32 < periodUnits * (fraction nanos).denominator := by
  rcases Nat.eq_zero_or_pos nanos with rfl | positive
  · -- No time at all is less than any period.
    rw [fraction_zero]
    exact ⟨0, held_of_lt (by decide), Nat.le_refl 0, by decide⟩
  · rcases Nat.lt_or_ge nanos 3906250 with tiny | more
    · -- The period is more than four times a two hundred and fifty-sixth.
      obtain ⟨exponent, below, scale⟩ := exists_fraction_le_of_tiny positive tiny
      have large := Nat.two_pow_pos exponent
      refine ⟨2 ^ exponent, held_two_pow exponent, below, ?_⟩
      rw [scale]
      simp only [periodUnits]
      omega
    · -- The quotient is rounded no higher than the one of a nanosecond less than the period is.
      have read : nearest nanos 1 = nanos :=
        nearest_one_of_held (held_of_lt (Nat.lt_trans short (by decide)))
      rw [fraction_eq, read, magnification_of_mem more (Nat.lt_trans short (by decide))]
      have excess : Excess ((periodNanos - 1) * 2 ^ 32 / nanosPerSecond) 3 :=
        ⟨Or.inr (by decide), by decide⟩
      have most : nearest ((periodNanos - 1) * 2 ^ 32) nanosPerSecond = periodUnits - 8 := by
        rw [excess.nearest_eq]
        decide
      have less : (periodUnits - 8) * 2 ^ 32 < periodUnits * 2 ^ 32 := by decide
      refine ⟨periodUnits - 8, held_periodUnits.2, ?_, less⟩
      rw [← most]
      exact nearest_mono (by decide) (Nat.mul_le_mul_right _ (Nat.le_pred_of_lt short))

/-- The seconds of a span of time are the whole seconds and the fraction, rounded once more. -/
theorem seconds_eq (nanos : Nat) :
    seconds nanos =
      { numerator := nearest (nearest (nanos / nanosPerSecond) 1 *
          (fraction (nanos % nanosPerSecond)).denominator +
          (fraction (nanos % nanosPerSecond)).numerator) 1
        denominator := (fraction (nanos % nanosPerSecond)).denominator } := by
  simp only [seconds, add, ofNat, Nat.mul_one, Nat.one_mul, fraction]

/-- The timers count from the first nanosecond on of which sixty make up a second. -/
theorem timerPeriod_atMost_iff (nanos : Nat) :
    timerPeriod.atMost (seconds nanos) = true ↔ periodNanos ≤ nanos := by
  rw [timerPeriod_eq, seconds_eq, atMost, decide_eq_true_iff]
  dsimp only
  rcases Nat.lt_or_ge nanos nanosPerSecond with within | beyond
  · -- Less than a second is all fraction.
    have no_second : nearest 0 1 = 0 := nearest_one_of_held (held_of_lt (by decide))
    rw [Nat.div_eq_of_lt within, Nat.mod_eq_of_lt within, no_second, Nat.zero_mul, Nat.zero_add]
    constructor
    · intro due
      apply Nat.le_of_not_lt
      intro short
      obtain ⟨bound, held, below, less⟩ := exists_fraction_le short
      have rounded : nearest (fraction nanos).numerator 1 ≤ bound :=
        nearest_le_of_held Nat.one_pos held (by rwa [Nat.mul_one])
      have := Nat.mul_le_mul_right (2 ^ 32) rounded
      omega
    · intro enough
      obtain ⟨bound, held, above, more⟩ := exists_le_fraction enough
      have rounded : bound ≤ nearest (fraction nanos).numerator 1 :=
        le_nearest_of_held Nat.one_pos held (by rwa [Nat.mul_one])
      exact Nat.le_trans more (Nat.mul_le_mul_right _ rounded)
  · -- A whole second is more than enough, whatever is added to it.
    have long : periodNanos ≤ nanos := Nat.le_trans (by decide) beyond
    refine iff_of_true ?_ long
    have whole : 1 ≤ nanos / nanosPerSecond := Nat.div_pos beyond (by decide)
    have read : 1 ≤ nearest (nanos / nanosPerSecond) 1 :=
      le_nearest_of_held Nat.one_pos (held_of_lt (by decide)) (by omega)
    obtain ⟨exponent, power⟩ :=
      exists_magnification_eq (nearest (nanos % nanosPerSecond) 1) nanosPerSecond
    have scale : (fraction (nanos % nanosPerSecond)).denominator = 2 ^ exponent := by
      rw [fraction_eq, power]
    rw [scale]
    have rounded : 2 ^ exponent ≤ nearest (nearest (nanos / nanosPerSecond) 1 * 2 ^ exponent +
        (fraction (nanos % nanosPerSecond)).numerator) 1 := by
      apply le_nearest_of_held Nat.one_pos (held_two_pow exponent)
      have := Nat.mul_le_mul_right (2 ^ exponent) read
      omega
    have := Nat.mul_le_mul_right (2 ^ 32) rounded
    simp only [periodUnits]
    omega

end ChipEight
