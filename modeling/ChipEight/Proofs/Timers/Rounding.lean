import Mathlib.Algebra.Group.Nat.Defs
import Mathlib.Order.Nat
import ChipEight.Timers.Binary32

/-! Rounding keeps the order of numbers and leaves alone those that the format holds. -/

namespace ChipEight.Binary32

/-- A whole number has so many binary digits more than the format holds, or fits in the format. -/
structure Excess (n digits : Nat) : Prop where
  low : digits = 0 ∨ 2 ^ (23 + digits) ≤ n
  high : n < 2 ^ (24 + digits)

/-- With so many digits too many, the numbers of the format lie a power of two apart. -/
theorem Excess.spacing_eq {n digits : Nat} (excess : Excess n digits) :
    spacing n = 2 ^ digits := by
  -- Each digit too many is one halving of the number and one doubling of the spacing.
  induction digits generalizing n with
  | zero =>
    have small : n < limit := excess.high
    rw [spacing, if_pos small, Nat.pow_zero]
  | succ digits ih =>
    have low : 2 ^ (23 + digits) * 2 ≤ n := excess.low.resolve_left (Nat.succ_ne_zero digits)
    have high : n < 2 ^ (24 + digits) * 2 := excess.high
    have large : ¬ n < limit := by
      have least : 2 ^ 23 ≤ 2 ^ (23 + digits) := Nat.pow_le_pow_right (by decide) (by omega)
      simp only [limit]
      omega
    rw [spacing, if_neg large, ih ⟨Or.inr (by omega), by omega⟩, Nat.pow_succ, Nat.mul_comm]

/-- Every whole number has some number of digits too many. -/
theorem exists_excess (n : Nat) : ∃ digits, Excess n digits := by
  induction n using spacing.induct with
  | case1 n small => exact ⟨0, Or.inl rfl, small⟩
  | case2 n large ih =>
    obtain ⟨digits, low, high⟩ := ih
    -- The number has one digit more than its half.
    have limit_le : 2 ^ 24 ≤ n := Nat.not_lt.mp large
    have short : n < 2 ^ (24 + digits) * 2 := by omega
    refine ⟨digits + 1, Or.inr ?_, short⟩
    show 2 ^ (23 + digits) * 2 ≤ n
    rcases low with rfl | low
    · omega
    · omega

/-- A larger number has at least as many digits too many. -/
theorem Excess.le {n m digits more : Nat} (excess : Excess n digits) (other : Excess m more)
    (le : n ≤ m) : digits ≤ more := by
  apply Nat.le_of_not_lt
  intro fewer
  -- The smaller number would not be below what bounds the larger one.
  have low := excess.low.resolve_left (by omega)
  have high := other.high
  have bound : 2 ^ (24 + more) ≤ 2 ^ (23 + digits) := Nat.pow_le_pow_right (by decide) (by omega)
  omega

/-- A quotient is rounded up when its rest is more than half, or half with an odd whole part. -/
theorem roundedQuotient_eq (numerator denominator : Nat) :
    roundedQuotient numerator denominator = numerator / denominator +
      if denominator < 2 * (numerator % denominator) ∨
        2 * (numerator % denominator) = denominator ∧ numerator / denominator % 2 = 1
      then 1 else 0 := by
  unfold roundedQuotient
  dsimp only
  -- The two ways of rounding up are told apart in the program and not in the statement.
  by_cases more : denominator < 2 * (numerator % denominator)
  · rw [if_pos more, if_pos (Or.inl more)]
  · by_cases half : 2 * (numerator % denominator) = denominator ∧ numerator / denominator % 2 = 1
    · rw [if_neg more, if_pos half, if_pos (Or.inr half)]
    · rw [if_neg more, if_neg half, if_neg (not_or.mpr ⟨more, half⟩), Nat.add_zero]

/-- A quotient without a rest is not rounded. -/
theorem roundedQuotient_mul {denominator : Nat} (positive : 0 < denominator) (quotient : Nat) :
    roundedQuotient (quotient * denominator) denominator = quotient := by
  -- The rest is zero, which is no more than half.
  rw [roundedQuotient_eq, Nat.mul_mod_left, Nat.mul_div_cancel quotient positive,
    if_neg (by omega), Nat.add_zero]

/-- A larger numerator has no smaller rounded quotient. -/
theorem roundedQuotient_mono {numerator larger : Nat} (denominator : Nat)
    (le : numerator ≤ larger) :
    roundedQuotient numerator denominator ≤ roundedQuotient larger denominator := by
  rw [roundedQuotient_eq, roundedQuotient_eq]
  rcases Nat.lt_or_eq_of_le (Nat.div_le_div_right (c := denominator) le) with apart | same
  · -- Rounding up leads no further than to the next whole part.
    split <;> omega
  · -- With the same whole part, the larger rest is rounded up if the smaller one is.
    have first := Nat.div_add_mod numerator denominator
    have second := Nat.div_add_mod larger denominator
    rw [same] at first ⊢
    have rests : numerator % denominator ≤ larger % denominator := by omega
    split
    · rw [if_pos (by omega)]
    · exact Nat.add_le_add_left (Nat.zero_le _) _

/-- The nearest number is found with a spacing that depends on the digits of the whole part. -/
theorem Excess.nearest_eq {numerator denominator digits : Nat}
    (excess : Excess (numerator / denominator) digits) :
    nearest numerator denominator =
      roundedQuotient numerator (denominator * 2 ^ digits) * 2 ^ digits := by
  rw [nearest, excess.spacing_eq]

/-- Numbers of the format that have the digits of the whole part bound the nearest from above. -/
theorem Excess.nearest_le {numerator denominator digits : Nat} (positive : 0 < denominator)
    (excess : Excess (numerator / denominator) digits) :
    nearest numerator denominator ≤ 2 ^ (24 + digits) := by
  -- The bound is the limit of the format, counted in the spacing.
  have bound : numerator ≤ 2 ^ 24 * (denominator * 2 ^ digits) := by
    have short := (Nat.div_lt_iff_lt_mul positive).mp excess.high
    rw [Nat.pow_add] at short
    calc numerator ≤ 2 ^ 24 * 2 ^ digits * denominator := Nat.le_of_lt short
      _ = 2 ^ 24 * (denominator * 2 ^ digits) := by rw [Nat.mul_assoc, Nat.mul_comm denominator]
  have least := roundedQuotient_mono (denominator * 2 ^ digits) bound
  rw [roundedQuotient_mul (Nat.mul_pos positive (Nat.two_pow_pos _))] at least
  rw [excess.nearest_eq, Nat.pow_add]
  exact Nat.mul_le_mul_right _ least

/-- With a digit too many, the nearest number is at least the smallest one with these digits. -/
theorem Excess.le_nearest {numerator denominator digits : Nat} (positive : 0 < denominator)
    (excess : Excess (numerator / denominator) (digits + 1)) :
    2 ^ (24 + digits) ≤ nearest numerator denominator := by
  -- The smallest whole part with these digits, counted in the spacing.
  have bound : 2 ^ 23 * (denominator * 2 ^ (digits + 1)) ≤ numerator := by
    have low := excess.low.resolve_left (Nat.succ_ne_zero digits)
    have long := (Nat.le_div_iff_mul_le positive).mp low
    rw [Nat.pow_add] at long
    calc 2 ^ 23 * (denominator * 2 ^ (digits + 1))
        = 2 ^ 23 * 2 ^ (digits + 1) * denominator := by
          rw [Nat.mul_assoc, Nat.mul_comm denominator]
      _ ≤ numerator := long
  have most := roundedQuotient_mono (denominator * 2 ^ (digits + 1)) bound
  rw [roundedQuotient_mul (Nat.mul_pos positive (Nat.two_pow_pos _))] at most
  rw [excess.nearest_eq]
  calc 2 ^ (24 + digits) = 2 ^ 23 * 2 ^ (digits + 1) := by
        rw [← Nat.pow_add]
        congr 1
        omega
    _ ≤ roundedQuotient numerator (denominator * 2 ^ (digits + 1)) * 2 ^ (digits + 1) :=
        Nat.mul_le_mul_right _ most

/-- A larger quotient is rounded to no smaller number. -/
theorem nearest_mono {numerator larger denominator : Nat} (positive : 0 < denominator)
    (le : numerator ≤ larger) : nearest numerator denominator ≤ nearest larger denominator := by
  obtain ⟨digits, excess⟩ := exists_excess (numerator / denominator)
  obtain ⟨more, other⟩ := exists_excess (larger / denominator)
  rcases Nat.lt_or_eq_of_le (excess.le other (Nat.div_le_div_right le)) with further | rfl
  · -- A number of the format lies between two quotients with different numbers of digits.
    obtain ⟨between, rfl⟩ := Nat.exists_eq_add_of_lt further
    calc nearest numerator denominator ≤ 2 ^ (24 + digits) := excess.nearest_le positive
      _ ≤ 2 ^ (24 + (digits + between)) := Nat.pow_le_pow_right (by decide) (by omega)
      _ ≤ nearest larger denominator := other.le_nearest positive
  · rw [excess.nearest_eq, other.nearest_eq]
    exact Nat.mul_le_mul_right _ (roundedQuotient_mono _ le)

/-- A whole number is in the format when it is a multiple of the spacing around it. -/
def Held (n : Nat) : Prop := spacing n ∣ n

/-- Numbers below the limit are all in the format. -/
theorem held_of_lt {n : Nat} (small : n < limit) : Held n := by
  -- Below the limit the spacing is one.
  rw [Held, spacing, if_pos small]
  exact Nat.one_dvd n

/-- Powers of two are in the format. -/
theorem held_two_pow (exponent : Nat) : Held (2 ^ exponent) := by
  obtain ⟨digits, excess⟩ := exists_excess (2 ^ exponent)
  rw [Held, excess.spacing_eq]
  -- There are fewer digits too many than digits.
  apply Nat.pow_dvd_pow
  rcases excess.low with rfl | low
  · exact Nat.zero_le _
  · have := (Nat.pow_le_pow_iff_right (by decide)).mp low
    omega

/-- A quotient that is in the format is the nearest number to itself. -/
theorem nearest_of_held {n denominator : Nat} (positive : 0 < denominator) (held : Held n) :
    nearest (n * denominator) denominator = n := by
  obtain ⟨digits, excess⟩ := exists_excess n
  rw [Held, excess.spacing_eq] at held
  obtain ⟨count, spelled⟩ := held
  have whole : n * denominator / denominator = n := Nat.mul_div_cancel n positive
  rw [Excess.nearest_eq (whole.symm ▸ excess)]
  -- The quotient is a whole number of spacings.
  have counted : n * denominator = count * (denominator * 2 ^ digits) := by
    rw [spelled, Nat.mul_comm (2 ^ digits) count, Nat.mul_assoc, Nat.mul_comm denominator]
  rw [counted, roundedQuotient_mul (Nat.mul_pos positive (Nat.two_pow_pos _)), spelled,
    Nat.mul_comm]

/-- A number of the format bounds what is rounded from above if it bounds the quotient. -/
theorem nearest_le_of_held {numerator denominator bound : Nat} (positive : 0 < denominator)
    (held : Held bound) (le : numerator ≤ bound * denominator) :
    nearest numerator denominator ≤ bound := by
  -- The bound is rounded to itself, and rounding keeps the order.
  have rounded := nearest_mono positive le
  rwa [nearest_of_held positive held] at rounded

/-- A number of the format bounds what is rounded from below if it bounds the quotient. -/
theorem le_nearest_of_held {numerator denominator bound : Nat} (positive : 0 < denominator)
    (held : Held bound) (le : bound * denominator ≤ numerator) :
    bound ≤ nearest numerator denominator := by
  -- As above, with the bound on the other side.
  have rounded := nearest_mono positive le
  rwa [nearest_of_held positive held] at rounded

/-- The magnification is a power of two. -/
theorem exists_magnification_eq (numerator denominator : Nat) :
    ∃ exponent, magnification numerator denominator = 2 ^ exponent := by
  -- Each round of the magnification is worth eight powers of two.
  induction numerator using magnification.induct denominator with
  | case1 numerator enough => exact ⟨0, by rw [magnification, if_pos enough, Nat.pow_zero]⟩
  | case2 numerator short ih =>
    obtain ⟨exponent, power⟩ := ih
    refine ⟨8 + exponent, ?_⟩
    rw [magnification, if_neg short, power, Nat.pow_add]

end ChipEight.Binary32
