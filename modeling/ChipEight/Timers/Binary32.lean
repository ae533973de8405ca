/-!
Numbers of the format binary32 that are not negative, by exact arithmetic. No span of time is so
short or so long that the limits on the exponents of the format would matter, so there are none
here.
-/

namespace ChipEight

/-- A number as a fraction. -/
structure Binary32 where
  /-- The numerator, of which only the twenty-four leading binary digits can be other than zero. -/
  numerator : Nat
  /-- The denominator, a power of two. -/
  denominator : Nat
deriving DecidableEq, Repr, Inhabited

namespace Binary32

/-- The least whole number with more binary digits than the format has. -/
def limit : Nat := 0x1000000

/-- The distance between the numbers of the format around a whole number. -/
def spacing (n : Nat) : Nat := if n < limit then 1 else 2 * spacing (n / 2)
termination_by n
decreasing_by simp only [limit] at *; omega

/-- A power of two that gives a quotient all digits of the format when the numerator has it. -/
def magnification (numerator denominator : Nat) : Nat :=
  if numerator = 0 ∨ denominator * limit ≤ numerator then 1
  -- Powers of two change no digit of the quotient, only its place.
  else 256 * magnification (256 * numerator) denominator
termination_by denominator * limit - numerator
decreasing_by omega

/-- The quotient of two numbers to the nearest whole number, a half going to the even one. -/
def roundedQuotient (numerator denominator : Nat) : Nat :=
  let quotient := numerator / denominator
  let rest := numerator % denominator
  if denominator < 2 * rest then quotient + 1
  -- An exact half goes up only if that makes the quotient even.
  else if 2 * rest = denominator ∧ quotient % 2 = 1 then quotient + 1
  else quotient

/-- The whole number nearest to a quotient among those that the format holds. -/
def nearest (numerator denominator : Nat) : Nat :=
  -- Around the quotient the format holds the multiples of one step.
  let step := spacing (numerator / denominator)
  roundedQuotient numerator (denominator * step) * step

/-- The number of the format that is nearest to a whole number. -/
def ofNat (n : Nat) : Binary32 := ⟨nearest n 1, 1⟩

/-- The sum of two numbers, rounded once. -/
def add (a b : Binary32) : Binary32 where
  -- The sum is exact before it is rounded.
  numerator := nearest (a.numerator * b.denominator + b.numerator * a.denominator) 1
  denominator := a.denominator * b.denominator

/-- The quotient of two numbers, rounded once. -/
def div (a b : Binary32) : Binary32 :=
  let numerator := a.numerator * b.denominator
  let denominator := b.numerator * a.denominator
  let scale := magnification numerator denominator
  ⟨nearest (numerator * scale) denominator, scale⟩

/-- Whether a number is at most another. -/
def atMost (a b : Binary32) : Bool :=
  -- Both are brought to one denominator.
  a.numerator * b.denominator ≤ b.numerator * a.denominator

end Binary32

end ChipEight
