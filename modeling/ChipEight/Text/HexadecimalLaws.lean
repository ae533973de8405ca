import ChipEight.Text.Hexadecimal

/-! The digits of a number: which and how many there are, and that reading them undoes writing. -/

namespace ChipEight.Hexadecimal

/-- A digit that was written is read as its value. -/
theorem value?_digit {value : Nat} (below : value < 16) : value? (digit value) = some value := by
  -- There are sixteen digits to look at.
  have every : ∀ value < 16, value? (digit value) = some value := by decide
  exact every value below

/-- Reading goes on where it left off. -/
theorem readFrom_append (soFar : Nat) (first second : List Char) :
    readFrom soFar (first ++ second) =
      (readFrom soFar first).bind fun number => readFrom number second := by
  induction first generalizing soFar with
  | nil => rfl
  | cons c rest ih =>
    cases known : value? c with
    -- What is no digit ends the reading of both.
    | none => simp [readFrom, known]
    | some value => simp [readFrom, known, ih]

/-- Every number has a digit. -/
theorem digits_ne_nil (n : Nat) : digits n ≠ [] := by
  rw [digits]
  -- A small number is its own digit, and a large one ends with a digit.
  split <;> simp

/-- The digits of a number are read as that number. -/
theorem readFrom_digits (n : Nat) : readFrom 0 (digits n) = some n := by
  induction n using Nat.strongRecOn with
  | ind n ih =>
    rw [digits]
    split
    · rename_i small
      simp [readFrom, value?_digit small]
    · -- All but the last digit spell the quotient, and the last one the remainder.
      rw [readFrom_append, ih (n / 16) (by omega)]
      simp only [Option.bind_some, readFrom, value?_digit (Nat.mod_lt n (by decide)),
        Option.bind_eq_bind, Option.some.injEq]
      omega

/-- Zeros in front do not change what is read. -/
theorem readFrom_zeros (count : Nat) (text : List Char) :
    readFrom 0 (List.replicate count '0' ++ text) = readFrom 0 text := by
  have zero : value? '0' = some 0 := by decide
  induction count with
  | zero => rfl
  -- A zero is worth nothing, and so is what comes before it.
  | succ count ih => simp [List.replicate_succ, readFrom, zero, ih]

/-- The padded digits of a number are read as that number. -/
theorem read?_padded (width n : Nat) : read? (padded width n) = some n := by
  simp [read?, padded, digits_ne_nil, readFrom_zeros, readFrom_digits]

/-- A number does not get smaller while more of its digits are read. -/
theorem le_of_readFrom {soFar number : Nat} {text : List Char}
    (read : readFrom soFar text = some number) : soFar ≤ number := by
  induction text generalizing soFar with
  | nil =>
    cases read
    exact Nat.le_refl _
  | cons c rest ih =>
    obtain ⟨value, known, onward⟩ := Option.bind_eq_some_iff.mp read
    -- What was read so far counts sixteen times in the next number.
    have further : 16 * soFar + value ≤ number := ih onward
    omega

/-- The limit refuses nothing but the numbers that are past it when all their digits are read. -/
theorem readFromWithin_eq_some_iff {limit soFar number : Nat} {text : List Char}
    (below : soFar ≤ limit) :
    readFromWithin limit soFar text = some number ↔
      readFrom soFar text = some number ∧ number ≤ limit := by
  induction text generalizing soFar with
  | nil =>
    simp only [readFromWithin, readFrom, Option.some.injEq, iff_self_and]
    rintro rfl
    exact below
  | cons c rest ih =>
    cases known : value? c with
    | none => simp [readFromWithin, readFrom, known]
    | some value =>
      simp only [readFromWithin, readFrom, known, Option.bind_eq_bind, Option.bind_some]
      by_cases fits : 16 * soFar + value ≤ limit
      · rw [if_pos fits, ih fits]
      · -- Once a part is past the limit the whole number is as well.
        rw [if_neg fits]
        refine iff_of_false nofun fun ⟨read, within⟩ => fits ?_
        exact Nat.le_trans (le_of_readFrom read) within

/-- Up to the limit a number is read as it is without one. -/
theorem readWithin?_eq_some_iff {limit number : Nat} {text : List Char} :
    readWithin? limit text = some number ↔ read? text = some number ∧ number ≤ limit := by
  by_cases empty : text.isEmpty
  · simp [readWithin?, read?, empty]
  · simp only [readWithin?, read?, empty]
    exact readFromWithin_eq_some_iff (Nat.zero_le limit)

/-- Every number is written in the sixteen digits. -/
theorem mem_digits {n : Nat} {c : Char} (written : c ∈ digits n) :
    ∃ value < 16, c = digit value := by
  induction n using Nat.strongRecOn with
  | ind n ih =>
    rw [digits] at written
    split at written
    · rename_i small
      exact ⟨n, small, List.mem_singleton.mp written⟩
    · -- All but the last are digits of the quotient.
      rcases List.mem_append.mp written with front | last
      · exact ih (n / 16) (by omega) front
      · exact ⟨n % 16, Nat.mod_lt n (by decide), List.mem_singleton.mp last⟩

/-- The zeros in front are digits as well. -/
theorem mem_padded {width n : Nat} {c : Char} (written : c ∈ padded width n) :
    ∃ value < 16, c = digit value := by
  rcases List.mem_append.mp written with zero | own
  · exact ⟨0, by decide, List.eq_of_mem_replicate zero⟩
  · exact mem_digits own

/-- The digits of a number are those that no width pads. -/
theorem padded_zero (n : Nat) : padded 0 n = digits n := by
  rw [padded, Nat.zero_sub, List.replicate_zero, List.nil_append]

/-- There are as many digits as it takes, and never fewer than the width. -/
theorem length_padded (width n : Nat) : (padded width n).length = max width (digits n).length := by
  rw [padded, List.length_append, List.length_replicate]
  -- The zeros make up for what is missing to the width, if anything.
  omega

/-- A byte has no more than two digits. -/
theorem length_digits_byte {n : Nat} (small : n < 256) : (digits n).length ≤ 2 := by
  -- Without its last digit a byte is a single digit.
  have quotient : n / 16 < 16 := by omega
  rw [digits]
  split
  · simp
  · simp [digits, quotient]

end ChipEight.Hexadecimal
