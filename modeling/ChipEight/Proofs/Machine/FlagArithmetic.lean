import ChipEight.Proofs.Instruction.Opcode
import ChipEight.Proofs.Machine.Reachable

/-! The words that flag their result, told by numbers, also where an operand is the flag itself. -/

namespace ChipEight.Machine

open Nibbles Instruction

/-- The number that a register holds. -/
def value (machine : Machine) (x : Fin registerCount) : Nat := (machine.reg x).toNat

/-- The sum of two registers in the first, with its carry in the flag. -/
structure Sum (x y : Fin registerCount) (before after : Fin registerCount → Nat) : Prop where
  carried : x ≠ flagRegister → after x + 256 * after flagRegister = before x + before y
  /-- In the flag's own place the sum wins over its carry. -/
  inFlag : x = flagRegister → after flagRegister = (before flagRegister + before y) % 256

/-- The flag of a difference, which is set when the minuend is the larger one. -/
def larger (before : Fin registerCount → Nat) (minuend subtrahend : Fin registerCount) : Nat :=
  if before minuend > before subtrahend then 1 else 0

/-- What an operand is worth once a flag was written, which may be its own register. -/
def worth (before : Fin registerCount → Nat) (flag : Nat) (x : Fin registerCount) : Nat :=
  if x = flagRegister then flag else before x

/-- A difference of two registers in a register, with a flag that is written before it is taken. -/
structure Difference (x minuend subtrahend : Fin registerCount)
    (before after : Fin registerCount → Nat) : Prop where
  flagged : x ≠ flagRegister → after flagRegister = larger before minuend subtrahend
  taken : (after x : Int) =
    (worth before (larger before minuend subtrahend) minuend -
      worth before (larger before minuend subtrahend) subtrahend) % 256

/-- Half of a register in itself, with the bit that falls out in the flag. -/
structure Half (x : Fin registerCount) (before after : Fin registerCount → Nat) : Prop where
  bit : after flagRegister < 2
  halved : x ≠ flagRegister → 2 * after x + after flagRegister = before x
  /-- In the flag's own place what is halved is the bit. -/
  inFlag : x = flagRegister → after flagRegister = 0

/-- Twice a register in itself, with the bit that falls out in the flag. -/
structure Double (x : Fin registerCount) (before after : Fin registerCount → Nat) : Prop where
  doubled : x ≠ flagRegister → after x + 256 * after flagRegister = 2 * before x
  /-- In the flag's own place what is doubled is the bit. -/
  inFlag : x = flagRegister → after flagRegister = 2 * (2 * before flagRegister / 256)

/-- What the words of family 8 that flag their result make of the registers, by their last digit. -/
inductive Computes (x y : Fin registerCount) (before after : Fin registerCount → Nat) :
    Fin 16 → Prop where
  | add (sum : Sum x y before after) : Computes x y before after 0x4
  | subtract (difference : Difference x x y before after) : Computes x y before after 0x5
  | shiftRight (half : Half x before after) : Computes x y before after 0x6
  | subtractFrom (difference : Difference x y x before after) : Computes x y before after 0x7
  | shiftLeft (double : Double x before after) : Computes x y before after 0xE

variable {machine : Machine} {x y z : Fin registerCount}

/-- Once the flag was written it is what an operand is worth that names it. -/
theorem toNat_reg_setReg_flag (byte : UInt8) :
    ((machine.setReg flagRegister byte).reg z).toNat = worth machine.value byte.toNat z := by
  -- Only an operand that is the flag itself is worth something else by then.
  rw [reg_setReg, worth, apply_ite UInt8.toNat]
  rfl

/-- The flag of a condition as a number. -/
theorem toNat_flag (condition : Bool) : (flag condition).toNat = if condition then 1 else 0 := by
  cases condition <;> rfl

/-- What is left of a machine whose next word writes a flag and then a result. -/
structure FlaggedResult (machine : Machine) (x : Fin registerCount) (bit result : UInt8)
    (after : Machine) : Prop where
  placed : after.value x = result.toNat
  /-- A result in the flag's place is all that is seen of the two. -/
  flagged : x ≠ flagRegister → after.value flagRegister = bit.toNat
  kept : ∀ z, z ≠ x → z ≠ flagRegister → after.value z = machine.value z
  frame : after = { machine.noted with registers := after.registers, pc := machine.pc + 2 }

/-- A word whose instruction writes a flag and then a result is done when it has. -/
theorem flaggedResult_of_row (offered : Offer) (running : machine.halted = false)
    {instruction : Instruction (Fin registerCount)} {bit result : UInt8}
    (row : Opcode machine.nextWord instruction)
    (writes : machine.underway.effect offered instruction =
      .ok { machine := (machine.underway.setReg flagRegister bit).setReg x result }) :
    ∃ after, machine.cycle offered = { state := after } ∧
      machine.FlaggedResult x bit result after := by
  have done : machine.attempt offered =
      .ok { machine := (machine.underway.setReg flagRegister bit).setReg x result } := by
    rw [attempt, row.decode_eq]
    exact writes
  refine ⟨_, cycle_of_ok running done, ?_⟩
  -- The result is written last, so it hides a flag in the same place.
  have registers : ∀ z, ((machine.underway.setReg flagRegister bit).setReg x result).reg z =
      if z = x then result else if z = flagRegister then bit else machine.reg z := by
    intro z
    rw [reg_setReg, reg_setReg]
    rfl
  constructor
  case placed => exact congrArg UInt8.toNat ((registers x).trans (if_pos rfl))
  case flagged =>
    intro apart
    have seen := (registers flagRegister).trans (if_neg (Ne.symm apart))
    exact congrArg UInt8.toNat (seen.trans (if_pos rfl))
  case kept =>
    intro z other unflagged
    exact congrArg UInt8.toNat
      ((registers z).trans ((if_neg other).trans (if_neg unflagged)))
  case frame => rfl

/-- A byte is less than 256. -/
theorem value_lt (machine : Machine) (x : Fin registerCount) : machine.value x < 256 :=
  (machine.reg x).toNat_lt

/-- The sum of two registers is put together again from the result and the carry. -/
theorem FlaggedResult.sum {after : Machine}
    (computed : machine.FlaggedResult x (flag (255 < machine.value x + machine.value y))
      (UInt8.ofNat (machine.value x + machine.value y)) after) :
    Sum x y machine.value after.value := by
  -- Two bytes make at most one carry.
  have first := machine.value_lt x
  have second := machine.value_lt y
  have result := computed.placed
  rw [UInt8.toNat_ofNat'] at result
  constructor
  case carried =>
    intro apart
    rw [result, computed.flagged apart, toNat_flag]
    -- There is a carry when the sum does not fit in a byte.
    by_cases large : 255 < machine.value x + machine.value y
    · simp only [large, decide_true, if_true]
      omega
    · simp only [large, decide_false, Bool.false_eq_true, if_false]
      omega
  -- What is seen is the sum, cut to a byte.
  case inFlag =>
    rintro rfl
    exact result

/-- The difference of two registers is taken once its flag was written. -/
theorem FlaggedResult.difference {after : Machine} {minuend subtrahend : Fin registerCount}
    {bit : UInt8} (larger_eq : bit.toNat = larger machine.value minuend subtrahend)
    (computed : machine.FlaggedResult x bit
      ((machine.underway.setReg flagRegister bit).reg minuend -
        (machine.underway.setReg flagRegister bit).reg subtrahend) after) :
    Difference x minuend subtrahend machine.value after.value := by
  constructor
  -- Another register than the flag leaves what was written to that.
  case flagged =>
    intro apart
    rw [computed.flagged apart, larger_eq]
  -- Bytes wrap around where the difference is below zero, and so does its remainder.
  case taken =>
    have first : ((machine.underway.setReg flagRegister bit).reg minuend).toNat =
      worth machine.value bit.toNat minuend := toNat_reg_setReg_flag bit
    have second : ((machine.underway.setReg flagRegister bit).reg subtrahend).toNat =
      worth machine.value bit.toNat subtrahend := toNat_reg_setReg_flag bit
    have small := ((machine.underway.setReg flagRegister bit).reg subtrahend).toNat_lt
    rw [computed.placed, UInt8.toNat_sub, first, second, larger_eq]
    rw [second, larger_eq] at small
    omega

/-- A half and the bit that fell out make up the register. -/
theorem FlaggedResult.half {after : Machine}
    (computed : machine.FlaggedResult x (machine.reg x % 2)
      ((machine.underway.setReg flagRegister (machine.reg x % 2)).reg x / 2) after) :
    Half x machine.value after.value := by
  have result := computed.placed
  have seen : ((machine.underway.setReg flagRegister (machine.reg x % 2)).reg x).toNat =
    worth machine.value (machine.reg x % 2).toNat x := toNat_reg_setReg_flag _
  have bit : (machine.reg x % 2).toNat = machine.value x % 2 := by
    rw [UInt8.toNat_mod]
    rfl
  -- What is halved is what the register holds once its bit was written.
  rw [UInt8.toNat_div, seen, bit, worth] at result
  -- The flag that is halved itself is the bit by then, and half of a bit is zero.
  by_cases inFlag : x = flagRegister
  · rw [if_pos inFlag] at result
    subst inFlag
    have gone : after.value flagRegister = 0 := by
      rw [result]
      show machine.value flagRegister % 2 / 2 = 0
      omega
    exact ⟨by omega, fun apart => absurd rfl apart, fun _ => gone⟩
  · rw [if_neg inFlag] at result
    have flagged := computed.flagged inFlag
    rw [bit] at flagged
    -- Quotient and remainder make up the number.
    refine ⟨by omega, fun _ => ?_, fun same => absurd same inFlag⟩
    rw [result, flagged]
    show 2 * (machine.value x / 2) + machine.value x % 2 = machine.value x
    omega

/-- A double and the bit that fell out make up twice the register. -/
theorem FlaggedResult.double {after : Machine}
    (computed : machine.FlaggedResult x (machine.reg x / 128)
      (2 * (machine.underway.setReg flagRegister (machine.reg x / 128)).reg x) after) :
    Double x machine.value after.value := by
  have small := machine.value_lt x
  have result := computed.placed
  have seen : ((machine.underway.setReg flagRegister (machine.reg x / 128)).reg x).toNat =
    worth machine.value (machine.reg x / 128).toNat x := toNat_reg_setReg_flag _
  have bit : (machine.reg x / 128).toNat = machine.value x / 128 := by
    rw [UInt8.toNat_div]
    rfl
  -- What is doubled is what the register holds once its bit was written.
  rw [UInt8.toNat_mul, seen, bit, worth] at result
  -- The flag that is doubled itself is the bit by then.
  by_cases inFlag : x = flagRegister
  · rw [if_pos inFlag] at result
    subst inFlag
    refine ⟨fun apart => absurd rfl apart, fun _ => ?_⟩
    rw [result]
    show 2 * (machine.value flagRegister / 128) % 256 = _
    omega
  · rw [if_neg inFlag] at result
    have flagged := computed.flagged inFlag
    rw [bit] at flagged
    -- The double of a byte is cut to a byte and has the highest bit in the flag.
    refine ⟨fun _ => ?_, fun same => absurd same inFlag⟩
    rw [result, flagged]
    show 2 * machine.value x % 256 + 256 * (machine.value x / 128) = 2 * machine.value x
    omega

/-- The flag of a difference is set when the minuend is the larger one. -/
theorem toNat_flag_larger (machine : Machine) (minuend subtrahend : Fin registerCount) :
    (flag (machine.reg subtrahend < machine.reg minuend)).toNat =
      larger machine.value minuend subtrahend := by
  -- Bytes are compared as their numbers are.
  simp only [toNat_flag, larger, decide_eq_true_eq, UInt8.lt_iff_toNat_lt]
  rfl

/--
The words of family 8 that flag their result do so exactly, whichever registers they name. Where one
of these is the flag itself, a sum still sees what it held, a difference sees the new flag, and the
result is written last. No other register changes, and nothing else but the record and the program
counter does.
-/
theorem flag_arithmetic_exact (machine : Machine) (offered : Offer) (x y n : Fin 16)
    (running : machine.pc ≤ 0x0FFE) (word : machine.nextWord = toWord ⟨0x8, x, y, n⟩)
    (flags : n ∈ [0x4, 0x5, 0x6, 0x7, 0xE]) :
    ∃ after, machine.cycle offered = { state := after } ∧
      Computes x y machine.value after.value n ∧
      (∀ z, z ≠ x → z ≠ flagRegister → after.value z = machine.value z) ∧
      after = { machine.noted with registers := after.registers, pc := machine.pc + 2 } := by
  -- The word is carried out, since the machine has not halted.
  have going := halted_eq_false_of_le running
  -- Each of the five words writes the flag and then its result.
  suffices computed : ∃ bit result after, machine.cycle offered = { state := after } ∧
      machine.FlaggedResult x bit result after ∧ Computes x y machine.value after.value n by
    obtain ⟨bit, result, after, cycled, flagged, computes⟩ := computed
    exact ⟨after, cycled, computes, flagged.kept, flagged.frame⟩
  simp only [List.mem_cons, List.not_mem_nil, or_false] at flags
  -- Each digit selects one row of the table, which says what is written.
  rcases flags with rfl | rfl | rfl | rfl | rfl
  · obtain ⟨after, cycled, flagged⟩ :=
      flaggedResult_of_row offered going (word ▸ Opcode.add x y) rfl
    exact ⟨_, _, after, cycled, flagged, .add flagged.sum⟩
  · obtain ⟨after, cycled, flagged⟩ :=
      flaggedResult_of_row offered going (word ▸ Opcode.subtract x y) rfl
    exact ⟨_, _, after, cycled, flagged,
      .subtract (flagged.difference (toNat_flag_larger machine x y))⟩
  · obtain ⟨after, cycled, flagged⟩ :=
      flaggedResult_of_row offered going (word ▸ Opcode.shiftRight x y) rfl
    exact ⟨_, _, after, cycled, flagged, .shiftRight flagged.half⟩
  · obtain ⟨after, cycled, flagged⟩ :=
      flaggedResult_of_row offered going (word ▸ Opcode.subtractFrom x y) rfl
    exact ⟨_, _, after, cycled, flagged,
      .subtractFrom (flagged.difference (toNat_flag_larger machine y x))⟩
  · obtain ⟨after, cycled, flagged⟩ :=
      flaggedResult_of_row offered going (word ▸ Opcode.shiftLeft x y) rfl
    exact ⟨_, _, after, cycled, flagged, .shiftLeft flagged.double⟩

/-- The flag register is the minuend, and the difference is taken from its own flag. -/
theorem flag_arithmetic_exact_flag_minuend :
    let machine := ((booted 0 (.ofList [0x8F, 0x15]) .released).setReg 15 9).setReg 1 3
    (machine.pc ≤ 0x0FFE ∧ machine.nextWord = toWord ⟨0x8, 15, 1, 0x5⟩ ∧
        (0x5 : Fin 16) ∈ [0x4, 0x5, 0x6, 0x7, 0xE]) ∧
      ∃ after, machine.cycle (.ok 0) = { state := after } ∧ after.value flagRegister = 254 ∧
        after.value 1 = 3 := by
  intro machine
  have running : machine.pc ≤ 0x0FFE := by decide
  have word : machine.nextWord = toWord ⟨0x8, 15, 1, 0x5⟩ :=
    nextWord_booted 0 (.ofList [0x8F, 0x15]) .released
  refine ⟨⟨running, word, by decide⟩, ?_⟩
  -- The digit leaves one of the five words.
  obtain ⟨after, cycled, computes, kept, _⟩ :=
    flag_arithmetic_exact machine (.ok 0) 15 1 0x5 running word (by decide)
  refine ⟨after, cycled, ?_, kept 1 (by decide) (by decide)⟩
  cases computes with
  | subtract difference =>
    -- Nine is larger than three, so three is taken from one.
    have taken : (after.value flagRegister : Int) = (1 - 3) % 256 := difference.taken
    omega

end ChipEight.Machine
