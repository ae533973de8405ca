import ChipEight.Memory.Laws
import ChipEight.Proofs.Machine.Stall

/-! The machines that a program can run on, from the moment at which it was loaded. -/

namespace ChipEight.Machine

/-- A machine before its first step: switched on, with a program in memory and any keys held. -/
def Fresh (machine : Machine) : Prop :=
  ∃ now rom loaded keypad,
    (switchedOn now).load rom = { state := loaded } ∧ machine = { loaded with keypad }

/-- The machines that steps lead to, with keys held and let go in between. -/
inductive Reachable : Machine → Prop where
  /-- A program was loaded. -/
  | fresh {machine : Machine} (fresh : machine.Fresh) : Reachable machine
  /-- A step succeeded. -/
  | step {machine : Machine} (reached : Reachable machine) (offered : Offer) (now : Nat)
      (succeeded : (machine.step offered now).failure = none) :
    Reachable (machine.step offered now).state
  /-- A key was held or let go, if there was one of that number. -/
  | key {machine : Machine} (reached : Reachable machine) (key : Nat) (held : Bool) :
    Reachable (machine.setKey key held).state

/-- A program that fits changes memory alone. -/
theorem load_of_fits (machine : Machine) {rom : Bytes} (fits : rom.size ≤ maxRomSize) :
    machine.load rom = { state := { machine with
      memory := ⟨Memory.install machine.memory.cells rom⟩ } } := by
  -- All but memory is put back as it was.
  rw [load, Memory.load_of_fits _ fits]
  rfl

/-- A program that does not fit changes nothing. -/
theorem load_of_large (machine : Machine) {rom : Bytes} (large : maxRomSize < rom.size) :
    machine.load rom = { state := machine, failure := some (.romTooLarge rom.size) } := by
  -- Memory is put back as well.
  rw [load, Memory.load_of_large _ large]
  rfl

/-- A program that was loaded fits, and changed memory alone. -/
theorem load_eq_iff {machine loaded : Machine} {rom : Bytes} :
    machine.load rom = { state := loaded } ↔ rom.size ≤ maxRomSize ∧
      loaded = { machine with memory := ⟨Memory.install machine.memory.cells rom⟩ } := by
  rcases Nat.lt_or_ge maxRomSize rom.size with large | fits
  · -- The fault is missing on the other side.
    rw [load_of_large machine large]
    exact iff_of_false (fun same => nomatch congrArg Outcome.failure same)
      fun both => Nat.not_le_of_lt large both.1
  · rw [load_of_fits machine fits, Outcome.mk.injEq]
    exact ⟨fun same => ⟨fits, same.1.symm⟩, fun both => ⟨both.2.symm, rfl⟩⟩

/-- A machine that was switched on, with a program in place and keys held. -/
def booted (now : Nat) (rom : Bytes) (keypad : Keypad) : Machine :=
  { switchedOn now with memory := ⟨Memory.install Memory.fresh.cells rom⟩, keypad }

/-- The fresh machines are those that hold a program that fits. -/
theorem fresh_iff {machine : Machine} :
    machine.Fresh ↔ ∃ now rom keypad, rom.size ≤ maxRomSize ∧ machine = booted now rom keypad := by
  constructor
  · -- A load that was told of as a success is one of a program that fits.
    rintro ⟨now, rom, loaded, keypad, placed, rfl⟩
    obtain ⟨fits, rfl⟩ := load_eq_iff.mp placed
    exact ⟨now, rom, keypad, fits, rfl⟩
  · rintro ⟨now, rom, keypad, fits, rfl⟩
    exact ⟨now, rom, _, keypad, load_of_fits _ fits, rfl⟩

/-- The words of a program are spelled by its bytes, zeros coming after the last. -/
theorem wordAt_booted (now : Nat) (rom : Bytes) (keypad : Keypad) (offset : Nat)
    (inside : programStart + offset + 1 < memorySize) :
    (booted now rom keypad).memory.wordAt (programStart + offset) =
      Memory.wordOf ((rom.get? offset).getD 0) ((rom.get? (offset + 1)).getD 0) := by
  -- Both bytes lie in the part of memory where programs are put in place.
  have placed : ∀ place, programStart + place < memorySize →
      (booted now rom keypad).memory.cells[programStart + place]? =
        some ((rom.get? place).getD 0) := by
    intro place near
    have past : ¬ programStart + place < programStart := by omega
    rw [Vector.getElem?_eq_getElem near, booted, Memory.getElem_install, if_neg past,
      Nat.add_sub_cancel_left]
  rw [Memory.wordAt, Nat.add_assoc, placed offset (by omega), placed (offset + 1) inside]
  rfl

/-- The first word to be carried out is spelled by the first two bytes of the program. -/
theorem nextWord_booted (now : Nat) (rom : Bytes) (keypad : Keypad) :
    (booted now rom keypad).nextWord =
      Memory.wordOf ((rom.get? 0).getD 0) ((rom.get? 1).getD 0) := by
  -- A machine starts at the address at which programs are put in place.
  show (booted now rom keypad).memory.wordAt (programStart + 0) = _
  rw [wordAt_booted now rom keypad 0 (by decide)]

/-- Before the first step there is no sign of a stall in the record. -/
theorem Fresh.recorded {machine : Machine} (fresh : machine.Fresh) : machine.Recorded := by
  obtain ⟨now, rom, keypad, fits, rfl⟩ := fresh_iff.mp fresh
  -- The record starts with a zero, which is no instruction.
  have word : Instruction.decode 0 = .unknown 0 := by decide
  exact recorded_of_unknown word

/-- Before the first step no stall is seen. -/
theorem Fresh.stall?_eq_none {machine : Machine} (fresh : machine.Fresh) :
    machine.stall? = none := by
  obtain ⟨now, rom, keypad, fits, rfl⟩ := fresh_iff.mp fresh
  -- The program counter is not at zero, which is where the record says that it was.
  rfl

/-- The record of a machine that steps lead to can be trusted. -/
theorem Reachable.recorded {machine : Machine} (reached : machine.Reachable) :
    machine.Recorded := by
  induction reached with
  | fresh fresh => exact fresh.recorded
  | step _ offered now _ ih => exact ih.step offered now
  -- The keys are not part of the record.
  | key _ key held ih => exact ih

end ChipEight.Machine
