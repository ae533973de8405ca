import ChipEight.Proofs.Instruction.Opcode
import ChipEight.Proofs.Machine.Step

/-! Steps that fail: which words do, what they leave, and that trying again changes nothing. -/

namespace ChipEight.Machine

open Nibbles Instruction

/-- The words that fail on a machine, by their digits, and what each of them fails for. -/
inductive Fails (machine : Machine) (offered : Offer) : UInt16 → Fault → Prop where
  /-- A return fails without a call to return from. -/
  | ret (empty : machine.stack.frames = []) : Fails machine offered 0x00EE .stackUnderflow
  /-- A random number fails without an answer of the random source. -/
  | random (x y n : Fin 16) {reason : String} (silent : offered = .error reason) :
    Fails machine offered (toWord ⟨0xC, x, y, n⟩) (.noRandomByte reason)
  /-- A sprite fails past the end of memory, and one without rows fails if the index is. -/
  | draw (x y n : Fin 16) (past : 0x1000 < machine.index.toNat + n) :
    Fails machine offered (toWord ⟨0xD, x, y, n⟩)
      (.outOfBounds .memory (machine.index.toNat + n - 1))
  /-- Three decimal digits fail past the end of memory. -/
  | storeDecimal (x : Fin 16) (past : 0x1000 < machine.index.toNat + 3) :
    Fails machine offered (toWord ⟨0xF, x, 0x3, 0x3⟩)
      (.outOfBounds .memory (machine.index.toNat + 3 - 1))
  /-- Registers to be written fail past the end of memory. -/
  | storeRegisters (x : Fin 16) (past : 0x1000 < machine.index.toNat + (x + 1)) :
    Fails machine offered (toWord ⟨0xF, x, 0x5, 0x5⟩)
      (.outOfBounds .memory (machine.index.toNat + (x + 1) - 1))
  /-- Registers to be read fail past the end of memory. -/
  | loadRegisters (x : Fin 16) (past : 0x1000 < machine.index.toNat + (x + 1)) :
    Fails machine offered (toWord ⟨0xF, x, 0x6, 0x5⟩)
      (.outOfBounds .memory (machine.index.toNat + (x + 1) - 1))

/-- The words that fail are those whose instructions are refused. -/
theorem fails_iff {machine : Machine} {offered : Offer} {word : UInt16} {fault : Fault} :
    machine.Fails offered word fault ↔ machine.Refusal offered (decode word) fault := by
  constructor
  · intro fails
    -- Each of these words has a row in the table.
    cases fails with
    | ret empty =>
      rw [Opcode.ret.decode_eq]
      exact .underflow empty
    | random x y n silent =>
      rw [(Opcode.random x y n).decode_eq]
      exact .exhausted x _ silent
    | draw x y n past =>
      rw [(Opcode.draw x y n).decode_eq]
      exact .beyond (congrArg some (toNat_rows n)) past
    | storeDecimal x past =>
      rw [(Opcode.storeDecimal x).decode_eq]
      exact .beyond rfl past
    | storeRegisters x past =>
      rw [(Opcode.storeRegisters x).decode_eq]
      exact .beyond rfl past
    | loadRegisters x past =>
      rw [(Opcode.loadRegisters x).decode_eq]
      exact .beyond rfl past
  · -- In the other direction the table is read from the instruction to the word.
    intro refusal
    have row : Opcode word (decode word) ∨ decode word = .unknown word := listed word
    generalize decode word = instruction at refusal row
    rcases row with row | unknown
    · -- The row that the instruction stands in has its word.
      cases refusal with
      | underflow empty => cases row; exact .ret empty
      | exhausted x mask silent => cases row; exact .random x _ _ silent
      | beyond reached past =>
        -- Four rows of the table go to memory.
        cases row with
        | draw x y n =>
          have height : (UInt8.ofNat n).toNat = _ := Option.some.inj reached
          rw [toNat_rows] at height
          subst height
          exact .draw x y n past
        | storeDecimal x => cases reached; exact .storeDecimal x past
        | storeRegisters x => cases reached; exact .storeRegisters x past
        | loadRegisters x => cases reached; exact .loadRegisters x past
        | _ => cases reached
    · -- A word without a row is passed over.
      subst unknown
      cases refusal with
      | beyond reached past => cases reached

/-- What is refused depends on the calls under way and the index alone. -/
theorem Refusal.congr {machine other : Machine} {offered : Offer}
    {instruction : Instruction (Fin registerCount)} {fault : Fault}
    (refusal : machine.Refusal offered instruction fault)
    (stack : other.stack = machine.stack) (index : other.index = machine.index) :
    other.Refusal offered instruction fault := by
  -- Neither registers nor memory are looked at before something is refused.
  cases refusal with
  | underflow empty => exact .underflow (stack ▸ empty)
  | exhausted x mask silent => exact .exhausted x mask silent
  | beyond reached past =>
    rw [← index] at past ⊢
    exact .beyond reached past

/-- What is not refused for want of a random number is refused whatever the random source says. -/
theorem Refusal.any_offer {machine : Machine} {offered other : Offer}
    {instruction : Instruction (Fin registerCount)} {fault : Fault}
    (refusal : machine.Refusal offered instruction fault)
    (lasting : ∀ reason, fault ≠ .noRandomByte reason) :
    machine.Refusal other instruction fault := by
  -- A return and an access to memory do not ask the random source.
  cases refusal with
  | underflow empty => exact .underflow empty
  -- This is the one cause that can pass.
  | exhausted => exact absurd rfl (lasting _)
  | beyond reached past => exact .beyond reached past

/-- The next word fails when its instruction is refused. -/
theorem attempt_eq_error_iff {machine : Machine} {offered : Offer} {fault : Fault} :
    machine.attempt offered = .error fault ↔ machine.Fails offered machine.nextWord fault := by
  -- The record of the word is neither a call nor the index.
  rw [fails_iff, attempt, effect_eq_error_iff]
  exact ⟨fun refusal => refusal.congr rfl rfl, fun refusal => refusal.congr rfl rfl⟩

/-- A step fails when its word does. -/
theorem step_failure_iff {machine : Machine} {offered : Offer} {now : Nat} {fault : Fault}
    (running : machine.halted = false) :
    (machine.step offered now).failure = some fault ↔
      machine.Fails offered machine.nextWord fault := by
  rw [← attempt_eq_error_iff]
  -- What becomes of the word becomes of the step.
  cases done : machine.attempt offered with
  | error cause => simp [step_of_error running done]
  | ok effect => simp [step_of_ok running done]

/-- A step that fails for good fails in the same way at the next try, and then nothing changes. -/
theorem step_noted_of_fails {machine : Machine} {offered again : Offer} {fault : Fault}
    (running : machine.halted = false) (fails : machine.Fails offered machine.nextWord fault)
    (lasting : ∀ reason, fault ≠ .noRandomByte reason) (now : Nat) :
    machine.noted.step again now = { state := machine.noted, failure := some fault } := by
  -- The record leaves the next word as it was, and a second record of it is the first.
  have refusal : machine.noted.Refusal again (decode machine.nextWord) fault :=
    ((fails_iff.mp fails).any_offer lasting).congr rfl rfl
  have failed : machine.noted.attempt again = .error fault :=
    attempt_eq_error_iff.mpr (fails_iff.mpr refusal)
  exact step_of_error running failed

/-- The outcomes of steps tried one after the other, whether or not they fail. -/
def retries (machine : Machine) : List (Offer × Nat) → List (Outcome Fault Machine)
  | [] => []
  | (offered, now) :: later =>
    let outcome := machine.step offered now
    outcome :: outcome.state.retries later

/-- A machine whose steps all come out as itself has only that one outcome. -/
theorem mem_retries {machine : Machine} {fixed : Outcome Fault Machine}
    (same : fixed.state = machine)
    (always : ∀ offered now, machine.step offered now = fixed)
    (later : List (Offer × Nat)) : ∀ again ∈ machine.retries later, again = fixed := by
  -- Each try starts where the one before left off, which is the same machine.
  induction later with
  | nil => intro again member; cases member
  | cons moment later ih =>
    -- The first outcome is the fixed one, and it leaves the machine that the others start from.
    obtain ⟨offered, now⟩ := moment
    intro again member
    rw [retries, always offered now, same] at member
    rcases List.mem_cons.mp member with first | member
    · exact first
    · exact ih again member

/--
A step fails for the listed words alone. It then leaves everything but the record of the word as it
was, and unless it failed for want of a random number, so does every further try.
-/
theorem step_failure_atomic (machine : Machine) (running : machine.pc ≤ 0x0FFE)
    (offered : Offer) (now : Nat) :
    (∀ fault, (machine.step offered now).failure = some fault ↔
      machine.Fails offered machine.nextWord fault) ∧
    ((machine.step offered now).failure ≠ none →
      (machine.step offered now).state =
        { machine with lastWord := machine.nextWord, lastAddress := machine.pc }) ∧
    (∀ fault, (machine.step offered now).failure = some fault →
      (∀ reason, fault ≠ .noRandomByte reason) →
      ∀ later, ∀ again ∈ (machine.step offered now).state.retries later,
        again = machine.step offered now) := by
  have onward : machine.halted = false := halted_eq_false_iff.mpr running
  refine ⟨fun fault => step_failure_iff onward, ?_, ?_⟩
  · intro failed
    -- Only the branch that fails is left to be looked at.
    cases done : machine.attempt offered with
    | error fault => rw [step_of_error onward done]; rfl
    | ok effect => rw [step_of_ok onward done] at failed; exact absurd rfl failed
  · intro fault failed lasting later
    -- The record is there after the first try, so the tries that follow all start alike.
    have fails := (step_failure_iff onward).mp failed
    rw [step_of_error onward (attempt_eq_error_iff.mpr fails)]
    exact mem_retries rfl (fun again at_ => step_noted_of_fails onward fails lasting at_) later

/--
A sprite of thirteen rows fails one byte before the end of memory, with the flag as it was, and
fails twice more.
-/
theorem step_failure_atomic_sprite :
    let machine : Machine :=
      { registers := Vector.replicate _ 7, index := 0x0FFF, memory := ⟨Vector.replicate _ 0xDD⟩ }
    machine.pc ≤ 0x0FFE ∧
      (machine.step (.ok 0) 0).failure = some (.outOfBounds .memory 0x100B) ∧
      (machine.step (.ok 0) 0).state = { machine with lastWord := 0xDDDD, lastAddress := 0x200 } ∧
      ∀ again ∈ (machine.step (.ok 0) 0).state.retries [(.error "no answer", 1), (.ok 7, 20000000)],
        again = machine.step (.ok 0) 0 := by
  intro machine
  have running : machine.pc ≤ 0x0FFE := by decide
  obtain ⟨fails, recorded, lasting⟩ := step_failure_atomic machine running (.ok 0) 0
  -- All of memory holds one byte, so the word does not depend on its address.
  have word : machine.nextWord = 0xDDDD := by
    simp only [nextWord, Memory.wordAt, machine, Vector.getElem?_replicate]
    decide
  have failed : (machine.step (.ok 0) 0).failure = some (.outOfBounds .memory 0x100B) := by
    rw [fails, word]
    exact .draw 0xD 0xD 0xD (by decide)
  refine ⟨running, failed, ?_, lasting _ failed (by simp) _⟩
  rw [recorded (by rw [failed]; decide), word]

end ChipEight.Machine
