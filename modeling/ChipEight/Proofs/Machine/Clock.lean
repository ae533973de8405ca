import ChipEight.Proofs.Instruction.Opcode
import ChipEight.Proofs.Machine.Step
import ChipEight.Proofs.Timers.Link

/-! What a step does to the timers, and that nothing else it does depends on them. -/

namespace ChipEight

namespace Instruction

/-- Whether the instruction puts the delay timer into a register. -/
def readsDelay {R : Type} : Instruction R → Bool
  | readDelay _ => true
  | _ => false

/-- What the instruction writes to the timers. -/
def timerWrites (machine : Machine) : Instruction (Fin registerCount) → List TimerUse
  | setDelay x => [.write .delay (machine.reg x)]
  | setSound x => [.write .sound (machine.reg x)]
  | _ => []

end Instruction

/-- The effect on a machine with other timers. -/
def Effect.withTimers (effect : Effect) (timers : Timers) : Effect :=
  { effect with machine := { effect.machine with timers } }

namespace Machine

open Nibbles Instruction

/-- An instruction that does not read the delay timer does the same whatever the timers show. -/
theorem effect_with_timers (machine : Machine) (timers : Timers) (offered : Offer)
    {instruction : Instruction (Fin registerCount)}
    (unread : instruction.readsDelay = true → machine.timers.delay = timers.delay) :
    { machine with timers }.effect offered instruction =
      (machine.effect offered instruction).map fun effect =>
        effect.withTimers (timers.useAll (instruction.timerWrites machine)) := by
  cases instruction with
  | readDelay x =>
    -- This is the one instruction that looks at a timer.
    show Except.ok (Effect.mk ({ machine with timers }.setReg x timers.delay) .next) = _
    rw [← unread rfl]
    rfl
  -- The others come to the same as before, on each of their branches.
  | ret =>
    simp only [effect_ret]
    cases machine.stack.frames <;> rfl
  | awaitKey x =>
    simp only [effect_awaitKey]
    cases machine.keypad.lowestHeld? <;> rfl
  | random x mask => cases offered <;> rfl
  -- What goes to memory fails on both machines or on neither.
  | draw x y height =>
    simp only [effect_draw]
    cases machine.memory.slice machine.index.toNat height.toNat <;> rfl
  | storeDecimal x | storeRegisters x =>
    rw [effect_stores rfl, effect_stores rfl, apply_ite (Except.map _)]
    rfl
  | loadRegisters x =>
    simp only [effect_loadRegisters]
    cases machine.memory.slice machine.index.toNat (x + 1) <;> rfl
  | _ => rfl

/--
What a step does to the timers: nothing unless a word is carried out, and otherwise what its
instruction writes to them, before they look at the clock.
-/
def timerUses (machine : Machine) (offered : Offer) (now : Nat) : List TimerUse :=
  if machine.halted then []
  else
    match machine.attempt offered with
    | .error _ => []
    | .ok _ => (decode machine.nextWord).timerWrites machine ++ [.look now]

/-- At whatever moments it is taken, a step does the same to the timers. -/
theorem timerUses_matches (machine : Machine) (offered : Offer)
    {moments : Nat → Nat → Prop} {now other : Nat} (together : moments now other) :
    List.Forall₂ (TimerUse.Matches moments) (machine.timerUses offered now)
      (machine.timerUses offered other) := by
  -- Whether the word fails does not depend on the moment.
  unfold timerUses
  split
  · exact .nil
  · split
    · exact .nil
    · -- Two instructions write to one timer each.
      cases decode machine.nextWord with
      | setDelay x | setSound x => exact .cons (.write _ _) (.cons (.look together) .nil)
      | _ => exact .cons (.look together) .nil

/-- The next step reads the delay timer. -/
structure ReadsDelay (machine : Machine) : Prop where
  running : machine.halted = false
  word : ∃ x, machine.nextWord = toWord ⟨0xF, x, 0x0, 0x7⟩

/-- A machine whose next instruction reads the delay timer has one of the words that do. -/
theorem readsDelay_of_decode {machine : Machine} (running : machine.halted = false)
    (reads : (decode machine.nextWord).readsDelay = true) : machine.ReadsDelay := by
  cases decoded : decode machine.nextWord with
  | readDelay x =>
    have row := (decode_eq_iff (by intro same; cases same)).mp decoded
    -- The table has one row for the instruction.
    generalize spelled : machine.nextWord = word at row
    cases row
    exact ⟨running, x, spelled⟩
  | _ =>
    rw [decoded] at reads
    cases reads

/--
A step of a running machine with other timers and another record differs in the timers alone, unless
it reads a delay timer that differs.
-/
theorem step_with_timers {machine : Machine} (running : machine.halted = false) (timers : Timers)
    (unread : machine.ReadsDelay → machine.timers.delay = timers.delay) (lastWord : UInt16)
    (lastAddress : UInt16) (offered : Offer) (now later : Nat) :
    { machine with lastWord, lastAddress, timers }.step offered later =
      { state := { (machine.step offered now).state with
          timers := timers.useAll (machine.timerUses offered later) }
        failure := (machine.step offered now).failure } := by
  -- The record is overwritten before the word is carried out.
  have attempted : { machine with lastWord, lastAddress, timers }.attempt offered =
      (machine.attempt offered).map fun effect => effect.withTimers
        (timers.useAll ((decode machine.nextWord).timerWrites machine)) :=
    machine.underway.effect_with_timers timers offered fun reads =>
      unread (readsDelay_of_decode running reads)
  have onward : { machine with lastWord, lastAddress, timers }.halted = false := running
  cases done : machine.attempt offered with
  | error fault =>
    rw [done] at attempted
    rw [step_of_error onward attempted, step_of_error running done]
    -- Nothing is done to the timers.
    have unused : machine.timerUses offered later = [] := by
      simp only [timerUses, running, done, Bool.false_eq_true, if_false]
    rw [unused]
    rfl
  | ok effect =>
    rw [done] at attempted
    rw [step_of_ok onward attempted, step_of_ok running done]
    have used : machine.timerUses offered later =
        (decode machine.nextWord).timerWrites machine ++ [.look later] := by
      simp only [timerUses, running, done, Bool.false_eq_true, if_false]
    rw [used, Timers.useAll_append]
    rfl

/-- What a step does to the timers of its machine. -/
theorem step_timers (machine : Machine) (offered : Offer) (now : Nat) :
    (machine.step offered now).state.timers =
      machine.timers.useAll (machine.timerUses offered now) := by
  -- The timers of a running machine are its own, put back in place.
  cases running : machine.halted with
  | true =>
    rw [step_of_halted running, timerUses, if_pos running]
    rfl
  | false =>
    have same := step_with_timers running machine.timers (fun _ => rfl) machine.lastWord
      machine.lastAddress offered now now
    exact congrArg (fun outcome => outcome.state.timers) same

/-- Two machines that are the same but for their records and their timers. -/
structure Agrees (machine other : Machine) : Prop where
  registers : machine.registers = other.registers
  index : machine.index = other.index
  pc : machine.pc = other.pc
  stack : machine.stack = other.stack
  memory : machine.memory = other.memory
  screen : machine.screen = other.screen
  keypad : machine.keypad = other.keypad

/-- Two machines that have the same word on record. -/
def SameRecord (machine other : Machine) : Prop :=
  machine.lastWord = other.lastWord ∧ machine.lastAddress = other.lastAddress

variable {machine other : Machine}

/-- A machine agrees with itself as it would be with other timers. -/
theorem agrees_withTimers (machine : Machine) (timers : Timers) :
    machine.Agrees { machine with timers } := ⟨rfl, rfl, rfl, rfl, rfl, rfl, rfl⟩

/-- A machine is one that it agrees with, but for its record and its timers. -/
theorem Agrees.eq_with (agrees : machine.Agrees other) :
    other = { machine with
      lastWord := other.lastWord, lastAddress := other.lastAddress, timers := other.timers } := by
  -- All other fields are equal one by one.
  obtain ⟨registers, index, pc, stack, memory, screen, keypad⟩ := agrees
  rw [registers, index, pc, stack, memory, screen, keypad]

/-- Machines that agree have the same word to carry out next, if any. -/
theorem Agrees.halted (agrees : machine.Agrees other) : machine.halted = other.halted := by
  rw [Machine.halted, agrees.pc, Machine.halted]

/-- Machines that agree have the same next word. -/
theorem Agrees.nextWord (agrees : machine.Agrees other) :
    machine.nextWord = other.nextWord := by
  rw [Machine.nextWord, agrees.pc, agrees.memory, Machine.nextWord]

/-- Of machines that agree, both read the delay timer next or neither. -/
theorem Agrees.readsDelay (agrees : machine.Agrees other) (reads : other.ReadsDelay) :
    machine.ReadsDelay := by
  obtain ⟨running, x, word⟩ := reads
  exact ⟨agrees.halted.trans running, x, agrees.nextWord.trans word⟩

/--
A step at any moments fails alike on two machines that agree, which agree after it. They have the
same word on record if they had before or if one was carried out.
-/
theorem Agrees.step (agrees : machine.Agrees other)
    (unread : machine.ReadsDelay → machine.timers.delay = other.timers.delay)
    (offered : Offer) (now later : Nat) :
    (machine.step offered now).failure = (other.step offered later).failure ∧
      (machine.step offered now).state.Agrees (other.step offered later).state ∧
      (machine.halted = false ∨ machine.SameRecord other →
        (machine.step offered now).state.SameRecord (other.step offered later).state) ∧
      (other.step offered later).state.timers =
        other.timers.useAll (machine.timerUses offered later) := by
  cases running : machine.halted with
  | true =>
    -- Neither machine does anything.
    have rests : other.halted = true := agrees.halted.symm.trans running
    rw [step_of_halted running, step_of_halted rests, timerUses, if_pos running]
    refine ⟨rfl, agrees, fun same => ?_, rfl⟩
    rcases same with onward | same
    · cases onward
    · exact same
  | false =>
    -- The step overwrites both records with the same word.
    rw [agrees.eq_with, step_with_timers running other.timers unread _ _ offered now later]
    exact ⟨rfl, ⟨rfl, rfl, rfl, rfl, rfl, rfl, rfl⟩, fun _ => ⟨rfl, rfl⟩, rfl⟩

end Machine

end ChipEight
