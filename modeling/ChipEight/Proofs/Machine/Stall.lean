import ChipEight.Machine.Stall
import ChipEight.Proofs.Machine.Step

/-! Dead ends, which a program never leaves, and what the watch on stalls sees of each. -/

namespace ChipEight.Machine

open Instruction

/-- The machine without its timers, and so without all that the clock can change. -/
def timeless (machine : Machine) : Machine := { machine with timers := {} }

/-- What a step of a dead end leaves, timers apart: the machine with its word in the record. -/
def resting (machine : Machine) : Machine := if machine.halted then machine else machine.noted

/-- A machine that goes on rests with its next word in the record. -/
theorem resting_of_running {machine : Machine} (running : machine.halted = false) :
    machine.resting = machine.noted := by
  simp only [resting, running, Bool.false_eq_true, if_false]

/-- A machine at rest stays so, whatever its timers do. -/
theorem resting_resting (machine : Machine) (timers : Timers) :
    { machine.resting with timers }.resting = { machine.resting with timers } := by
  cases running : machine.halted with
  | true =>
    -- There is no word to put on record.
    have halted : { machine with timers }.halted = true := running
    have same : machine.resting = machine := if_pos running
    rw [same]
    exact if_pos halted
  | false =>
    -- The word is put on record once, and the second record says the same.
    have onward : { machine.noted with timers }.halted = false := running
    rw [resting_of_running running, resting_of_running onward]
    rfl

/-- A machine that cannot get any further, with the reason that is seen when it has tried. -/
inductive DeadEnd (machine : Machine) : Option Stall → Prop where
  /-- There is no next word. -/
  | ranOff (halted : machine.halted = true) : DeadEnd machine (some .ranOff)
  /-- The next word is a jump to itself. -/
  | selfJump (running : machine.halted = false)
      (word : decode machine.nextWord = .jump machine.pc) : DeadEnd machine (some .selfJump)
  /-- The next word waits for a key, and none is held. -/
  | keyWait (running : machine.halted = false) (x : Fin registerCount)
      (word : decode machine.nextWord = .awaitKey x)
      (free : machine.keypad.lowestHeld? = none) : DeadEnd machine (some .keyWait)
  /-- The next word is an indexed jump to itself, which nobody looks for. -/
  | indexedJump (running : machine.halted = false) (base : UInt16)
      (word : decode machine.nextWord = .jumpIndexed base)
      (target : base + (machine.reg jumpRegister).toUInt16 = machine.pc) : DeadEnd machine none

/-- A dead end is one whatever its record and its timers are. -/
theorem DeadEnd.resting {machine : Machine} {seen : Option Stall} (deadEnd : machine.DeadEnd seen)
    (timers : Timers) : DeadEnd { machine.resting with timers } seen := by
  -- Neither the record nor the timers take part in what makes a dead end.
  cases deadEnd with
  | ranOff halted =>
    rw [Machine.resting, if_pos halted]
    exact .ranOff halted
  | selfJump running word =>
    rw [resting_of_running running]
    exact .selfJump running word
  | keyWait running x word free =>
    rw [resting_of_running running]
    exact .keyWait running x word free
  | indexedJump running base word target =>
    rw [resting_of_running running]
    exact .indexedJump running base word target

/-- A step of a dead end succeeds and leads nowhere. -/
theorem DeadEnd.step_eq {machine : Machine} {seen : Option Stall} (deadEnd : machine.DeadEnd seen)
    (offered : Offer) (now : Nat) :
    ∃ timers, machine.step offered now = { state := { machine.resting with timers } } := by
  cases deadEnd with
  -- Off the end there is nothing to carry out, and not even the timers go on.
  | ranOff halted =>
    rw [Machine.resting, if_pos halted]
    exact ⟨machine.timers, step_of_halted halted⟩
  | selfJump running word =>
    -- The jump changes nothing and goes to where it is.
    have done : machine.attempt offered =
        .ok { machine := machine.underway, flow := .jump machine.pc } := by
      rw [attempt, word]
      rfl
    rw [resting_of_running running]
    exact ⟨_, step_of_ok running done⟩
  | keyWait running x word free =>
    -- Without a key the same instruction is next.
    have done : machine.attempt offered = .ok { machine := machine.underway, flow := .again } := by
      have none_held : machine.underway.keypad.lowestHeld? = none := free
      rw [attempt, word, effect_awaitKey, none_held]
    rw [resting_of_running running]
    exact ⟨_, step_of_ok running done⟩
  | indexedJump running base word target =>
    -- The sum is the address of the jump.
    have done : machine.attempt offered =
        .ok { machine := machine.underway, flow := .jump machine.pc } := by
      rw [attempt, word, ← target]
      rfl
    rw [resting_of_running running]
    exact ⟨_, step_of_ok running done⟩

/-- The watch judges a machine at rest by its word and its keys. -/
theorem stall?_noted {machine : Machine} (running : machine.halted = false) :
    machine.noted.stall? = match decode machine.nextWord with
      | .jump _ => some .selfJump
      | .awaitKey _ => if machine.keypad.lowestHeld?.isNone then some .keyWait else none
      | _ => none := by
  -- The word in the record is the one at the program counter.
  have onward : ¬ machine.noted.halted = true := by
    intro halted
    exact absurd (running.symm.trans halted) (by decide)
  have still : machine.noted.pc = machine.noted.lastAddress := rfl
  rw [stall?, if_neg onward, if_neg (not_not_intro still)]
  rfl

/-- The watch sees every dead end but the indexed jump once its word is in the record. -/
theorem DeadEnd.stall?_resting {machine : Machine} {seen : Option Stall}
    (deadEnd : machine.DeadEnd seen) : machine.resting.stall? = seen := by
  -- The reason that is seen is the one that made the dead end, if anybody looks for it.
  cases deadEnd with
  | ranOff halted => rw [Machine.resting, if_pos halted, stall?, if_pos halted]
  | selfJump running word => rw [resting_of_running running, stall?_noted running, word]
  | keyWait running x word free =>
    rw [resting_of_running running, stall?_noted running, word, free]
    rfl
  | indexedJump running base word target =>
    rw [resting_of_running running, stall?_noted running, word]

/-- All that a program can tell of two machines but the keys and the time is the same. -/
structure Unmoved (before after : Machine) : Prop where
  registers : after.registers = before.registers
  index : after.index = before.index
  pc : after.pc = before.pc
  stack : after.stack = before.stack
  memory : after.memory = before.memory
  screen : after.screen = before.screen

/-- Nothing that a program can tell changes at rest. -/
theorem unmoved_resting (machine : Machine) (timers : Timers) :
    machine.Unmoved { machine.resting with timers } := by
  -- At most the record is another one, and no program can tell what is in it.
  cases running : machine.halted with
  | true =>
    rw [resting, if_pos running]
    exact ⟨rfl, rfl, rfl, rfl, rfl, rfl⟩
  | false =>
    rw [resting_of_running running]
    exact ⟨rfl, rfl, rfl, rfl, rfl, rfl⟩

/-- No address is its own successor or the one after that. -/
theorem target_ne_of_onward {flow : Flow} (onward : flow = .next ∨ flow = .skip)
    (address : UInt16) : flow.target address ≠ address := by
  intro same
  -- Even past the highest address, where they start again, addresses two or four apart differ.
  have number := congrArg UInt16.toNat same
  have small := address.toNat_lt
  rcases onward with rfl | rfl
  · simp only [Flow.target, UInt16.toNat_add, UInt16.reduceToNat] at number
    omega
  · simp only [Flow.target, UInt16.toNat_add, UInt16.reduceToNat] at number
    omega

/-- A step that succeeds and changes nothing is one of a dead end. -/
theorem deadEnd_of_unmoved {machine : Machine} {offered : Offer} {now : Nat}
    (succeeded : (machine.step offered now).failure = none)
    (unmoved : machine.Unmoved (machine.step offered now).state) :
    ∃ seen, machine.DeadEnd seen := by
  cases running : machine.halted with
  | true => exact ⟨_, .ranOff running⟩
  | false =>
    cases done : machine.attempt offered with
    | error fault =>
      -- A failed step does not count, although it changes nothing either.
      rw [step_of_error running done] at succeeded
      cases succeeded
    | ok effect =>
      rw [step_of_ok running done] at unmoved
      have place : effect.flow.target machine.pc = machine.pc := unmoved.pc
      have calls : effect.machine.stack = machine.stack := unmoved.stack
      -- Of the five instructions that do not lead past themselves, two change the stack.
      have departure := departure_of_effect done
      generalize word : decode machine.nextWord = instruction at departure
      cases departure with
      | onward flow => exact absurd place (target_ne_of_onward flow _)
      | jump target =>
        have itself : target = machine.pc := place
        exact ⟨_, .selfJump running (itself ▸ word)⟩
      | jumpIndexed base => exact ⟨_, .indexedJump running base word place⟩
      | awaitKey x free => exact ⟨_, .keyWait running x word free⟩
      | call target =>
        -- There is one more call under way.
        have longer := congrArg CallStack.depth calls
        simp [CallStack.depth, CallStack.push, underway, begin] at longer
      | ret address rest called =>
        -- There is one call less under way.
        have shorter := congrArg CallStack.depth calls
        have frames : machine.stack.frames = address :: rest := called
        simp [CallStack.depth, frames] at shorter

/--
The record can be trusted about stalls: a word that can be the sign of one still stands where it was
carried out, and a jump went to its target. Only the words themselves, not the keys, are recorded.
-/
def Recorded (machine : Machine) : Prop :=
  match decode machine.lastWord with
  | .jump target =>
    machine.memory.wordAt machine.lastAddress.toNat = machine.lastWord ∧ machine.pc = target
  | .awaitKey _ => machine.memory.wordAt machine.lastAddress.toNat = machine.lastWord
  | _ => True

/-- A word that stands for no instruction is no sign of a stall. -/
theorem recorded_of_unknown {machine : Machine} {word : UInt16}
    (unknown : decode machine.lastWord = .unknown word) : machine.Recorded := by
  rw [Recorded, unknown]
  trivial

/-- A record of the word at the program counter is there already if it is the last one. -/
theorem noted_eq_self {machine : Machine} (word : machine.nextWord = machine.lastWord)
    (place : machine.pc = machine.lastAddress) : machine.noted = machine := by
  rw [noted, word]
  -- The two fields that are set hold these values already.
  exact congrArg (fun address => { machine with lastAddress := address }) place

/-- A machine that is seen to stall, by a record to trust, is at a dead end and at rest. -/
theorem deadEnd_of_stalled {machine : Machine} (recorded : machine.Recorded) {why : Stall}
    (stalled : machine.stall? = some why) :
    machine.DeadEnd (some why) ∧ machine.resting = machine := by
  cases running : machine.halted with
  | true =>
    -- Off the end there is one reason to be seen.
    rw [stall?, if_pos running] at stalled
    cases stalled
    exact ⟨.ranOff running, if_pos running⟩
  | false =>
    by_cases place : machine.pc = machine.lastAddress
    · -- If the word on record still stands where it was, it is the next one as well.
      have standing : machine.memory.wordAt machine.lastAddress.toNat = machine.lastWord →
          machine.nextWord = machine.lastWord := by
        rw [nextWord, place]
        exact id
      simp only [stall?, running, Bool.false_eq_true, if_false, place, ne_eq, not_true_eq_false]
        at stalled
      unfold Recorded at recorded
      rw [resting_of_running running]
      split at stalled
      · -- A jump on record went to its target, which is where the program is.
        rename_i target word
        rw [word] at recorded
        obtain ⟨stands, went⟩ := recorded
        cases stalled
        refine ⟨.selfJump running ?_, noted_eq_self (standing stands) place⟩
        rw [standing stands, word, went]
      · -- A wait on record counts while no key is held.
        rename_i x word
        rw [word] at recorded
        split at stalled
        · rename_i free
          cases stalled
          refine ⟨.keyWait running x ?_ (Option.isNone_iff_eq_none.mp free),
            noted_eq_self (standing recorded) place⟩
          rw [standing recorded, word]
        · cases stalled
      · -- No other word is a sign of a stall.
        cases stalled
    · -- A program that moved on is not stuck.
      simp only [stall?, running, Bool.false_eq_true, if_false, if_pos place] at stalled
      cases stalled

/-- Every step, whether or not it fails, leaves a record to trust. -/
theorem Recorded.step {machine : Machine} (recorded : machine.Recorded) (offered : Offer)
    (now : Nat) : (machine.step offered now).state.Recorded := by
  -- The word on record is the one that was carried out, so it is asked what that does.
  have outcome := machine.stepped offered now
  generalize machine.step offered now = result at outcome ⊢
  cases outcome with
  | halted => exact recorded
  | failed running failed =>
    show Recorded machine.noted
    rw [Recorded, show machine.noted.lastWord = machine.nextWord from rfl]
    -- Neither a jump nor a wait can fail.
    cases word : decode machine.nextWord with
    | jump target =>
      rw [attempt, word] at failed
      cases failed
    | awaitKey x =>
      rw [attempt, word, effect_awaitKey] at failed
      split at failed <;> cases failed
    | _ => trivial
  | @done effect running done =>
    have last : (machine.settled effect now).lastWord = machine.nextWord := (effect_keeps done).1
    have place : (machine.settled effect now).lastAddress = machine.pc := (effect_keeps done).2.1
    show Recorded (machine.settled effect now)
    rw [Recorded, last, place]
    -- Neither a jump nor a wait writes to memory.
    cases word : decode machine.nextWord with
    | jump target =>
      rw [attempt, word] at done
      cases done
      exact ⟨rfl, rfl⟩
    | awaitKey x =>
      rw [attempt, word, effect_awaitKey] at done
      split at done <;> cases done <;> rfl
    | _ => trivial

end ChipEight.Machine
