import ChipEight.Proofs.Console.KeyLatch
import ChipEight.Proofs.Instruction.Opcode
import ChipEight.Proofs.Timers.History

/-! A program that waits for a key stands still, but for its timers, until a step finds one held. -/

namespace ChipEight

/-- A use that passes the time of a wait for a key. -/
inductive Use.Waits {console : Console} : Use console → Prop where
  /-- A step is taken while no key is held. -/
  | step (now : Nat) (free : ∀ key, console.machine.keypad.holds key = false) : Waits (.step now)
  | setKey (key : Nat) (held : Bool) : Waits (.setKey key held)
  | setKeyThrough (handle : console.KeyHandle) (key : Nat) (held : Bool) :
    Waits (.setKeyThrough handle key held)
  | releaseKeys : Waits .releaseKeys
  | connectKeys : Waits .connectKeys
  | duplicateKeys (source : console.KeyHandle) : Waits (.duplicateKeys source)

/-- The moment of a step. -/
def Use.moment? {console : Console} : Use console → Option Nat
  | step now => some now
  | _ => none

/-- The moments of all steps among the uses. -/
def Usage.moments {start later : Console} : Usage start later → List Nat
  | nothing => []
  | andThen before use => before.moments ++ use.moment?.toList

namespace Machine

open Nibbles Instruction

/--
What a wait with steps at some moments leaves of a machine. Registers, index, program counter,
stack, memory and screen are as they were, and the timers looked at the clock at each of the
moments.
-/
def Waited (start : Machine) (moments : List Nat) (later : Machine) : Prop :=
  ∃ lastWord lastAddress keypad, later = { start with
    lastWord, lastAddress, keypad, timers := moments.foldl Timers.update start.timers }

variable {start machine later : Machine} {x : Fin 16} {moments : List Nat}

/-- The word that waits for a key comes to itself again while none is held. -/
theorem step_of_free (running : machine.halted = false)
    (word : machine.nextWord = toWord ⟨0xF, x, 0x0, 0xA⟩)
    (free : machine.keypad.lowestHeld? = none) (offered : Offer) (now : Nat) :
    machine.step offered now =
      { state := { machine.noted with timers := machine.timers.update now } } := by
  have done : machine.attempt offered = .ok { machine := machine.underway, flow := .again } := by
    rw [attempt, word, (Opcode.awaitKey x).decode_eq, effect_awaitKey]
    -- The record of the word is not where the keys are.
    rw [show machine.underway.keypad.lowestHeld? = none from free]
  -- The step leaves the program counter on the word and looks at the clock.
  rw [step_of_ok running done]
  rfl

/-- It puts the lowest key into its register once there is one, and goes on to the next word. -/
theorem step_of_held (running : machine.halted = false)
    (word : machine.nextWord = toWord ⟨0xF, x, 0x0, 0xA⟩) {key : Fin keyCount}
    (held : machine.keypad.lowestHeld? = some key) (offered : Offer) (now : Nat) :
    machine.step offered now =
      { state := { machine.noted.setReg x (UInt8.ofNat key) with
          pc := machine.pc + 2, timers := machine.timers.update now } } := by
  have done : machine.attempt offered =
      .ok { machine := machine.underway.setReg x (UInt8.ofNat key) } := by
    rw [attempt, word, (Opcode.awaitKey x).decode_eq, effect_awaitKey]
    rw [show machine.underway.keypad.lowestHeld? = some key from held]
  -- The step goes on to the next word and looks at the clock as well.
  rw [step_of_ok running done]
  rfl

/-- Before anything was waited for all is as it was. -/
theorem waited_nil (start : Machine) : start.Waited [] start := ⟨_, _, _, rfl⟩

/-- What is done at no moment leaves the moments as they are. -/
theorem Waited.timeless (waited : start.Waited moments later) :
    start.Waited (moments ++ []) later := by
  rw [List.append_nil]
  exact waited

/-- A machine that waits goes on as long as it did before. -/
theorem Waited.halted (waited : start.Waited moments later) : later.halted = start.halted := by
  obtain ⟨lastWord, lastAddress, keypad, rfl⟩ := waited
  rfl

/-- A machine that waits stands before the same word as at first. -/
theorem Waited.nextWord (waited : start.Waited moments later) :
    later.nextWord = start.nextWord := by
  -- Neither the program counter nor memory is among what a wait changes.
  obtain ⟨lastWord, lastAddress, keypad, rfl⟩ := waited
  rfl

/-- It is of no matter to the wait which keys are held and let go. -/
theorem Waited.keyed (waited : start.Waited moments later) (keypad : Keypad) :
    start.Waited moments { later with keypad } := by
  obtain ⟨lastWord, lastAddress, _, rfl⟩ := waited
  exact ⟨lastWord, lastAddress, keypad, rfl⟩

/-- A step that finds no key held goes on with the wait. -/
theorem Waited.step (waited : start.Waited moments later) (running : start.halted = false)
    (word : start.nextWord = toWord ⟨0xF, x, 0x0, 0xA⟩)
    (free : ∀ key, later.keypad.holds key = false) (offered : Offer) (now : Nat) :
    (later.step offered now).failure = none ∧
      start.Waited (moments ++ [now]) (later.step offered now).state := by
  -- The machine runs and stands before the same word as at the start.
  rw [step_of_free (waited.halted.trans running) (waited.nextWord.trans word)
    ((Keypad.lowestHeld?_eq_none_iff _).mpr free)]
  refine ⟨rfl, ?_⟩
  -- The look at this clock comes after those at the others.
  obtain ⟨lastWord, lastAddress, keypad, rfl⟩ := waited
  refine ⟨start.nextWord, start.pc, keypad, ?_⟩
  rw [List.foldl_append]
  rfl

end Machine

namespace Console

open Nibbles

/-- What comes of the step that finds a key held after a wait with steps at some moments. -/
structure TakesKey (start : Console) (x : Fin 16) (moments : List Nat) (later : Console)
    (outcome : Outcome Fault Console) : Prop where
  /-- It does not fail. -/
  succeeds : outcome.failure = none
  /-- The lowest key that is held goes to the register, and all of them stay as they are. -/
  taken : ∃ key, later.machine.keypad.holds key = true ∧
    (∀ lower < key, later.machine.keypad.holds lower = false) ∧
    outcome.state.machine = { start.machine with
      registers := start.machine.registers.set x (UInt8.ofNat key)
      pc := start.machine.pc + 2
      lastWord := start.machine.nextWord
      lastAddress := start.machine.pc
      keypad := later.machine.keypad
      timers := moments.foldl Timers.update start.machine.timers }

variable {start console later : Console} {x : Fin 16} {moments : List Nat}

/-- A use that passes the time goes on with the wait. If it is a step, it does not fail. -/
theorem waited_use {use : Use console} (waited : start.machine.Waited moments console.machine)
    (running : start.machine.halted = false)
    (word : start.machine.nextWord = toWord ⟨0xF, x, 0x0, 0xA⟩) (waits : use.Waits) :
    (∀ now, use = .step now → use.outcome.failure = none) ∧
      start.machine.Waited (moments ++ use.moment?.toList) use.outcome.state.machine := by
  cases waits with
  | step now free =>
    obtain ⟨succeeds, on⟩ := waited.step running word free console.entropy.next now
    exact ⟨fun _ _ => succeeds, on⟩
  -- All other uses are made at no moment and come to the keys at most.
  | setKey key held => exact ⟨by rintro _ ⟨⟩, (waited.keyed _).timeless⟩
  | setKeyThrough handle key held =>
    -- Whichever cell the handle is on, only the keypad can be another.
    obtain ⟨keypad, after⟩ := console.machine_setKeyThrough handle key held
    refine ⟨by rintro _ ⟨⟩, ?_⟩
    rw [Use.outcome, after]
    exact (waited.keyed keypad).timeless
  | releaseKeys =>
    refine ⟨by rintro _ ⟨⟩, ?_⟩
    -- To let go of all keys is to have the free keypad.
    rw [Use.outcome, machine_releaseKeys]
    exact (waited.keyed .released).timeless
  | connectKeys | duplicateKeys => exact ⟨by rintro _ ⟨⟩, waited.timeless⟩

/-- Any number of uses that pass the time go on with the wait, and none of the steps fails. -/
theorem waited_usage {usage : Usage start later} (running : start.machine.halted = false)
    (word : start.machine.nextWord = toWord ⟨0xF, x, 0x0, 0xA⟩)
    (waits : usage.All fun _ use => use.Waits) :
    (usage.All fun _ use => ∀ now, use = .step now → use.outcome.failure = none) ∧
      start.machine.Waited usage.moments later.machine := by
  -- However long it was, a wait is always compared with its start.
  induction usage with
  | nothing => exact ⟨True.intro, start.machine.waited_nil⟩
  | andThen before use ih =>
    obtain ⟨earlier, latest⟩ := waits
    obtain ⟨succeeded, waited⟩ := ih earlier
    obtain ⟨succeeds, on⟩ := waited_use waited running word latest
    exact ⟨⟨succeeded, succeeds⟩, on⟩

/-- A step that finds a key held ends the wait. -/
theorem takesKey_step (waited : start.machine.Waited moments later.machine)
    (running : start.machine.halted = false)
    (word : start.machine.nextWord = toWord ⟨0xF, x, 0x0, 0xA⟩)
    (held : ∃ key, later.machine.keypad.holds key = true) (now : Nat) :
    start.TakesKey x (moments ++ [now]) later (later.step now) := by
  cases lowest : later.machine.keypad.lowestHeld? with
  | none =>
    -- The search would have found the key.
    obtain ⟨key, held⟩ := held
    rw [(Keypad.lowestHeld?_eq_none_iff _).mp lowest key] at held
    cases held
  | some key =>
    obtain ⟨held, free⟩ := (Keypad.lowestHeld?_eq_some_iff _ _).mp lowest
    -- The wait was on the word that takes the key.
    have stepped := Machine.step_of_held (waited.halted.trans running) (waited.nextWord.trans word)
      lowest later.entropy.next now
    refine ⟨congrArg Outcome.failure stepped, key, held, free,
      (congrArg Outcome.state stepped).trans ?_⟩
    -- The machine that waited has its registers and all else from the start.
    generalize later.machine = machine at waited ⊢
    obtain ⟨lastWord, lastAddress, keypad, rfl⟩ := waited
    rw [List.foldl_append]
    rfl

/--
A program that waits for a key stands still. However long it takes, whichever keys are held and let
go between the steps, through the console or through a handle, and at whatever moments steps are
taken that find no key held, none of them fails, and nothing changes but the timers, which look at
the clock at each of those moments. The first step that finds a key held puts the lowest one into
the register, leaves it held and goes on to the next word, and no other part is touched.
-/
theorem key_wait (start : Console) (x : Fin 16) (inside : start.machine.pc ≤ 0x0FFE)
    (word : start.machine.nextWord = toWord ⟨0xF, x, 0x0, 0xA⟩) {later : Console}
    (usage : Usage start later) (waits : usage.All fun _ use => use.Waits) :
    (usage.All fun _ use => ∀ now, use = .step now → use.outcome.failure = none) ∧
    start.machine.Waited usage.moments later.machine ∧
    ((∃ key, later.machine.keypad.holds key = true) → ∀ now,
      start.TakesKey x (usage.moments ++ [now]) later (later.step now)) := by
  have running := Machine.halted_eq_false_of_le inside
  obtain ⟨succeeded, waited⟩ := waited_usage running word waits
  exact ⟨succeeded, waited, takesKey_step waited running word⟩

/-- A key that is let go in time is not seen, and of two that are held the lower one is taken. -/
theorem key_wait_released :
    let fresh := around
      { Machine.booted 0 (.ofList [0xF3, 0x0A]) .released with timers := { delay := 5 } }
    let start := fresh.connectKeys.1
    let handle : start.KeyHandle := fresh.connectKeys.2
    let pressed : Use start := .setKeyThrough handle 0xC true
    let released : Use pressed.outcome.state := .releaseKeys
    let waiting : Use released.outcome.state := .step 100000000
    let higher : Use waiting.outcome.state := .setKey 0x7 true
    let lower : Use higher.outcome.state := .setKey 0x4 true
    let outcome := lower.outcome.state.step 200000000
    waiting.outcome.failure = none ∧ outcome.failure = none ∧
      outcome.state.machine.reg 3 = 4 ∧ outcome.state.machine.pc = 0x202 ∧
      outcome.state.machine.timers.delay = 3 ∧ outcome.state.machine.keypad.holds 7 = true := by
  intro fresh start handle pressed released waiting higher lower outcome
  have word : start.machine.nextWord = toWord ⟨0xF, 0x3, 0x0, 0xA⟩ :=
    Machine.nextWord_booted 0 (.ofList [0xF3, 0x0A]) .released
  -- The word waits through all of these, a step among them.
  let usage : Usage start lower.outcome.state :=
    .andThen (.andThen (.andThen (.andThen (.andThen .nothing pressed) released) waiting) higher)
      lower
  -- Every key was let go before the first step.
  have free : ∀ key, released.outcome.state.machine.keypad.holds key = false := by decide
  have waits : usage.All fun _ use => use.Waits :=
    ⟨⟨⟨⟨⟨True.intro, .setKeyThrough _ _ _⟩, .releaseKeys⟩, .step _ free⟩, .setKey _ _⟩, .setKey _ _⟩
  obtain ⟨succeeded, _, takes⟩ := key_wait start 0x3 (by decide) word usage waits
  have joined : start.keypads.Joined := (Shared.joined_of_nil rfl).keeps (Shared.keeps_connect _)
  have latched := latched_usage usage rfl joined
  rw [show usage.keyings = [.set 0xC true, .release, .set 0x7 true, .set 0x4 true] from rfl]
    at latched
  have held : lower.outcome.state.machine.keypad.holds 4 = true := (latched 4).trans (by decide)
  -- What is taken is the least of the keys that are seen held.
  obtain ⟨done, key, seen, least, machine⟩ := takes ⟨4, held⟩ 200000000
  have two : ∀ key : Fin keyCount,
      Keying.seen key [.set 0xC true, .release, .set 0x7 true, .set 0x4 true] = true →
        key = 4 ∨ key = 7 := by decide
  -- Two keys are held at last, and the other one was let go with all of them.
  rcases two key ((latched key).symm.trans seen) with rfl | rfl
  · refine ⟨succeeded.1.1.2 _ rfl, done, ?_, ?_, ?_, ?_⟩
    · rw [machine]
      exact Vector.getElem_set_self (by decide)
    · rw [machine]
      rfl
    · rw [machine]
      show (Timers.update (Timers.update { delay := 5 } 100000000) 200000000).delay = 3
      rw [Timers.update_eq, Timers.update_eq]
      rfl
    · rw [machine]
      exact (latched 7).trans (by decide)
  · -- The lower key is held as well.
    rw [least 4 (by decide)] at held
    cases held

end Console

end ChipEight
