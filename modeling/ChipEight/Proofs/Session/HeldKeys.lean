import ChipEight.Proofs.Console.KeyWait
import ChipEight.Proofs.Options.KeyText
import ChipEight.Proofs.Session.Account
import ChipEight.Session.Start

/-! The keys that a command line chooses, and no others, are held for as long as a session runs. -/

namespace ChipEight

namespace Keying

/-- Keys are held one after the other. -/
def holding (keys : List (Fin keyCount)) : List Keying :=
  keys.map fun key : Fin keyCount => set key.val true

/-- Of keys that were all free, those are seen held that were held since. -/
theorem seen_holding (keys : List (Fin keyCount)) (key : Fin keyCount) :
    seen key (holding keys) = true ↔ key ∈ keys := by
  -- The last key that was held is seen held, and it hides nothing of the others.
  induction keys using List.reverseRecOn with
  | nil => exact iff_of_false nofun List.not_mem_nil
  | append_singleton keys last ih =>
    rw [holding, List.map_append, List.map_singleton, ← holding, seen_set, List.mem_append,
      List.mem_singleton, ← ih]
    by_cases same : last = key
    · simp [same]
    · have apart : last.val ≠ key.val := fun equal => same (Fin.ext equal)
      simp [apart, Ne.symm same]

end Keying

namespace Console

variable {console loaded : Console}

/-- The console with a key held by its number, which is checked, and an event for it. -/
def tryHold (console : Console) (key : Fin keyCount) : Except Fault Console :=
  (console.setKey key true).result.map fun held => held.note (.holding key)

/-- No number of a key is refused. -/
theorem tryHold_eq (console : Console) (key : Fin keyCount) :
    console.tryHold key = .ok (console.hold key) := by
  rw [tryHold, setKey_of_lt console key.isLt]
  rfl

/-- Keys are held one after the other, and none of them is refused. -/
theorem foldlM_tryHold (keys : List (Fin keyCount)) (console : Console) :
    keys.foldlM tryHold console = .ok (keys.foldl hold console) := by
  induction keys generalizing console with
  | nil => rfl
  | cons key keys ih =>
    -- The first key is not refused, so the others are held on what it leaves.
    rw [List.foldlM_cons, tryHold_eq]
    exact ih (console.hold key)

/-- Holding keys is seen of them, and of the others what was seen before. -/
theorem Latched.foldl_hold {keyings : List Keying} (latched : console.Latched keyings)
    (keys : List (Fin keyCount)) :
    (keys.foldl hold console).Latched (keyings ++ Keying.holding keys) := by
  induction keys generalizing console keyings with
  | nil => exact latched.of_same rfl
  | cons key keys ih =>
    have first := latched_setKey latched key true
    rw [setKey_of_lt console key.isLt] at first
    -- The event that goes with the key is not where the keys are.
    have held : (console.hold key).Latched (keyings ++ [.set key true]) := first
    have others := ih held
    rw [List.append_assoc] at others
    exact others

/-- A file that is loaded touches no key, whichever way it is written. -/
theorem keypad_of_loadFile {options : Options} {contents : Bytes}
    (placed : console.loadFile options contents = .ok loaded) :
    loaded.machine.keypad = console.machine.keypad := by
  -- The outcome is told in the words of a start, and nothing about it changes.
  have read {outcome : Outcome Fault Console}
      (same : outcome.state.machine.keypad = console.machine.keypad)
      (done : outcome.result.mapError (StartFault.unloadable options) = .ok loaded) :
      loaded.machine.keypad = console.machine.keypad := by
    rw [← Outcome.state_of_result (mapError_eq_ok_iff.mp done)]
    exact same
  unfold loadFile at placed
  split at placed
  · split at placed
    · cases placed
    · -- A text is loaded as the bytes that it spells.
      rename_i text _
      have untouched : (Use.loadHex text : Use console).outcome.state.machine.keypad = _ :=
        keypad_of_keyless rfl
      exact read untouched placed
  · exact read (keypad_load console contents) placed

/-- Holding keys changes the keypad of the machine alone. -/
theorem foldl_hold_machine (keys : List (Fin keyCount)) (console : Console) :
    ∃ keypad, (keys.foldl hold console).machine = { console.machine with keypad } := by
  induction keys generalizing console with
  | nil => exact ⟨console.machine.keypad, rfl⟩
  | cons key keys ih =>
    -- The keypad that counts is the one after the last key.
    obtain ⟨keypad, held⟩ := ih (console.hold key)
    exact ⟨keypad, held⟩

/-- Steps leave the keys alone, however many there are and whether or not one fails. -/
theorem keypad_plainSteps (console : Console) (times : Nat → Nat) (count done : Nat) :
    (console.plainSteps times count done).state.machine.keypad = console.machine.keypad := by
  induction count generalizing console done with
  | zero => rfl
  | succ count ih =>
    have first := congrArg Shared.value (keypads_step console (times done))
    cases stepped : (console.step (times done)).failure with
    -- The step that fails is the last one.
    | some fault =>
      rw [plainSteps_succ_of_error _ stepped]
      exact first
    | none =>
      rw [plainSteps_succ_of_ok _ stepped, ih]
      exact first

end Console

namespace Session

variable {session start later : Session}

/-- A tick leaves the keys alone, whether or not it fails. -/
theorem keypad_tick (session : Session) (times : Nat → Nat) (ticksBefore : Nat) :
    (session.tick times ticksBefore).state.console.machine.keypad =
      session.console.machine.keypad := by
  -- What follows the steps of a tick is a look at the tone.
  obtain ⟨_, alike, _⟩ := session.afterSteps_alike
    (session.console.steps times session.stepsPerTick (ticksBefore * session.stepsPerTick))
  rw [tick, alike.machine, Console.steps_eq_plainSteps, Console.keypad_plainSteps]

/-- A run leaves the keys alone, however it ends. -/
theorem keypad_runFor (session : Session) (times : Nat → Nat) (allowance ticksBefore : Nat) :
    (session.runFor times allowance ticksBefore).session.console.machine.keypad =
      session.console.machine.keypad := by
  induction allowance generalizing session ticksBefore with
  | zero => rfl
  | succ allowance ih =>
    have first := session.keypad_tick times ticksBefore
    cases ticked : (session.tick times ticksBefore).failure with
    -- A failure and a stall end the run with the keys of its last tick.
    | some why =>
      rw [runFor_of_error allowance ticked]
      exact first
    | none =>
      cases stalled : (session.tick times ticksBefore).state.stall? with
      | some why =>
        rw [runFor_of_stalled allowance ticked stalled]
        exact first
      | none =>
        rw [runFor_of_onward allowance ticked stalled, ih]
        exact first

/-- The sessions that a session becomes while nobody holds a key or lets one go. -/
inductive Untouched (start : Session) : Session → Prop where
  /-- The session was just begun. -/
  | begun : Untouched start start
  /-- A tick was completed or failed. -/
  | ticked {session : Session} (before : Untouched start session) (times : Nat → Nat)
      (ticksBefore : Nat) : Untouched start (session.tick times ticksBefore).state
  /-- A run of many ticks ended. -/
  | ran {session : Session} (before : Untouched start session) (times : Nat → Nat)
      (ticks patience : Nat) : Untouched start (session.run times ticks patience).session
  /-- The host used the console for anything else. A single step is one such use, so that a session
  in the middle of a tick is among these. -/
  | used {session : Session} (before : Untouched start session) (use : Use session.console)
      (keyless : use.keying? = none) :
    Untouched start { session with console := use.outcome.state }

/-- What was seen of the keys at first is seen of them for as long as nobody touches them. -/
theorem Untouched.latched {keyings : List Keying} (untouched : start.Untouched later)
    (latched : start.console.Latched keyings) : later.console.Latched keyings := by
  induction untouched with
  | begun => exact latched
  | ticked _ times ticksBefore ih =>
    rw [Console.Latched, keypad_tick]
    exact ih
  | ran _ times ticks patience ih =>
    rw [Console.Latched, run, keypad_runFor]
    exact ih
  -- A use that is no write to a key includes a step in the middle of a tick.
  | used _ use keyless ih =>
    rw [Console.Latched, Console.keypad_of_keyless keyless]
    exact ih

/-- What a session is like on which some keys are held and no others. -/
structure HoldsExactly (session : Session) (keys : List (Fin keyCount)) : Prop where
  /-- Each key is held if it is one of them. -/
  held : ∀ key, session.console.machine.keypad.holds key = true ↔ key ∈ keys
  /-- A program that waits for a key goes on with the next step, which takes the least of them. -/
  taken : keys ≠ [] → ∀ x, session.console.machine.pc ≤ 0x0FFE →
    session.console.machine.nextWord = Nibbles.toWord ⟨0xF, x, 0x0, 0xA⟩ →
    ∃ least ∈ keys, (∀ key ∈ keys, least ≤ key) ∧ ∀ now,
      (session.console.step now).failure = none ∧
      (session.console.step now).state.machine = { session.console.machine with
        registers := session.console.machine.registers.set x (UInt8.ofNat least)
        pc := session.console.machine.pc + 2
        lastWord := session.console.machine.nextWord
        lastAddress := session.console.machine.pc
        timers := session.console.machine.timers.update now }

/-- The least of the keys that are held is the one that is found. -/
theorem holdsExactly_of_held {keys : List (Fin keyCount)}
    (held : ∀ key, session.console.machine.keypad.holds key = true ↔ key ∈ keys) :
    session.HoldsExactly keys := by
  refine ⟨held, fun chosen x inside word => ?_⟩
  have running := Machine.halted_eq_false_of_le inside
  cases lowest : session.console.machine.keypad.lowestHeld? with
  | none =>
    -- The search would have found whichever key was listed.
    obtain ⟨key, listed⟩ := List.exists_mem_of_ne_nil keys chosen
    have free := (Keypad.lowestHeld?_eq_none_iff _).mp lowest key
    rw [(held key).mpr listed] at free
    cases free
  | some least =>
    obtain ⟨found, lower⟩ := (Keypad.lowestHeld?_eq_some_iff _ _).mp lowest
    refine ⟨least, (held least).mp found, fun key listed => ?_, fun now => ?_⟩
    · -- A key below it would be free, but those that are listed are held.
      by_contra above
      have free := lower key (Fin.not_le.mp above)
      rw [(held key).mpr listed] at free
      cases free
    · -- The step takes the key that the search found.
      have stepped := Machine.step_of_held running word lowest session.console.entropy.next now
      exact ⟨congrArg Outcome.failure stepped, congrArg Outcome.state stepped⟩

/-- A session starts with the file loaded and then the keys held, one after the other. -/
theorem start_of_loadFile {options : Options} {contents : Bytes} {console loaded : Console}
    (placed : console.loadFile options contents = .ok loaded) :
    Session.start options (.ok contents) console = .ok
      { console := options.keys.foldl Console.hold (loaded.note (.opened options.rom))
        stepsPerTick := options.stepsPerTick } := by
  -- All that can fail in a start is that the file is loaded.
  show (console.loadFile options contents >>= _) = _
  rw [placed]
  rfl

/--
The option for keys and the keypad agree. Pieces are read when each of them is a plus sign or none
and then digits of a number below sixteen, and they are read as those numbers, in order. A session
holds its keys at the start, one after the other, and none of them is refused. For as long as nobody
touches the keypad those keys are held and no others, so a program that waits for a key gets the
least of them.
-/
theorem chosen_keys_stay_held :
    (∀ pieces : List String,
      ((∃ keys, readKeys pieces = .ok keys) ↔
        ∀ piece ∈ pieces, ∃ number < 16, NamesNumber piece number) ∧
      ∀ keys, readKeys pieces = .ok keys ↔
        List.Forall₂ (fun piece key => NamesNumber piece key.val) pieces keys) ∧
    ∀ (options : Options) (contents : Bytes) (console loaded : Console) (now : Nat),
      console.machine = Machine.switchedOn now →
      console.loadFile options contents = .ok loaded →
      ∃ session, Session.start options (.ok contents) console = .ok session ∧
        options.keys.foldlM Console.tryHold (loaded.note (.opened options.rom)) =
          .ok session.console ∧
        ∀ later, session.Untouched later → later.HoldsExactly options.keys := by
  refine ⟨fun pieces => ⟨exists_readKeys_iff, fun keys => readKeys_eq_ok_iff⟩, ?_⟩
  intro options contents console loaded now on placed
  refine ⟨_, start_of_loadFile placed, Console.foldlM_tryHold _ _, fun later untouched => ?_⟩
  -- No key was held before those of the options were.
  have free : loaded.machine.keypad = .released := by
    rw [Console.keypad_of_loadFile placed, on]
    rfl
  have opened : (loaded.note (.opened options.rom)).Latched [] := Console.latched_nil free
  have latched := untouched.latched (opened.foldl_hold options.keys)
  -- What is seen of a key is whether it was held since all were free.
  refine holdsExactly_of_held fun key => ?_
  rw [latched key, List.nil_append, Keying.seen_holding]

/-- Two keys are given, one of them twice, and the wait at the start takes the lower one. -/
theorem chosen_keys_stay_held_twice :
    let options : Options := { rom := "game.ch8", keys := [0xC, 0x5, 0xC] }
    let console := Console.around (Machine.switchedOn 0)
    let contents : Bytes := .ofList [0xF3, 0x0A]
    readKeys ["c", "+05", "C"] = .ok options.keys ∧ (¬ ∃ keys, readKeys ["1", "10"] = .ok keys) ∧
      ∃ session, Session.start options (.ok contents) console = .ok session ∧
        (session.console.step 7).state.machine.reg 0x3 = 0x5 ∧
        (session.tick id 0).state.console.machine.keypad.holds 0xC = true ∧
        (session.tick id 0).state.console.machine.keypad.holds 0x3 = false := by
  intro options console contents
  obtain ⟨pieces, starts⟩ := chosen_keys_stay_held
  have refused : ¬ ∃ keys, readKeys ["1", "10"] = .ok keys := by
    rw [(pieces ["1", "10"]).1]
    intro named
    obtain ⟨number, small, names⟩ := named "10" (by simp)
    -- The digits of a key are those of base sixteen.
    exact readKey?_eq_none_iff.mp rfl number small names
  have fits : contents.size ≤ maxRomSize := by decide
  have file : console.loadFile options contents = .ok (console.load contents).state := by
    show (console.load contents).result.mapError (StartFault.unloadable options) = _
    rw [console.load_of_fits fits]
    rfl
  obtain ⟨session, started, tried, holds⟩ := starts options contents console _ 0 rfl file
  refine ⟨rfl, refused, session, started, ?_, ?_, ?_⟩
  · -- Before the first step the word of the wait is at the program counter.
    obtain ⟨keypad, machine⟩ := Console.foldl_hold_machine options.keys
      ((console.load contents).state.note (.opened options.rom))
    rw [Console.foldlM_tryHold] at tried
    have start : session.console.machine = Machine.booted 0 contents keypad := by
      rw [← Except.ok.inj tried, machine, Console.machine_note,
        Console.machine_load_switchedOn rfl fits]
      rfl
    have inside : session.console.machine.pc ≤ 0x0FFE := by
      rw [start]
      show (0x200 : UInt16) ≤ 0x0FFE
      decide
    have word : session.console.machine.nextWord = Nibbles.toWord ⟨0xF, 0x3, 0x0, 0xA⟩ := by
      rw [start]
      exact Machine.nextWord_booted 0 contents keypad
    obtain ⟨least, listed, lower, steps⟩ := (holds session .begun).taken nofun 0x3 inside word
    -- The least of the keys is the five.
    have none_lower : ∀ key ∈ options.keys, key ≤ 0x5 → key = 0x5 := by decide
    rw [(steps 7).2, none_lower least listed (lower 0x5 (by decide))]
    exact Vector.getElem_set_self (by decide)
  · -- The wait took a key and left both as they were.
    have after := (holds _ (Untouched.begun.ticked id 0)).held 0xC
    exact after.mpr (by decide)
  · have after := (holds _ (Untouched.begun.ticked id 0)).held 0x3
    rw [← Bool.not_eq_true, after]
    decide

end Session

end ChipEight
