import Mathlib.Data.List.DropRight
import ChipEight.Proofs.Console.Sharing
import ChipEight.Proofs.Console.Steps

/-! Whoever asks about a key is told what was last done to it, by whomever and in whatever way. -/

namespace ChipEight

/-- What can be done to the keys. -/
inductive Keying where
  /-- A key is held or let go. -/
  | set (key : Nat) (held : Bool)
  /-- Every key is let go. -/
  | release
deriving DecidableEq, Repr

namespace Keying

/-- What is written to a key, if it is. -/
def writes? (key : Nat) : Keying → Option Bool
  | set other held => if other = key then some held else none
  | release => none

/-- What was written to a key last since every key was let go. -/
def lastWrite? (key : Nat) (keyings : List Keying) : Option Bool :=
  ((keyings.rtakeWhile (· ≠ release)).filterMap (writes? key)).getLast?

/-- What is seen of a key. One that was not written to is not held. -/
def seen (key : Nat) (keyings : List Keying) : Bool := (lastWrite? key keyings).getD false

/-- After all keys were let go none is seen held. -/
theorem seen_release (key : Nat) (keyings : List Keying) :
    seen key (keyings ++ [release]) = false := by
  -- The release ends the stretch of writes that count before it has begun.
  have nothing : (keyings ++ [release]).rtakeWhile (· ≠ release) = [] :=
    List.rtakeWhile_concat_neg _ _ _ (by simp)
  rw [seen, lastWrite?, nothing]
  rfl

/-- What is written to a key is seen of it, and what is written to another is not. -/
theorem seen_set (key other : Nat) (held : Bool) (keyings : List Keying) :
    seen key (keyings ++ [set other held]) = if other = key then held else seen key keyings := by
  -- A write is no release, so it is the last of the stretch.
  have last : (keyings ++ [set other held]).rtakeWhile (· ≠ release) =
      keyings.rtakeWhile (· ≠ release) ++ [set other held] :=
    List.rtakeWhile_concat_pos _ _ _ (by simp)
  rw [seen, lastWrite?, last, List.filterMap_append, List.getLast?_append]
  -- For another key the write is passed over, and the last write is the one before.
  by_cases same : other = key
  · simp [writes?, same]
  · simp [writes?, same, seen, lastWrite?]

end Keying

/-- What a use does to the keys. A write to a key that there is not does nothing. -/
def Use.keying? {console : Console} (use : Use console) : Option Keying :=
  match use with
  | setKey key held | setKeyThrough _ key held =>
    if use.outcome.failure.isNone then some (.set key held) else none
  -- A reset lets go of the keys even when the program that comes with it is too large.
  | releaseKeys | reset _ | resetAndLoad _ _ => some .release
  | _ => none

/-- What was done to the keys, one after the other. -/
def Usage.keyings {start later : Console} : Usage start later → List Keying
  | nothing => []
  | andThen before use => before.keyings ++ use.keying?.toList

namespace Console

/-- There is a key, and it can be held and let go in every way. -/
structure Accepts (console : Console) (key : Nat) : Prop where
  set : ∀ held, (Use.setKey key held : Use console).outcome.failure = none
  setThrough : ∀ handle held,
    (Use.setKeyThrough handle key held : Use console).outcome.failure = none

/-- There is no such key, and whoever names it is told so and changes nothing. -/
structure Refuses (console : Console) (key : Nat) : Prop where
  set : ∀ held, (Use.setKey key held : Use console).outcome =
    { state := console, failure := some (.noSuchKey key) }
  setThrough : ∀ handle held, (Use.setKeyThrough handle key held : Use console).outcome =
    { state := console, failure := some (.noSuchKey key) }
  ask : console.keyHeld key = .error (.noSuchKey key)
  askThrough : ∀ handle, console.keyHeldThrough handle key = .error (.noSuchKey key)

/-- All that can be asked about the keys is answered by what was done to them. -/
structure Reports (console : Console) (keyings : List Keying) : Prop where
  ask : ∀ key < 16, console.keyHeld key = .ok (Keying.seen key keyings)
  askThrough : ∀ handle, ∀ key < 16,
    console.keyHeldThrough handle key = .ok (Keying.seen key keyings)
  nibble : ∀ byte : UInt8, ∀ key, byte.toNat % 16 = key →
    console.machine.keypad.nibbleHeld byte = Keying.seen key keyings
  lowest : ∀ key, console.machine.keypad.lowestHeld? = some key ↔
    Keying.seen key keyings = true ∧ ∀ lower < key.val, Keying.seen lower keyings = false
  noneHeld : console.machine.keypad.lowestHeld? = none ↔ ∀ key < 16, Keying.seen key keyings = false

variable {start later : Console}

/-- A step leaves the keys and the handles alone, whether or not it fails. -/
theorem keypads_step (console : Console) (now : Nat) :
    (console.step now).state.keypads = console.keypads := by
  -- The machine goes back to its cells, and its keypad is as it was.
  have back : (console.step now).state.keypads =
      console.prepared.keypads.put (console.step now).state.machine.keypad := rfl
  have same : (console.step now).state.machine.keypad = console.machine.keypad := by
    rw [(step_machine console now).2]
    have outcome := console.machine.stepped console.entropy.next now
    generalize console.machine.step console.entropy.next now = result at outcome ⊢
    cases outcome with
    | halted | failed => rfl
    -- No instruction touches the keys, and neither do the timers.
    | done running done => exact (Machine.effect_keeps done).2.2.2.1
  rw [back, same, console.shared_prepared.1]
  rfl

/-- A program that is loaded, or is too large, does not touch the keys. -/
theorem keypad_load (console : Console) (rom : Bytes) :
    (console.load rom).state.machine.keypad = console.machine.keypad := by
  -- Loaded or not, a program goes to memory alone.
  rcases Nat.lt_or_ge maxRomSize rom.size with large | fits
  · rw [load_of_large console large]
  · rw [load_of_fits console fits, machine_note, machine_withMachine]

/-- A reset lets go of every key, and a program that is loaded after it holds none. -/
theorem keypad_resetAndLoad (console : Console) (now : Nat) (rom : Bytes) :
    (console.resetAndLoad now rom).state.machine.keypad = .released := by
  rw [resetAndLoad, keypad_load, machine_reset]
  rfl

/-- Each of the sixteen keys can be set in every way. -/
theorem accepts_of_lt (console : Console) {key : Nat} (known : key < keyCount) :
    console.Accepts key where
  set held := by rw [Use.outcome, setKey_of_lt console known]
  setThrough handle held := by
    rw [Use.outcome, setKeyThrough, Keypad.set_of_lt _ known]
    rfl

/-- No other key can be set or asked about. -/
theorem refuses_of_ge (console : Console) {key : Nat} (unknown : keyCount ≤ key) :
    console.Refuses key where
  set held := setKey_of_ge console unknown held
  setThrough handle held := setKeyThrough_of_ge console handle unknown held
  -- The question is refused by the same check as the write.
  ask := dif_neg (Nat.not_lt_of_le unknown)
  askThrough _ := dif_neg (Nat.not_lt_of_le unknown)

/-- Every key is held or not as what was done to it says. -/
def Latched (console : Console) (keyings : List Keying) : Prop :=
  ∀ key : Fin keyCount, console.machine.keypad.holds key = Keying.seen key keyings

/-- The keys go on as they are while nothing is done to them. -/
theorem Latched.of_same {keyings : List Keying} (latched : start.Latched keyings)
    (same : later.machine.keypad = start.machine.keypad) : later.Latched (keyings ++ []) := by
  rw [List.append_nil, Latched, same]
  exact latched

/-- Once every key was let go none is held. -/
theorem latched_of_released (keyings : List Keying)
    (free : later.machine.keypad = .released) : later.Latched (keyings ++ [.release]) := by
  intro key
  -- Nothing that was written before counts any more.
  rw [Keying.seen_release, free]
  simp [Keypad.released, Keypad.holds]

/-- A key that is set, if there is one, is held or not from then on. -/
theorem latched_setKey {keyings : List Keying} (latched : start.Latched keyings) (key : Nat)
    (held : Bool) :
    (start.setKey key held).state.Latched (keyings ++
      (if (start.setKey key held).failure.isNone then some (Keying.set key held)
        else none).toList) := by
  rcases Nat.lt_or_ge key keyCount with known | unknown
  · -- The key that was set is seen as it was set, and the others as before.
    rw [setKey_of_lt start known]
    intro other
    show (start.machine.keypad.put ⟨key, known⟩ held).holds other =
      Keying.seen other (keyings ++ [.set key held])
    rw [Keypad.holds_put, Keying.seen_set, latched other]
    simp only [Fin.ext_iff, eq_comm]
  · -- A write that is refused is not counted.
    rw [setKey_of_ge start unknown]
    exact latched.of_same rfl

/-- What is no write to a key and no release of them all leaves the keys as they are. -/
theorem keypad_of_keyless {console : Console} {use : Use console} (keyless : use.keying? = none) :
    use.outcome.state.machine.keypad = console.machine.keypad := by
  cases use with
  | step now => exact congrArg Shared.value (keypads_step console now)
  | load rom => exact keypad_load console rom
  | loadHex text =>
    rw [Use.outcome, loadHex]
    -- A text that spells no bytes is refused before there is anything to load.
    cases HexText.decode text with
    | error fault => rfl
    | ok rom => exact keypad_load console rom
  | write | writeAll | connectKeys | duplicateKeys | connectSound | storeSoundThrough => rfl
  | setKey key held =>
    rcases Nat.lt_or_ge key keyCount with known | unknown
    · -- A write that is not refused would be counted.
      rw [Use.keying?, (accepts_of_lt console known).set held] at keyless
      cases keyless
    · rw [(refuses_of_ge console unknown).set held]
  | setKeyThrough handle key held =>
    rcases Nat.lt_or_ge key keyCount with known | unknown
    · rw [Use.keying?, (accepts_of_lt console known).setThrough handle held] at keyless
      cases keyless
    · rw [(refuses_of_ge console unknown).setThrough handle held]
  | reset | resetAndLoad | releaseKeys => cases keyless

/-- Whatever is done with a console, its keys are as what was done to them says. -/
theorem Latched.use {console : Console} {keyings : List Keying} (latched : console.Latched keyings)
    (joined : console.keypads.Joined) (use : Use console) :
    use.outcome.state.Latched (keyings ++ use.keying?.toList) := by
  cases use with
  -- These are no writes to a key, so the keys and what is seen of them stay.
  | step | load | loadHex | write | writeAll | connectKeys | duplicateKeys | connectSound
  | storeSoundThrough => exact latched.of_same (keypad_of_keyless rfl)
  -- A reset counts as a release, with or without a program after it.
  | reset now =>
    exact latched_of_released keyings (congrArg Machine.keypad (console.machine_reset now))
  | resetAndLoad now rom =>
    exact latched_of_released keyings (keypad_resetAndLoad console now rom)
  | setKey key held => exact latched_setKey latched key held
  | setKeyThrough handle key held =>
    -- The handle is on the cell that the console's own keypad is in.
    rw [Use.keying?, Use.outcome, setKeyThrough_of_joined joined]
    exact latched_setKey latched key held
  | releaseKeys =>
    exact latched_of_released keyings (congrArg Machine.keypad console.machine_releaseKeys)

/-- What is asked about the keys is answered by what was done to them. -/
theorem Latched.reports {console : Console} {keyings : List Keying}
    (latched : console.Latched keyings) (joined : console.keypads.Joined) :
    console.Reports keyings := by
  have ask : ∀ key < 16, console.keyHeld key = .ok (Keying.seen key keyings) := by
    intro key known
    -- The answer is read off the keypad, which is as the writes say.
    rw [← latched ⟨key, known⟩]
    exact dif_pos known
  refine ⟨ask, fun handle key known => ?_, ?_, ?_, ?_⟩
  · -- A handle is on the console's own cell, so it tells what the console tells.
    rw [keyHeldThrough_of_joined joined, ask key known]
  · intro byte key number
    -- The low digit of a byte is its remainder by sixteen.
    subst number
    exact latched (Keypad.keyOfByte byte)
  · intro key
    -- The least key that is held has none below it that is seen held.
    rw [Keypad.lowestHeld?_eq_some_iff, latched key]
    refine and_congr_right fun _ => ?_
    constructor
    · intro free lower below
      rw [← latched ⟨lower, Nat.lt_trans below key.isLt⟩]
      exact free _ below
    · intro free lower below
      rw [latched lower]
      exact free lower below
  · -- The search comes to nothing when it passes over every key.
    rw [Keypad.lowestHeld?, List.find?_eq_none]
    constructor
    · intro free key known
      rw [← latched ⟨key, known⟩]
      exact Bool.not_eq_true _ ▸ free ⟨key, known⟩ (List.mem_finRange _)
    · intro free key _
      rw [latched key, free key key.isLt]
      decide

/-- Free keys are as they are if nothing was ever done to them. -/
theorem latched_nil (free : later.machine.keypad = .released) : later.Latched [] := by
  intro key
  rw [free]
  simp [Keypad.released, Keypad.holds]
  rfl

/-- However the console was used, its keys are as what was done since they were free says. -/
theorem latched_usage (usage : Usage start later) (free : start.machine.keypad = .released)
    (joined : start.keypads.Joined) : later.Latched usage.keyings := by
  -- Before each use the handles are still on the console's own cells.
  induction usage with
  | nothing => exact latched_nil free
  | andThen before use ih => exact ih.use (joined.keeps (keeps_usage before).keys) use

/--
The keys are as they were last held or let go. Whatever is done with a console whose keys are free
and of which no handle was given out, itself, every handle that it gave out in the meantime, the
low digit of a byte and the search for the lowest key all tell of a key what was written to it last
since every key was let go. Handles stay handles on their cells, a new one is on the cell of the
console's own keypad or of the handle that it is made from, numbers that are none of the sixteen
keys are refused without any change, and no step touches a key.
-/
theorem keys_report_last_write :
    (∀ {start later : Console} (usage : Usage start later),
      (∀ handle : start.KeyHandle, ∃ kept : later.KeyHandle, kept.val = handle.val ∧
        later.keypads.cell kept = start.keypads.cell handle) ∧
      (start.machine.keypad = .released → start.keypads.handles = [] →
        later.Reports usage.keyings)) ∧
    (∀ console : Console,
      console.connectKeys.1.keypads.cell console.connectKeys.2 = console.keypads.own ∧
      ∀ source : console.KeyHandle,
        (console.duplicateKeys source).1.keypads.cell (console.duplicateKeys source).2 =
          console.keypads.cell source) ∧
    (∀ (console : Console) (key : Nat),
      (key < 16 → console.Accepts key) ∧ (16 ≤ key → console.Refuses key)) ∧
    ∀ (console : Console) (now : Nat), (console.step now).state.keypads = console.keypads := by
  refine ⟨fun usage => ⟨(keeps_usage usage).keys.handle, fun free unshared => ?_⟩,
    fun console => ⟨Shared.cell_refer _ _, fun source => Shared.cell_refer _ _⟩,
    fun console key => ⟨console.accepts_of_lt, console.refuses_of_ge⟩, keypads_step⟩
  -- No handle at the start means that all later ones are on the console's cell.
  have joined := Shared.joined_of_nil unshared
  exact (latched_usage usage free joined).reports (joined.keeps (keeps_usage usage).keys)

/--
A handle and a copy of it, taken one after the other, are written in turns with the console itself,
before a reset and after it, and both tell of all that was written.
-/
theorem keys_report_last_write_handle :
    let start := around (Machine.switchedOn 0)
    let connect : Use start := .connectKeys
    let handle : connect.outcome.state.KeyHandle := start.connectKeys.2
    let duplicate : Use connect.outcome.state := .duplicateKeys handle
    let copy : duplicate.outcome.state.KeyHandle := (connect.outcome.state.duplicateKeys handle).2
    let first : Use duplicate.outcome.state := .setKeyThrough copy 0x7 true
    let reset : Use first.outcome.state := .reset 5
    let second : Use reset.outcome.state := .setKey 0xA true
    let third : Use second.outcome.state := .setKey 0x10 true
    let later := third.outcome.state
    (∀ handle : first.outcome.state.KeyHandle,
        first.outcome.state.keyHeldThrough handle 0x7 = .ok true) ∧
      (∃ kept : later.KeyHandle,
        kept.val = handle.val ∧ later.keyHeldThrough kept 0x7 = .ok false) ∧
      (∃ kept : later.KeyHandle, kept.val = copy.val ∧ later.keyHeldThrough kept 0xA = .ok true) ∧
      later.machine.keypad.nibbleHeld 0x3A = true ∧
      later.machine.keypad.lowestHeld? = some 0xA ∧
      third.outcome.failure = some (.noSuchKey 0x10) ∧ handle.val < copy.val := by
  intro start connect handle duplicate copy first reset second third later
  obtain ⟨usages, _, numbers, _⟩ := keys_report_last_write
  let before : Usage start first.outcome.state :=
    .andThen (.andThen (.andThen .nothing connect) duplicate) first
  let usage : Usage start later := .andThen (.andThen (.andThen before reset) second) third
  have earlier := (usages before).2 rfl rfl
  have reports := (usages usage).2 rfl rfl
  -- What was done to the keys can be read off the uses.
  rw [show before.keyings = [.set 0x7 true] from rfl] at earlier
  rw [show usage.keyings = [.set 0x7 true, .release, .set 0xA true] from rfl] at reports
  -- Both handles go on, from where they were taken, to the end.
  let fromFirst : Usage connect.outcome.state later :=
    .andThen (.andThen (.andThen (.andThen (.andThen .nothing duplicate) first) reset) second) third
  let fromSecond : Usage duplicate.outcome.state later :=
    .andThen (.andThen (.andThen (.andThen .nothing first) reset) second) third
  obtain ⟨kept, number, _⟩ := (usages fromFirst).1 handle
  obtain ⟨kept', number', _⟩ := (usages fromSecond).1 copy
  refine ⟨fun handle => earlier.askThrough handle 0x7 (by decide),
    ⟨kept, number, reports.askThrough kept 0x7 (by decide)⟩,
    ⟨kept', number', reports.askThrough kept' 0xA (by decide)⟩,
    reports.nibble 0x3A 0xA rfl, (reports.lowest 0xA).mpr (by decide), ?_, by decide⟩
  -- The console refuses a seventeenth key.
  rw [((numbers second.outcome.state 0x10).2 (by decide)).set]

end Console

end ChipEight
