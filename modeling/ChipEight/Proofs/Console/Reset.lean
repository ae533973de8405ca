import ChipEight.Proofs.Console.Course
import ChipEight.Proofs.Console.Sharing

/-! A reset forgets everything but the handles, which still reach the machine. -/

namespace ChipEight.Console

variable {console : Console}

/-- Two programs that start on fresh machines come out alike at moments that are as far on. -/
theorem parallel_of_booted {other : Console} {now start : Nat} {rom : Bytes} {keypad : Keypad}
    (on : console.machine = Machine.booted now rom keypad)
    (on' : other.machine = Machine.booted start rom keypad)
    (upcoming : console.entropy.Same other.entropy) {deeds deeds' : List Deed}
    (same : List.Forall₂ (Deed.Matches fun moment moment' => moment + start = moment' + now)
      deeds deeds') :
    Parallel (Timers.Shifted now start) console other deeds deeds' := by
  have linked : console.Linked (Timers.Shifted now start) other := by
    refine ⟨?_, ?_, upcoming⟩
    · -- All parts but the timers start alike, the keys included.
      rw [on, on']
      exact ⟨rfl, rfl, rfl, rfl, rfl, rfl, rfl⟩
    · rw [on, on']
      exact ⟨rfl, rfl, Nat.add_comm now start⟩
  -- Shifted timers show the same, so they may be read.
  exact linked.parallel (Timers.lasting_shifted now start) same (Or.inl fun _ _ same => same.delay)

/-- What two programs leave that come out alike from the moment at which they are loaded. -/
theorem alike_of_loaded {loaded fresh : Console} {now start : Nat} {rom : Bytes}
    (fits : rom.size ≤ maxRomSize) (on : loaded.machine = Machine.switchedOn now)
    (on' : fresh.machine = Machine.switchedOn start) (upcoming : loaded.entropy.Same fresh.entropy)
    {deeds deeds' : List Deed}
    (same : List.Forall₂ (Deed.Matches fun moment moment' => moment + start = moment' + now)
      deeds deeds') :
    (loaded.load rom).state.failures deeds = (fresh.load rom).state.failures deeds' ∧
      ((loaded.load rom).state.after deeds).machine.Agrees
        ((fresh.load rom).state.after deeds').machine ∧
      ((loaded.load rom).state.after deeds).machine.SameRecord
        ((fresh.load rom).state.after deeds').machine ∧
      ((loaded.load rom).state.after deeds).machine.timers.Shifted now start
        ((fresh.load rom).state.after deeds').machine.timers := by
  -- A program that fits makes of a machine that was switched on one that has booted.
  have ready := machine_load_switchedOn on fits
  have ready' := machine_load_switchedOn on' fits
  have entropy : (loaded.load rom).state.entropy.Same (fresh.load rom).state.entropy := by
    rw [entropy_load, entropy_load]
    exact upcoming
  -- Both machines have yet to see their first word.
  have record : (loaded.load rom).state.machine.SameRecord (fresh.load rom).state.machine := by
    rw [ready, ready']
    exact ⟨rfl, rfl⟩
  have alike := parallel_of_booted ready ready' entropy same
  exact ⟨alike.failures, alike.linked.agrees, alike.record (Or.inl record), alike.linked.timers⟩

/--
A reset forgets everything. It leaves a machine like one that was just switched on, whatever was
done to the machine before, and so does a reset followed by a program that is too large. A program
that fits then runs as it does on a machine that was just switched on, at moments that are as far
from the start, with the same random bytes and the same keys. All handles that were given out before
the reset, since there was none, still reach the keys and the sound timer of the machine after it,
whatever is done then.
-/
theorem reset_forgets (console : Console) (now : Nat) :
    (console.reset now).machine = Machine.switchedOn now ∧
    (∀ rom : Bytes,
      ((console.resetAndLoad now rom).failure ≠ none ↔ 0xE00 < rom.size) ∧
      ((console.resetAndLoad now rom).failure ≠ none →
        (console.resetAndLoad now rom).state = console.reset now) ∧
      ∀ (fresh : Console) (start : Nat), fresh.machine = Machine.switchedOn start →
        console.entropy.Same fresh.entropy → (console.resetAndLoad now rom).failure = none →
        (fresh.load rom).failure = none ∧ ∀ deeds deeds',
          List.Forall₂ (Deed.Matches fun moment moment' => moment + start = moment' + now)
            deeds deeds' →
          (console.resetAndLoad now rom).state.failures deeds =
            (fresh.load rom).state.failures deeds' ∧
          ((console.resetAndLoad now rom).state.after deeds).machine.Agrees
            ((fresh.load rom).state.after deeds').machine ∧
          ((console.resetAndLoad now rom).state.after deeds).machine.SameRecord
            ((fresh.load rom).state.after deeds').machine ∧
          ((console.resetAndLoad now rom).state.after deeds).machine.timers.Shifted now start
            ((fresh.load rom).state.after deeds').machine.timers) ∧
    ∀ start : Console, start.Unconnected → Usage start console → ∀ later,
      (Usage (console.reset now) later → console.Connected later) ∧
      ∀ rom, Usage (console.resetAndLoad now rom).state later → console.Connected later := by
  refine ⟨console.machine_reset now, fun rom => ?_, ?_⟩
  · rcases Nat.lt_or_ge maxRomSize rom.size with large | fits
    · -- The reset comes first, and a program that is refused changes nothing after it.
      have refused : console.resetAndLoad now rom =
          { state := console.reset now, failure := some (.romTooLarge rom.size) } :=
        load_of_large _ large
      rw [refused]
      refine ⟨iff_of_true nofun large, fun _ => rfl, fun _ _ _ _ done => ?_⟩
      cases done
    · have done : (console.resetAndLoad now rom).failure = none := by
        -- What was done before the reset has no say in whether the program fits.
        rw [resetAndLoad, load_of_fits _ fits]
      refine ⟨iff_of_false (not_not_intro done) (Nat.not_lt_of_le fits), fun failed =>
        absurd done failed, fun fresh start on upcoming _ => ⟨?_, fun deeds deeds' same => ?_⟩⟩
      · rw [load_of_fits fresh fits]
      · -- Both programs start on a machine that was just switched on.
        have upcoming : (console.reset now).entropy.Same fresh.entropy := by
          rw [entropy_reset]
          exact upcoming
        exact alike_of_loaded fits (console.machine_reset now) on upcoming same
  · intro start unconnected before later
    -- All handles were given out since there was none, so each is on the machine's cells.
    have joined := joined_usage unconnected before
    -- From the reset on all that happens are uses that keep every handle on its cell.
    have reaches : console.Keeps later → console.Connected later :=
      fun keeps => connected_of_keeps keeps (joined.keeps keeps)
    refine ⟨fun usage => reaches ?_, fun rom usage => reaches ?_⟩
    · exact (keeps_use console (.reset now)).trans (keeps_usage usage)
    · exact (keeps_use console (.resetAndLoad now rom)).trans (keeps_usage usage)

/--
A second program reads the delay timer as a first one would, and one too large is refused. A handle
that was taken before tells of a key that is held after it.
-/
theorem reset_forgets_first_program :
    let start := around
      { registers := Vector.replicate _ 7
        pc := 0x300
        stack := ⟨[0x204]⟩
        lastWord := 0x1300
        memory := ⟨Vector.replicate _ 0xAA⟩
        timers := ⟨5, 6, 800⟩ }
    let toned : Use start := .connectSound
    let console := toned.outcome.state.connectKeys.1
    let handle : console.KeyHandle := toned.outcome.state.connectKeys.2
    let fresh := around (Machine.switchedOn 100)
    let rom : Bytes := .ofList [0xF0, 0x07, 0x12, 0x00]
    let first := (fresh.load rom).state
    let second := (console.resetAndLoad 1000 rom).state
    let pressed := (Use.setKey 5 true : Use second).outcome.state
    second.failures [.step 1000, .setKey 5 true, .step 20001000] =
        first.failures [.step 100, .setKey 5 true, .step 20000100] ∧
      (second.after [.step 1000, .setKey 5 true, .step 20001000]).machine.registers =
        (first.after [.step 100, .setKey 5 true, .step 20000100]).machine.registers ∧
      (console.resetAndLoad 1000 (.replicate 0xE01 0)).state = console.reset 1000 ∧
      ∃ kept : pressed.KeyHandle,
        kept.val = handle.val ∧ pressed.keyHeldThrough kept 5 = .ok true := by
  intro start toned console handle fresh rom first second pressed
  obtain ⟨_, programs, handles⟩ := reset_forgets console 1000
  obtain ⟨fails, _, runs⟩ := programs rom
  have succeeded : (console.resetAndLoad 1000 rom).failure = none := by
    -- The program has four bytes.
    by_contra failed
    exact absurd (fails.mp failed) (by decide)
  obtain ⟨_, alike⟩ := runs fresh 100 rfl (fun _ => rfl) succeeded
  have same : List.Forall₂ (Deed.Matches fun moment moment' => moment + 100 = moment' + 1000)
      [.step 1000, .setKey 5 true, .step 20001000] [.step 100, .setKey 5 true, .step 20000100] :=
    .cons (.step rfl) (.cons (.setKey 5 true) (.cons (.step rfl) .nil))
  obtain ⟨failures, agrees, _⟩ := alike _ _ same
  obtain ⟨large, refused, _⟩ := programs (.replicate 0xE01 0)
  refine ⟨failures, agrees.registers, refused (large.mpr (by decide)), ?_⟩
  -- The handle was taken after another one and before the reset.
  let before : Usage start console := .andThen (.andThen .nothing toned) .connectKeys
  have connected : console.Connected pressed :=
    (handles start ⟨rfl, rfl⟩ before pressed).2 rom (.andThen .nothing (.setKey 5 true))
  obtain ⟨kept, number, _, asked, _⟩ := connected.keys handle
  refine ⟨kept, number, (asked 5).trans ?_⟩
  -- The key that was set is held, and the handle tells of the same cell.
  rw [show pressed = (second.setKey 5 true).state from rfl, setKey_of_lt second (by decide)]
  exact congrArg Except.ok (Keypad.holds_put _ 5 5 true)

end ChipEight.Console
