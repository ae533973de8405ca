import ChipEight.Proofs.Console.Usage

/-! Handles stay on the cells of the console's keypad and sound timer, whatever is done with it. -/

namespace ChipEight.Console

/-- What stays of the handles on a console through everything that can be done with it. -/
structure Keeps (console later : Console) : Prop where
  keys : console.keypads.Keeps later.keypads
  sound : console.sounds.Keeps later.sounds

/-- No handle was given out so far. -/
structure Unconnected (console : Console) : Prop where
  keys : console.keypads.handles = []
  sound : console.sounds.handles = []

/-- Every handle is on the cell of the console's own keypad or sound timer. -/
structure Joined (console : Console) : Prop where
  keys : console.keypads.Joined
  sound : console.sounds.Joined

/-- The handles of a console are handles of a later one, and reach its keys and sound timer. -/
structure Connected (console later : Console) : Prop where
  keys : ∀ handle : console.KeyHandle, ∃ kept : later.KeyHandle, kept.val = handle.val ∧
    later.keypads.cell kept = console.keypads.cell handle ∧
    (∀ key, later.keyHeldThrough kept key = later.machine.keypad.isHeld key) ∧
    ∀ key held, (later.setKeyThrough kept key held).map machine = later.machine.setKey key held
  sound : ∀ handle : console.SoundHandle, ∃ kept : later.SoundHandle, kept.val = handle.val ∧
    later.sounds.cell kept = console.sounds.cell handle ∧
    later.soundThrough kept = later.machine.timers.sound ∧
    ∀ value, (later.storeSoundThrough kept value).machine = later.machine.setSound value

variable {console middle start later : Console}

/-- What is kept twice in a row is kept. -/
theorem Keeps.trans (first : console.Keeps middle) (second : middle.Keeps later) :
    console.Keeps later :=
  ⟨first.keys.trans second.keys, first.sound.trans second.sound⟩

/-- All handles are kept while the cells go on as they are. -/
theorem keeps_of_same (keys : later.keypads = console.keypads)
    (sound : later.sounds = console.sounds) : console.Keeps later where
  -- What a handle refers to is a matter of the list of handles, which is the same.
  keys := keys ▸ Shared.keeps_of_handles rfl rfl
  sound := sound ▸ Shared.keeps_of_handles rfl rfl

/-- What is done to the keypad's cells is of no matter to the handles on the sound timer. -/
theorem keeps_keypads {keypads : Shared Keypad} (keeps : console.keypads.Keeps keypads) :
    console.Keeps { console with keypads } :=
  ⟨keeps, Shared.keeps_of_handles rfl rfl⟩

/-- What is done to the sound timer's cells is of no matter to the handles on the keypad. -/
theorem keeps_sounds {sounds : Shared UInt8} (keeps : console.sounds.Keeps sounds) :
    console.Keeps { console with sounds } :=
  ⟨Shared.keeps_of_handles rfl rfl, keeps⟩

/-- Another machine goes to the cells of the one before. -/
theorem keeps_withMachine (console : Console) (machine : Machine) :
    console.Keeps (console.withMachine machine) :=
  -- Keys and sound are put where the ones before were, so no handle is turned.
  ⟨console.keypads.keeps_put _, console.sounds.keeps_put _⟩

/-- The handles are no matter of the journal. -/
theorem keeps_note (console : Console) (event : Event) : console.Keeps (console.note event) :=
  keeps_of_same rfl rfl

/-- A step leaves all handles where they are. -/
theorem keeps_step (console : Console) (now : Nat) : console.Keeps (console.step now).state := by
  -- First the random byte is used up, and then the machine goes back to its cells.
  obtain ⟨keys, sound⟩ := console.shared_prepared
  exact (keeps_of_same keys sound).trans (keeps_withMachine _ _)

/-- A program that is loaded, or is too large, leaves all handles where they are. -/
theorem keeps_load (console : Console) (rom : Bytes) : console.Keeps (console.load rom).state := by
  rcases Nat.lt_or_ge maxRomSize rom.size with large | fits
  · -- A refusal changes nothing.
    rw [load_of_large console large]
    exact keeps_of_same rfl rfl
  · rw [load_of_fits console fits]
    exact (keeps_withMachine console _).trans (keeps_note _ _)

/-- A reset clears the cells and leaves all handles where they are. -/
theorem keeps_reset (console : Console) (now : Nat) : console.Keeps (console.reset now) :=
  ⟨console.keypads.keeps_put _, console.sounds.keeps_put _⟩

/-- No use takes a handle back or turns it to another cell. -/
theorem keeps_use (console : Console) (use : Use console) :
    console.Keeps use.outcome.state := by
  cases use with
  | step now => exact keeps_step console now
  | load rom => exact keeps_load console rom
  | loadHex text =>
    rw [Use.outcome, loadHex]
    -- A text that spells no bytes is refused before there is anything to load.
    cases HexText.decode text with
    | error fault => exact keeps_of_same rfl rfl
    | ok rom => exact keeps_load console rom
  | write | writeAll => exact keeps_of_same rfl rfl
  | reset now => exact keeps_reset console now
  -- The program is loaded into the machine that the reset left.
  | resetAndLoad now rom => exact (keeps_reset console now).trans (keeps_load _ rom)
  | setKey | releaseKeys => exact keeps_keypads (console.keypads.keeps_put _)
  -- A write through a handle changes what is in its cell and not where it refers to.
  | setKeyThrough handle => exact keeps_keypads (console.keypads.keeps_writeThrough handle _)
  -- A new handle comes behind the others.
  | connectKeys => exact keeps_keypads console.keypads.keeps_connect
  | duplicateKeys source => exact keeps_keypads (console.keypads.keeps_duplicate source)
  | connectSound => exact keeps_sounds console.sounds.keeps_connect
  | storeSoundThrough handle => exact keeps_sounds (console.sounds.keeps_writeThrough handle _)

/-- Nor does any number of uses. -/
theorem keeps_usage (usage : Usage start later) : start.Keeps later := by
  -- The handles are compared with those at the start, step after step.
  induction usage with
  | nothing => exact keeps_of_same rfl rfl
  | andThen before use ih => exact ih.trans (keeps_use _ use)

/-- Handles that were on the console's own cells stay there. -/
theorem Joined.keeps (joined : console.Joined) (keeps : console.Keeps later) : later.Joined :=
  ⟨joined.keys.keeps keeps.keys, joined.sound.keeps keeps.sound⟩

/-- Handles that were given out since there was none are on the console's own cells. -/
theorem joined_usage (unconnected : start.Unconnected) (usage : Usage start later) :
    later.Joined := by
  -- Without a handle there is none that could refer to another cell.
  have joined : start.Joined :=
    ⟨Shared.joined_of_nil unconnected.keys, Shared.joined_of_nil unconnected.sound⟩
  exact joined.keeps (keeps_usage usage)

/-- A handle that is kept on one of the console's own cells reaches the machine. -/
theorem connected_of_keeps (keeps : console.Keeps later) (joined : later.Joined) :
    console.Connected later where
  keys handle := by
    obtain ⟨kept, number, cell⟩ := keeps.keys.handle handle
    refine ⟨kept, number, cell, keyHeldThrough_of_joined joined.keys kept, fun key held => ?_⟩
    -- The write goes to the cell that the machine has its keypad from.
    rw [setKeyThrough_of_joined joined.keys]
    rfl
  sound handle := by
    obtain ⟨kept, number, cell⟩ := keeps.sound.handle handle
    refine ⟨kept, number, cell, joined.sound.readThrough kept, fun value => ?_⟩
    rw [storeSoundThrough, joined.sound.writeThrough]
    rfl

end ChipEight.Console
