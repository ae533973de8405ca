import ChipEight.Console.Handles
import ChipEight.Keypad.Laws
import ChipEight.Memory.Laws
import ChipEight.Shared.Laws

/-! What is found in a console after something was done to it. -/

namespace ChipEight.Console

variable {console : Console}

/-- The machine that was put into a console is found in it. -/
@[simp] theorem machine_withMachine (console : Console) (machine : Machine) :
    (console.withMachine machine).machine = machine := rfl

/-- A console with the machine put into it that it has already is as it was. -/
@[simp] theorem withMachine_machine (console : Console) :
    console.withMachine console.machine = console := rfl

/-- The machine that a console was made around is found in it. -/
@[simp] theorem machine_around (machine : Machine) : (around machine).machine = machine := rfl

/-- An event changes nothing about the machine. -/
@[simp] theorem machine_note (console : Console) (event : Event) :
    (console.note event).machine = console.machine := rfl

/-- An event uses up no random byte. -/
@[simp] theorem entropy_note (console : Console) (event : Event) :
    (console.note event).entropy = console.entropy := rfl

/-- An event goes to the journal. -/
@[simp] theorem journal_note (console : Console) (event : Event) :
    (console.note event).journal = console.journal.write event := rfl

/-- Another machine in the console is no event. -/
@[simp] theorem journal_withMachine (console : Console) (machine : Machine) :
    (console.withMachine machine).journal = console.journal := rfl

/-- Random bytes are not used up by another machine in the console. -/
@[simp] theorem entropy_withMachine (console : Console) (machine : Machine) :
    (console.withMachine machine).entropy = console.entropy := rfl

/-- With its keys let go a machine is as it would be if none was ever held. -/
theorem machine_releaseKeys (console : Console) :
    console.releaseKeys.machine = { console.machine with keypad := .released } := by
  -- The keys are let go one after the other, in the cell that they are in.
  rw [machine, releaseKeys, Keypad.releaseAll_eq]
  rfl

/-- After its reset a machine is as it would be if it had just been switched on. -/
theorem machine_reset (console : Console) (now : Nat) :
    (console.reset now).machine = Machine.switchedOn now := by
  -- All that is not in a shared cell is replaced, and the sound timer is zero.
  have keys : (console.reset now).machine =
      { Machine.switchedOn now with keypad := console.releaseKeys.machine.keypad } := rfl
  rw [keys, machine_releaseKeys]
  rfl

/-- A program that fits is loaded, and nothing but memory is touched. -/
theorem load_of_fits (console : Console) {rom : Bytes} (fits : rom.size ≤ maxRomSize) :
    console.load rom = { state := (console.withMachine { console.machine with
      memory := ⟨Memory.install console.machine.memory.cells rom⟩ }).note (.loaded rom.size) } := by
  rw [load, Machine.load, Memory.load_of_fits _ fits]
  rfl

/-- A program that does not fit is refused. -/
theorem load_of_large (console : Console) {rom : Bytes} (large : maxRomSize < rom.size) :
    console.load rom = { state := console, failure := some (.romTooLarge rom.size) } := by
  rw [load, Machine.load, Memory.load_of_large _ large]
  rfl

/-- No random byte is used up by a reset. -/
theorem entropy_reset (console : Console) (now : Nat) :
    (console.reset now).entropy = console.entropy := by
  simp only [reset, releaseKeys, note]

/-- Nor is one used up by a load. -/
theorem entropy_load (console : Console) (rom : Bytes) :
    (console.load rom).state.entropy = console.entropy := by
  rcases Nat.lt_or_ge maxRomSize rom.size with large | fits
  · rw [load_of_large console large]
  · -- A program goes to memory, and its size to the journal.
    rw [load_of_fits console fits, entropy_note, entropy_withMachine]

/-- The cells and the handles are no matter of the random bytes and the journal. -/
theorem shared_prepared (console : Console) :
    console.prepared.keypads = console.keypads ∧ console.prepared.sounds = console.sounds := by
  unfold prepared
  split <;> exact ⟨rfl, rfl⟩

/-- A key that there is is set, and nothing else. -/
theorem setKey_of_lt (console : Console) {key : Nat} (known : key < keyCount) (held : Bool) :
    console.setKey key held = { state := { console with
      keypads := console.keypads.put (console.keypads.value.put ⟨key, known⟩ held) } } := by
  rw [setKey, Keypad.set_of_lt _ known]
  rfl

/-- A key that there is not is refused. -/
theorem setKey_of_ge (console : Console) {key : Nat} (unknown : keyCount ≤ key) (held : Bool) :
    console.setKey key held = { state := console, failure := some (.noSuchKey key) } := by
  rw [setKey, Keypad.set_of_ge _ unknown]
  rfl

/-- Whichever cell a handle refers to, there is no more than sixteen keys in it. -/
theorem setKeyThrough_of_ge (console : Console) (handle : console.KeyHandle) {key : Nat}
    (unknown : keyCount ≤ key) (held : Bool) :
    console.setKeyThrough handle key held =
      { state := console, failure := some (.noSuchKey key) } := by
  rw [setKeyThrough, Keypad.set_of_ge _ unknown]
  -- The keypad is put back as it was taken out.
  simp only [Outcome.map, Shared.writeThrough, Shared.readThrough, Shared.write_read]

/-- A write through a handle comes to the machine's keypad at most, whichever cell it goes to. -/
theorem machine_setKeyThrough (console : Console) (handle : console.KeyHandle) (key : Nat)
    (held : Bool) : ∃ keypad, (console.setKeyThrough handle key held).state.machine =
      { console.machine with keypad } := by
  simp only [setKeyThrough, Outcome.map, Shared.writeThrough, Shared.write]
  split
  · exact ⟨_, rfl⟩
  · -- In another cell it is not seen by the machine.
    exact ⟨console.machine.keypad, rfl⟩

/-- A value that is stored through a handle comes to the machine's sound timer at most. -/
theorem machine_storeSoundThrough (console : Console) (handle : console.SoundHandle)
    (value : UInt8) : ∃ sound, (console.storeSoundThrough handle value).machine =
      console.machine.setSound sound := by
  unfold storeSoundThrough Shared.writeThrough Shared.write
  split
  · exact ⟨value, rfl⟩
  · -- Another cell is not that of the console's timers.
    exact ⟨console.machine.timers.sound, rfl⟩

/-- A handle that refers to the console's own cell does what the console itself does. -/
theorem setKeyThrough_of_joined (joined : console.keypads.Joined) (handle : console.KeyHandle)
    (key : Nat) (held : Bool) :
    console.setKeyThrough handle key held = console.setKey key held := by
  -- What is read through the handle and written back is the console's own keypad.
  simp only [setKeyThrough, setKey, joined.readThrough, joined.writeThrough]

/-- What such a handle tells of a key is what the console itself tells. -/
theorem keyHeldThrough_of_joined (joined : console.keypads.Joined) (handle : console.KeyHandle)
    (key : Nat) : console.keyHeldThrough handle key = console.keyHeld key := by
  rw [keyHeldThrough, joined.readThrough, keyHeld]

end ChipEight.Console
