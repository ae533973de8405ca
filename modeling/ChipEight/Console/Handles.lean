import ChipEight.Console

/-!
Handles on a console's keypad and sound timer. What is done through a handle is done to the cell
that it refers to, and reaches the console if the console's keypad or sound timer is in that cell.
-/

namespace ChipEight.Console

/-- The handles on the keypad of a console. -/
abbrev KeyHandle (console : Console) : Type := console.keypads.Handle

/-- The handles on the sound timer of a console. -/
abbrev SoundHandle (console : Console) : Type := console.sounds.Handle

/-- Gives out one more handle on the keypad. -/
def connectKeys (console : Console) : (later : Console) × later.KeyHandle :=
  let connected := console.keypads.connect
  ⟨{ console with keypads := connected.1 }, connected.2⟩

/-- Gives out a handle on the keypad that another one is on. -/
def duplicateKeys (console : Console) (source : console.KeyHandle) :
    (later : Console) × later.KeyHandle :=
  let connected := console.keypads.duplicate source
  ⟨{ console with keypads := connected.1 }, connected.2⟩

/-- The console with a key held or let go on the console itself. -/
def setKey (console : Console) (key : Nat) (held : Bool) : Outcome Fault Console :=
  (console.keypads.value.set key held).map fun keypad =>
    { console with keypads := console.keypads.put keypad }

/-- The console with a key held or let go through a handle. -/
def setKeyThrough (console : Console) (handle : console.KeyHandle) (key : Nat) (held : Bool) :
    Outcome Fault Console :=
  ((console.keypads.readThrough handle).set key held).map fun keypad =>
    { console with keypads := console.keypads.writeThrough handle keypad }

/-- Whether a key is held, as the console itself tells. -/
def keyHeld (console : Console) (key : Nat) : Except Fault Bool :=
  console.keypads.value.isHeld key

/-- Whether a key is held, as a handle tells. -/
def keyHeldThrough (console : Console) (handle : console.KeyHandle) (key : Nat) :
    Except Fault Bool :=
  (console.keypads.readThrough handle).isHeld key

/-- Gives out one more handle on the sound timer. -/
def connectSound (console : Console) : (later : Console) × later.SoundHandle :=
  let connected := console.sounds.connect
  ⟨{ console with sounds := connected.1 }, connected.2⟩

/-- The sound timer, as a handle tells. -/
def soundThrough (console : Console) (handle : console.SoundHandle) : UInt8 :=
  console.sounds.readThrough handle

/-- The console with a value stored in the sound timer through a handle. -/
def storeSoundThrough (console : Console) (handle : console.SoundHandle) (value : UInt8) :
    Console :=
  { console with sounds := console.sounds.writeThrough handle value }

end ChipEight.Console
