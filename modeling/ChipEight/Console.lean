import ChipEight.Entropy
import ChipEight.Journal
import ChipEight.Machine.Cycle
import ChipEight.Shared.Basic

/-!
The machine at work, with a source of random bytes and a journal of its events. Its keypad and its
sound timer are in cells that it shares with whoever holds a handle on them.
-/

namespace ChipEight

/-- The events of a cycle at an address, which are reported before its instruction is done. -/
def Event.announcing (address : UInt16) : UInt16 × Instruction (Fin registerCount) → List Event
  | (word, .unknown _) => [.executing address word, .ignoring address word]
  | (word, _) => [.executing address word]

/-- A machine taken apart, with what it needs to run, to report and to be handled from outside. -/
structure Console where
  /-- What the machine has to itself. -/
  core : Core := {}
  /-- The timer that programs can read. -/
  delay : UInt8 := 0
  /-- The moment of the last count of the timers. -/
  lastCount : Nat := 0
  /-- The keypad, and the handles on it. -/
  keypads : Shared Keypad := .alone .released
  /-- The timer that makes the tone sound, and the handles on it. -/
  sounds : Shared UInt8 := .alone 0
  /-- Where random bytes come from. -/
  entropy : Entropy := .missing
  /-- What was reported. -/
  journal : Journal := {}

namespace Console

/-- The machine put together, with what is in the shared cells at the moment. -/
def machine (console : Console) : Machine :=
  { console.core with
    keypad := console.keypads.value
    timers := ⟨console.delay, console.sounds.value, console.lastCount⟩ }

/-- The console with another machine in it, whose keypad and sound timer go to the shared cells. -/
def withMachine (console : Console) (machine : Machine) : Console :=
  { console with
    core := machine.toCore
    delay := machine.timers.delay
    lastCount := machine.timers.lastCount
    keypads := console.keypads.put machine.keypad
    sounds := console.sounds.put machine.timers.sound }

/-- A console around a machine of which no handle was given out. -/
def around (machine : Machine) : Console := ({} : Console).withMachine machine

/-- The console after one more event. -/
def note (console : Console) (event : Event) : Console :=
  { console with journal := console.journal.write event }

/-- The console with a program in memory. -/
def load (console : Console) (rom : Bytes) : Outcome Fault Console :=
  let outcome := (console.machine.load rom).map console.withMachine
  match outcome.failure with
  | none => { state := outcome.state.note (.loaded rom.size) }
  | some _ => outcome

/-- The console with the program that a text spells in memory. -/
def loadHex (console : Console) (text : String) : Outcome Fault Console :=
  match HexText.decode text with
  | .ok rom => console.load rom
  | .error fault => { state := console, failure := some fault }

/-- The console with every key let go, in the cell where its handles find them. -/
def releaseKeys (console : Console) : Console :=
  { console with keypads := console.keypads.put console.keypads.value.releaseAll }

/-- The console after a reset at a moment. -/
def reset (console : Console) (now : Nat) : Console :=
  -- The shared cells are cleared and not replaced, so that the handles stay connected.
  { console.releaseKeys with
    core := {}
    delay := 0
    lastCount := now
    sounds := console.sounds.put 0 }.note .wasReset

/-- The console after a reset, and then with a program in memory if it fits. -/
def resetAndLoad (console : Console) (now : Nat) (rom : Bytes) : Outcome Fault Console :=
  (console.reset now).load rom

/-- The console with the random byte used up and the events reported that go with a cycle. -/
def prepared (console : Console) : Console :=
  match console.machine.upcoming? with
  | none => console
  | some upcoming => { console with
      entropy := if upcoming.2.drawsRandom then console.entropy.advance else console.entropy
      journal := console.journal.writeAll (Event.announcing console.machine.pc upcoming) }

/-- An activity of the machine with what goes with its next cycle. -/
def running (console : Console) (activity : Machine → Offer → Outcome Fault Machine) :
    Outcome Fault Console :=
  (activity console.machine console.entropy.next).map console.prepared.withMachine

/-- One instruction at a moment. -/
def step (console : Console) (now : Nat) : Outcome Fault Console :=
  console.running fun machine offered => machine.step offered now

end Console

end ChipEight
