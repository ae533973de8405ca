import ChipEight.Console.Laws
import ChipEight.Proofs.Machine.Reachable

/-! What a host can do with a console, one thing after the other, and what comes of each. -/

namespace ChipEight

open Console

/-- What a host can do with a console. A handle is one that the console has given out. -/
inductive Use (console : Console) where
  /-- A step is taken at a moment. -/
  | step (now : Nat)
  /-- A program is put into memory. -/
  | load (rom : Bytes)
  /-- The program that a text spells is put into memory. -/
  | loadHex (text : String)
  /-- A byte is written to memory. -/
  | write (address : Nat) (value : UInt8)
  /-- A range of memory is written over. -/
  | writeAll (address : Nat) (bytes : Bytes)
  /-- The console is reset at a moment. -/
  | reset (now : Nat)
  /-- The console is reset at a moment and a program is put into memory. -/
  | resetAndLoad (now : Nat) (rom : Bytes)
  /-- A key is held or let go on the console itself. -/
  | setKey (key : Nat) (held : Bool)
  /-- A key is held or let go through a handle. -/
  | setKeyThrough (handle : console.KeyHandle) (key : Nat) (held : Bool)
  /-- Every key is let go. -/
  | releaseKeys
  /-- A handle on the keypad is given out. -/
  | connectKeys
  /-- A handle on the keypad is given out in the likeness of another. -/
  | duplicateKeys (source : console.KeyHandle)
  /-- A handle on the sound timer is given out. -/
  | connectSound
  /-- A value is stored in the sound timer through a handle. -/
  | storeSoundThrough (handle : console.SoundHandle) (value : UInt8)

namespace Console

/-- The console with another memory. -/
def withMemory (console : Console) (memory : Memory) : Console :=
  { console with core := { console.core with memory } }

/-- A program that is loaded on a machine that was just switched on is ready to start. -/
theorem machine_load_switchedOn {console : Console} {start : Nat}
    (on : console.machine = Machine.switchedOn start) {rom : Bytes} (fits : rom.size ≤ maxRomSize) :
    (console.load rom).state.machine = Machine.booted start rom .released := by
  -- All but memory is as it was when the machine was switched on.
  rw [load_of_fits console fits, machine_note, machine_withMachine, on]
  rfl

/-- A reset followed by a program that fits leaves a machine that is ready to start. -/
theorem machine_resetAndLoad (console : Console) (now : Nat) {rom : Bytes}
    (fits : rom.size ≤ maxRomSize) :
    (console.resetAndLoad now rom).state.machine = Machine.booted now rom .released :=
  machine_load_switchedOn (console.machine_reset now) fits

end Console

namespace Use

variable {console : Console}

/-- What comes of a use, whether or not it fails. -/
def outcome : Use console → Outcome Fault Console
  | step now => console.step now
  | load rom => console.load rom
  | loadHex text => console.loadHex text
  | write address value =>
    (console.machine.memory.write address value).map console.withMemory
  | writeAll address bytes =>
    (console.machine.memory.writeAll address bytes).map console.withMemory
  | reset now => { state := console.reset now }
  | resetAndLoad now rom => console.resetAndLoad now rom
  | setKey key held => console.setKey key held
  | setKeyThrough handle key held => console.setKeyThrough handle key held
  | releaseKeys => { state := console.releaseKeys }
  | connectKeys => { state := console.connectKeys.1 }
  | duplicateKeys source => { state := (console.duplicateKeys source).1 }
  | connectSound => { state := console.connectSound.1 }
  | storeSoundThrough handle value => { state := console.storeSoundThrough handle value }

/-- The address from which on the host itself writes bytes to memory, if it does. -/
def target? : Use console → Option Nat
  | write address _ => some address
  -- Without a byte nothing is written, wherever that is.
  | writeAll address bytes => if bytes.size = 0 then none else some address
  | _ => none

/-- All that can become of the machine. -/
inductive Handled : Use console → Machine → Prop where
  /-- It stays as it is. -/
  | kept (use : Use console) : Handled use console.machine
  /-- It takes a step. -/
  | stepped (now : Nat) :
    Handled (.step now) (console.machine.step console.entropy.next now).state
  /-- A program is put in place. -/
  | loaded (use : Use console) (rom : Bytes) :
    Handled use { console.machine with
      memory := ⟨Memory.install console.machine.memory.cells rom⟩ }
  /-- The host lays bytes over memory. -/
  | written {use : Use console} {address : Nat} (bytes : List UInt8)
      (target : use.target? = some address) (succeeded : use.outcome.failure = none) :
    Handled use { console.machine with
      memory := ⟨Memory.overlay console.machine.memory.cells address bytes⟩ }
  /-- It starts anew. -/
  | restarted (use : Use console) (now : Nat) : Handled use (Machine.switchedOn now)
  /-- It starts anew with a program in place. -/
  | booted (use : Use console) (now : Nat) (rom : Bytes) :
    Handled use (Machine.booted now rom .released)
  /-- It has another keypad. -/
  | keyed (use : Use console) (keypad : Keypad) : Handled use { console.machine with keypad }
  /-- It has another value in its sound timer. -/
  | sounded (use : Use console) (value : UInt8) : Handled use (console.machine.setSound value)

/-- A program is put in place, or it is too large and nothing happens. -/
theorem handled_load (use : Use console) (rom : Bytes) :
    Handled use (console.load rom).state.machine := by
  -- Only its size decides whether a program is refused.
  rcases Nat.lt_or_ge maxRomSize rom.size with large | fits
  · rw [load_of_large console large]
    exact .kept use
  · rw [load_of_fits console fits, machine_note, machine_withMachine]
    exact .loaded use rom

/-- A use does one of eight things to the machine. -/
theorem handled (use : Use console) : Handled use use.outcome.state.machine := by
  -- Each use has its own law, and each law names one of the eight.
  cases use with
  | step now => exact .stepped now
  | load rom => exact handled_load _ rom
  | loadHex text =>
    rw [outcome, Console.loadHex]
    -- A text that spells no bytes is refused before there is anything to load.
    cases HexText.decode text with
    | error fault => exact .kept _
    | ok rom => exact handled_load _ rom
  | write address value =>
    rw [outcome]
    by_cases inside : address < memorySize
    · -- One byte is a list of one.
      have succeeded : (write address value : Use console).outcome.failure = none := by
        rw [outcome, Memory.write_of_lt _ inside]
        rfl
      rw [Memory.write_of_lt _ inside]
      exact .written [value] rfl succeeded
    · -- An address outside memory is refused.
      rw [Memory.write_of_ge _ (Nat.not_lt.mp inside)]
      exact .kept _
  | writeAll address bytes =>
    rw [outcome]
    by_cases fits : Memory.Fits address bytes.size
    · have succeeded : (writeAll address bytes : Use console).outcome.failure = none := by
        rw [outcome, Memory.writeAll_of_fits _ fits]
        rfl
      rw [Memory.writeAll_of_fits _ fits]
      by_cases empty : bytes.size = 0
      · -- No bytes leave memory as it is.
        rw [Bytes.toList, empty]
        exact .kept _
      · exact .written bytes.toList (by rw [target?, if_neg empty]) succeeded
    · rw [Memory.writeAll_of_beyond _ fits]
      exact .kept _
  | reset now =>
    rw [outcome, console.machine_reset now]
    exact .restarted _ now
  | resetAndLoad now rom =>
    rw [outcome]
    -- The reset comes first, and it stays when the program is refused.
    rcases Nat.lt_or_ge maxRomSize rom.size with large | fits
    · rw [Console.resetAndLoad, load_of_large _ large, console.machine_reset now]
      exact .restarted _ now
    · rw [console.machine_resetAndLoad now fits]
      exact .booted _ now rom
  | setKey key held => exact .keyed _ _
  | setKeyThrough handle key held =>
    -- Whichever cell was written, all that the machine can see of it is a keypad.
    obtain ⟨keypad, after⟩ := console.machine_setKeyThrough handle key held
    rw [outcome, after]
    exact .keyed _ keypad
  | releaseKeys =>
    rw [outcome, machine_releaseKeys]
    exact .keyed _ _
  -- A handle that is given out is nothing that the machine sees.
  | connectKeys | duplicateKeys | connectSound => exact .kept _
  | storeSoundThrough handle value =>
    obtain ⟨sound, after⟩ := console.machine_storeSoundThrough handle value
    rw [outcome, after]
    exact .sounded _ sound

end Use

/-- Uses of a console one after the other, whether or not they fail, up to a later console. -/
inductive Usage (start : Console) : Console → Type where
  /-- The console was not used. -/
  | nothing : Usage start start
  /-- One more use was made of the console that the others had left. -/
  | andThen {console : Console} (before : Usage start console) (use : Use console) :
    Usage start use.outcome.state

/-- Every use was of a kind. -/
def Usage.All (kind : ∀ console : Console, Use console → Prop) {start later : Console} :
    Usage start later → Prop
  | nothing => True
  | andThen before use => before.All kind ∧ kind _ use

end ChipEight
