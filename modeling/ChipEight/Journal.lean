import ChipEight.Instruction.Assembly
import ChipEight.Machine.Stall

/-! What the console reports of its work, by levels of detail. -/

namespace ChipEight

/-- How much detail is wanted, or how much an event is. -/
inductive Level where
  | off | error | warn | info | debug | trace
deriving DecidableEq, Repr, Inhabited

namespace Level

/-- The place of a level, more detail being higher. -/
def rank : Level → Nat
  | off => 0
  | error => 1
  | warn => 2
  | info => 3
  | debug => 4
  | trace => 5

/-- The name of a level. -/
def name : Level → String
  | off => "OFF"
  | error => "ERROR"
  | warn => "WARN"
  | info => "INFO"
  | debug => "DEBUG"
  | trace => "TRACE"

/-- All levels, less detail first. -/
def all : List Level := [off, error, warn, info, debug, trace]

end Level

/-- Something worth a report. -/
inductive Event where
  /-- A program of this many bytes was put into memory. -/
  | loaded (size : Nat)
  /-- The console was reset. -/
  | wasReset
  /-- A word was fetched at an address to be carried out. -/
  | executing (address word : UInt16)
  /-- A word at an address stands for no instruction. -/
  | ignoring (address word : UInt16)
  /-- The program in a file is ready to run. -/
  | opened (path : String)
  /-- A key is held for the whole run. -/
  | holding (key : Fin keyCount)
  /-- The tone starts or stops. -/
  | sound (on : Bool)
  /-- A run ends after so many ticks because the program gets no further. -/
  | stopping (ticks : Nat) (stall : Stall)
  /-- A run was completed in so many ticks. -/
  | finished (ticks : Nat)
  /-- A run was given up for a reason. -/
  | failed (reason : String)
deriving DecidableEq, Repr

namespace Event

/-- The level of detail of an event. -/
def level : Event → Level
  | failed _ => .error
  | ignoring _ _ => .warn
  | opened _ | sound _ | stopping _ _ => .info
  | loaded _ | wasReset | holding _ | finished _ => .debug
  | executing _ _ => .trace

/-- The part of the console that an event comes from. -/
def origin : Event → String
  | loaded _ => "chip8::memory"
  | executing _ _ | ignoring _ _ => "chip8::processor"
  | opened _ | holding _ | sound _ | stopping _ _ => "chip8::app"
  | wasReset | finished _ | failed _ => "chip8"

/-- The wording of an event. -/
def message : Event → String
  -- The range ends before the address that is named last.
  | loaded size =>
    "Loaded " ++ toString size ++ " byte ROM at " ++ Hexadecimal.marked 3 programStart ++ ".." ++
      Hexadecimal.marked 3 (programStart + size)
  | wasReset => "Chip8 reset"
  -- The word has no mark of its base here, unlike its address.
  | executing address word =>
    Hexadecimal.marked 3 address.toNat ++ ": " ++
      String.ofList (Hexadecimal.padded 4 word.toNat) ++ "  " ++ Instruction.textOfWord word
  | ignoring address word =>
    "Ignoring unknown instruction " ++ String.ofList (Hexadecimal.padded 4 word.toNat) ++ " at " ++
      Hexadecimal.marked 3 address.toNat
  | opened path => "Loaded " ++ path
  | holding key => "Holding key " ++ String.ofList (Hexadecimal.digits key)
  | sound on => "Sound " ++ if on then "on" else "off"
  | stopping ticks stall => "Stopping after " ++ toString ticks ++ " ticks, " ++ stall.reason
  | finished ticks => "Ran " ++ toString ticks ++ " ticks"
  | failed reason => reason

/-- An event as a line of the log, with its level and origin in brackets. -/
def logLine (event : Event) : String :=
  "[" ++ event.level.name ++ " " ++ event.origin ++ "] " ++ event.message

end Event

/-- The events so far, as far as they are wanted. -/
structure Journal where
  /-- The most detail that is wanted. -/
  level : Level := .off
  /-- The events that were kept, oldest first. -/
  entries : Array Event := #[]
deriving Inhabited

namespace Journal

/-- The journal after an event, which is dropped if it is too detailed. -/
def write (journal : Journal) (event : Event) : Journal :=
  -- What is dropped now is not there later, whatever level is wanted then.
  if event.level.rank ≤ journal.level.rank then
    { journal with entries := journal.entries.push event }
  else journal

/-- The journal after several events. -/
def writeAll (journal : Journal) (events : List Event) : Journal := events.foldl write journal

end Journal

end ChipEight
