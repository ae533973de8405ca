import ChipEight.Journal

/-! What can be chosen on the command line. -/

namespace ChipEight

/-- The name under which the program is called. -/
def programName : String := "chip8"

/-- The version of the program. -/
def programVersion : String := "0.1.0"

/-- The largest number that an option can hold. -/
def maxCount : Nat := 0xFFFFFFFF

/-- The choices for one call of the program. -/
structure Options where
  /-- The path of the program's file. -/
  rom : String
  /-- Whether the file holds text instead of bytes. -/
  hex : Bool := false
  /-- The number of instructions in a tick. -/
  stepsPerTick : Nat := 10
  /-- The number of ticks in a second. -/
  tickRate : Nat := 60
  /-- The number of ticks to run, zero for no limit. -/
  ticks : Nat := 120
  /-- The keys held for the whole run, as often and in the order as they were given. -/
  keys : List (Fin keyCount) := []
  /-- The most detail that is wanted in the log. -/
  logLevel : Level := .info
deriving DecidableEq, Repr

/-- An option that is either given or not. -/
inductive Switch where
  | hex | help | version
deriving DecidableEq, Repr

/-- An option that is given with a value. -/
inductive Setting where
  | stepsPerTick | tickRate | ticks | keys | logLevel
deriving DecidableEq, Repr

namespace Switch

/-- The name of a switch without its dashes. -/
def name : Switch → String
  | hex => "hex"
  | help => "help"
  | version => "version"

/-- All switches. -/
def all : List Switch := [hex, help, version]

/-- A switch as messages show it. -/
def usage (switch : Switch) : String := "--" ++ switch.name

end Switch

namespace Setting

/-- The name of a setting without its dashes. -/
def name : Setting → String
  | stepsPerTick => "steps-per-tick"
  | tickRate => "tick-rate"
  | ticks => "ticks"
  | keys => "keys"
  | logLevel => "log-level"

/-- The word that stands for the value of a setting. -/
def placeholder : Setting → String
  | stepsPerTick => "STEPS_PER_TICK"
  | tickRate => "TICK_RATE"
  | ticks => "TICKS"
  | keys => "KEYS"
  | logLevel => "LOG_LEVEL"

/-- All settings. -/
def all : List Setting := [stepsPerTick, tickRate, ticks, keys, logLevel]

/-- A setting as messages show it. -/
def usage (setting : Setting) : String :=
  "--" ++ setting.name ++ " <" ++ setting.placeholder ++ ">"

end Setting

end ChipEight
