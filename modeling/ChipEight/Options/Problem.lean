import ChipEight.Options.Value
import ChipEight.Text.Lines
import ChipEight.Text.Terminal

/-! Command lines that do not lead to a run. -/

namespace ChipEight

/-- An option as a problem names it. -/
inductive Subject where
  | rom
  | switch (switch : Switch)
  | setting (setting : Setting)
deriving DecidableEq, Repr

/-- The text that stands for an option in messages. -/
def Subject.usage : Subject → String
  | rom => "<ROM>"
  | switch which => which.usage
  | setting which => which.usage

/-- Why a command line does not lead to a run. -/
inductive Problem where
  /-- The caller asks for help. -/
  | helpWanted
  /-- The caller asks for the version. -/
  | versionWanted
  /-- An argument has no meaning. -/
  | unknownArgument (argument : String)
  /-- A switch was given a value. -/
  | unwantedValue (switch : Switch) (value : String)
  /-- An option was given more than once. -/
  | repeated (subject : Subject)
  /-- An option lacks its value. -/
  | missingValue (subject : Subject)
  /-- A value does not suit its setting. -/
  | badValue (setting : Setting) (value : String) (fault : ValueFault)
  /-- No file was named. -/
  | missingRom
deriving DecidableEq, Repr

namespace Problem

/-- A part of the command line that is at fault, as the wording shows it. -/
def faulty (text : String) : String := "'" ++ Terminal.yellow text ++ "'"

/-- An option that is not at fault itself, as the wording shows it. -/
def named (text : String) : String := "'" ++ Terminal.bold text ++ "'"

/-- The advice under a message, from the break that ends the message on. -/
def advice : String := "\n\nFor more information, try " ++ named "--help" ++ "."

/-- The wording of a mistake. -/
def mistake (details : String) : String := Terminal.red "error:" ++ " " ++ details ++ advice

/--
The wording of a problem for a terminal.

What the caller wrote goes into it unchanged: a line break there breaks the wording, and a sequence
for the terminal works like those of the wording itself.
-/
def text : Problem → String
  | helpWanted => ""
  | versionWanted => programName ++ " " ++ programVersion
  | unknownArgument argument => mistake ("unexpected argument " ++ faulty argument ++ " found")
  | unwantedValue switch value =>
    mistake ("unexpected value " ++ faulty value ++ " for " ++ named switch.usage ++
      " found; no more were expected")
  | repeated subject =>
    mistake ("the argument " ++ faulty subject.usage ++ " cannot be used multiple times")
  | missingValue subject =>
    mistake ("a value is required for " ++ faulty subject.usage ++ " but none was supplied")
  | badValue setting value fault =>
    mistake ("invalid value " ++ faulty value ++ " for " ++ named setting.usage ++ ": " ++
      fault.reason)
  | missingRom => mistake "the following required arguments were not provided:"

/-- The message of a problem: the first line of what is left to read of its wording. -/
def message (problem : Problem) : String :=
  (Lines.ofText (Terminal.visible .ends problem.text)).headD ""

/-- The wording of a problem as it is printed where no terminal is there to follow sequences. -/
def printed (problem : Problem) : String := Terminal.visible .suspends problem.text

end Problem

end ChipEight
