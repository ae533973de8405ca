import ChipEight.Options.Help
import ChipEight.Options.Parse
import ChipEight.Screen.Picture
import ChipEight.Session.Host
import ChipEight.Session.Start

/-! The program as its caller sees it: arguments and files in, lines and an exit code out. -/

namespace ChipEight

/-- What the program leaves its caller with. -/
structure Report where
  /-- The exit code. -/
  code : UInt32
  /-- The lines of the standard output. -/
  output : List String := []
  /-- The messages on the standard error output, each of which ends a line. -/
  errors : List String := []

namespace Report

/-- The report on a command line that does not lead to a run. -/
def ofProblem : Problem → Report
  | .helpWanted => { code := 0, output := helpLines }
  | .versionWanted => { code := 0, output := [Problem.versionWanted.printed] }
  | problem => { code := 2, errors := [problem.printed] }

/-- The log of the events in a journal. -/
def log (journal : Journal) : List String := journal.entries.toList.map Event.logLine

/-- The report on a run that was given up for a reason. -/
def ofFailure (journal : Journal) (reason : String) : Report where
  code := 1
  errors := log (journal.write (.failed reason))

/-- The report on a run that ended well, with its last picture. -/
def ofSuccess (session : Session) (ticks : Nat) : Report where
  code := 0
  output := session.console.machine.screen.lines
  errors := log (session.note (.finished ticks)).console.journal

/-- The report on a run. -/
def ofRun (run : Run) : Report :=
  match run.ending with
  | .failed why => ofFailure run.session.console.journal why.message
  | _ => ofSuccess run.session run.ticks

end Report

/-- What a call of the program asks of the system that it is made on. -/
structure System (m : Type → Type) where
  /-- A console that was just switched on. -/
  switchOn : m Console
  /-- The contents of a file, or why it was not read. -/
  readFile : String → m (Except ReadFault Bytes)
  /-- The host of a run with ticks at a rate. -/
  host : Nat → Host m
  /-- The ticks that a run without a limit is allowed. -/
  patience : Nat

/-- The report on a call of the program, made on a system. -/
@[specialize]
def Program.callOn {m : Type → Type} [Monad m] (system : System m) (arguments : List String) :
    m Report :=
  match Options.parse arguments with
  | .error problem => pure (.ofProblem problem)
  | .ok options => do
    let journal : Journal := { level := options.logLevel }
    let console ← system.switchOn
    match Session.start options (← system.readFile options.rom) { console with journal } with
    | .error fault => pure (.ofFailure journal fault.message)
    | .ok session =>
      let host := system.host options.tickRate
      let allowance := if options.ticks = 0 then system.patience else options.ticks
      -- What was reported of the start is seen before the first tick.
      let run ← Session.runOn host allowance 0 (← host.attend session)
      pure (.ofRun run)

/-- The system that never waits, with files, random bytes and moments that are known before. -/
def System.scripted (storage : Storage) (entropy : Entropy) (times : Nat → Nat)
    (patience : Nat) : System (StateM Nat) where
  switchOn := pure { entropy }
  readFile path := pure (storage.read path)
  host _ := .scripted times
  patience := patience

/-- The report on a call of the program, at the given moments and without waiting in between. -/
def Program.call (arguments : List String) (storage : Storage) (entropy : Entropy)
    (times : Nat → Nat) (patience : Nat) : Report :=
  match Options.parse arguments with
  | .error problem => .ofProblem problem
  | .ok options =>
    let journal : Journal := { level := options.logLevel }
    match Session.start options (storage.read options.rom) { entropy, journal } with
    | .error fault => .ofFailure journal fault.message
    | .ok session => .ofRun (session.run times options.ticks patience)

end ChipEight
