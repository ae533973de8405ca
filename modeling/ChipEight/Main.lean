import ChipEight.Program

/-! The command line program, on the real clock, files and random source. -/

namespace ChipEight.Main

/-- Prints what the journal holds and empties it. -/
def flush (session : Session) : IO Session := do
  for event in session.console.journal.entries do
    IO.eprintln event.logLine
  let journal := { session.console.journal with entries := #[] }
  return { session with console := { session.console with journal } }

/-- Prints a report and gives its exit code. -/
def print (report : Report) : IO UInt32 := do
  for line in report.errors do
    IO.eprintln line
  for line in report.output do
    IO.println line
  return report.code

/-- The failure to read a file that the system reports by a number. -/
def numberedFault (code : UInt32) (details : String) : ReadFault :=
  -- The number comes negated from some of the system's calls.
  match min code.toNat (0x100000000 - code.toNat) with
  | 2 => .missing
  | 20 => .notFolder
  | 21 => .isFolder
  | 36 => .nameTooLong
  | number => .refused details number

/-- How the system's failures to read a file are known to the program. -/
def readFault : IO.Error → ReadFault
  | .noFileOrDirectory _ code details | .interrupted _ code details
  | .alreadyExists _ code details | .invalidArgument _ code details
  | .permissionDenied _ code details | .resourceExhausted _ code details
  | .inappropriateType _ code details | .noSuchThing _ code details
  | .otherError code details | .resourceBusy code details | .resourceVanished code details
  | .unsupportedOperation code details | .hardwareFault code details
  | .unsatisfiedConstraints code details | .illegalOperation code details
  | .protocolError code details | .timeExpired code details => numberedFault code details
  | other => .refused other.toString 0

/-- The contents of a file, or why it was not read. -/
def readFile (path : String) : IO (Except ReadFault Bytes) := do
  if path.toList.any (·.toNat == 0) then return .error .badPath
  try
    return .ok (.ofArray (← IO.FS.readBinFile path).data)
  catch error =>
    return .error (readFault error)

/-- How many random bytes are asked of the system at a time. -/
def entropyBlock : USize := 64

/-- A source with some random bytes of the system, or with the reason why it gives none. -/
def systemEntropy : IO Entropy := do
  try
    let bytes ← IO.getRandomBytes entropyBlock
    return .ofBytes (.ofArray bytes.data) "the random bytes at hand are used up"
  catch error =>
    return { answers := fun _ => .error error.toString }

/-- The session with random bytes at hand for at least one more step. -/
def refill (session : Session) : IO Session := do
  match session.console.entropy.next with
  | .ok _ => return session
  | .error _ =>
    let entropy ← systemEntropy
    return { session with console := { session.console with entropy } }

/-- Waits until a tick that began at a moment has taken its share of a second. -/
def waitForTick (tickRate began : Nat) : IO Unit := do
  let spent := (← IO.monoNanosNow) - began
  let rest := nanosPerSecond / tickRate - spent
  IO.sleep (UInt32.ofNat (rest / 1000000))

/-- The host that runs a session in real time, with ticks at a rate. -/
def host (tickRate : Nat) : Host IO where
  tickBegins := IO.monoNanosNow
  provide := refill
  moment := IO.monoNanosNow
  attend := flush
  rest := waitForTick tickRate

/-- The system that the program runs on. -/
def system : System IO where
  -- The clock shows its own moment when the console is switched on.
  switchOn := return .around (.switchedOn (← IO.monoNanosNow))
  readFile := readFile
  host := host
  -- These are more ticks than any host lives to see.
  patience := 0x100000000000000000000000000000000

end ChipEight.Main

/-- Runs the program that the arguments name and prints its last picture. -/
def main (arguments : List String) : IO UInt32 := do
  let report ← ChipEight.Program.callOn ChipEight.Main.system arguments
  ChipEight.Main.print report
