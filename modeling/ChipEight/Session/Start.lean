import ChipEight.Options.Basic
import ChipEight.Session.Basic
import ChipEight.Storage

/-! Starting a session with the file and the keys that the options name. -/

namespace ChipEight

/-- Why a session did not start. -/
inductive StartFault where
  /-- The file was not read. -/
  | unreadable (options : Options) (fault : ReadFault)
  /-- The file is no program. -/
  | unloadable (options : Options) (fault : Fault)
deriving DecidableEq, Repr

/-- What messages call a program, by the way that it is written. -/
def Options.romKind (options : Options) : String := if options.hex then "hex ROM" else "ROM"

/-- The wording of a session that did not start. -/
def StartFault.message : StartFault → String
  | unreadable options fault =>
    "Failed to read " ++ options.romKind ++ " from " ++ options.rom ++ ": " ++ fault.message
  | unloadable options fault =>
    "Failed to load " ++ options.romKind ++ " " ++ options.rom ++ ": " ++ fault.report

namespace Console

/-- The console with a key held, and an event for it. -/
def hold (console : Console) (key : Fin keyCount) : Console :=
  let keypad := console.keypads.value.put key true
  { console with keypads := console.keypads.put keypad }.note (.holding key)

/-- The console with the program of a file in memory, as the options say that it is written. -/
def loadFile (console : Console) (options : Options) (contents : Bytes) :
    Except StartFault Console :=
  if options.hex then
    match String.fromUTF8? contents.toList.toByteArray with
    | none => .error (.unreadable options .notText)
    | some text => (console.loadHex text).result.mapError (.unloadable options)
  else (console.load contents).result.mapError (.unloadable options)

end Console

/-- The session that the options ask for, given what came of reading their file. -/
def Session.start (options : Options) (contents : Except ReadFault Bytes)
    (console : Console) : Except StartFault Session := do
  let bytes ← contents.mapError (.unreadable options)
  let loaded ← console.loadFile options bytes
  let ready := options.keys.foldl Console.hold (loaded.note (.opened options.rom))
  .ok { console := ready, stepsPerTick := options.stepsPerTick }

end ChipEight
