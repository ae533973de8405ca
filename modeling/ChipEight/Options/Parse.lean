import ChipEight.Options.Argument
import ChipEight.Options.Problem

/-! Reading a command line. -/

namespace ChipEight

/-- The choices read so far. -/
structure Draft where
  /-- The path, once it was read. -/
  rom : Option String := none
  /-- The choices, the path apart. -/
  options : Options := { rom := "" }
  /-- The settings that were given a value. -/
  given : List Setting := []

/-- What was read last and has not been looked at closely. -/
inductive Pending where
  /-- Nothing. -/
  | nothing
  /-- The name of a setting, which takes the next plain argument for its value. -/
  | named (setting : Setting)
  /-- The name and the value of a setting. -/
  | valued (setting : Setting) (value : String)
  /-- A path. -/
  | path (path : String)
deriving DecidableEq, Repr

namespace Draft

/-- The value of a number, or the problem with it. -/
def count (setting : Setting) (low : Nat) (value : String) : Except Problem Nat :=
  (readCount low value).mapError fun fault => .badValue setting value (.number fault)

/-- The choices with a setting's value read. -/
def assign (options : Options) (value : String) : Setting → Except Problem Options
  | .stepsPerTick =>
    (count .stepsPerTick 0 value).map fun stepsPerTick => { options with stepsPerTick }
  | .tickRate => (count .tickRate 1 value).map fun tickRate => { options with tickRate }
  | .ticks => (count .ticks 0 value).map fun ticks => { options with ticks }
  | .keys =>
    -- Each piece between commas counts for itself, and further values add to the earlier ones.
    match readKeys (commaPieces value) with
    | .ok keys => .ok { options with keys := options.keys ++ keys }
    | .error piece => .error (.badValue .keys piece (.key piece))
  | .logLevel =>
    match readLevel? value with
    | some logLevel => .ok { options with logLevel }
    | none => .error (.badValue .logLevel value .level)

/-- The draft with a setting's value read; only keys may be given more than once. -/
def accept (draft : Draft) (setting : Setting) (value : String) : Except Problem Draft :=
  -- That a setting is given twice is told before its second value is read.
  if setting ≠ .keys ∧ setting ∈ draft.given then .error (.repeated (.setting setting))
  else
    (assign draft.options value setting).map fun options =>
      { draft with options, given := setting :: draft.given }

/-- The draft with what was pending looked at. -/
def settle (draft : Draft) : Pending → Except Problem Draft
  | .nothing => .ok draft
  | .named setting => .error (.missingValue (.setting setting))
  | .valued setting value => draft.accept setting value
  | .path path =>
    -- An empty path counts as none.
    if path.isEmpty then .error (.missingValue .rom) else .ok { draft with rom := some path }

/-- The draft with a switch turned on. -/
def turnOn (draft : Draft) : Switch → Except Problem Draft
  | .help => .error .helpWanted
  | .version => .error .versionWanted
  | .hex =>
    if draft.options.hex then .error (.repeated (.switch .hex))
    else .ok { draft with options := { draft.options with hex := true } }

/-- Whether a path was read, be it still pending. -/
def hasPath (draft : Draft) : Pending → Bool
  | .path _ => true
  | _ => draft.rom.isSome

/-- The draft with a path read, what was pending before it being looked at first. -/
def takePath (draft : Draft) (pending : Pending) (text : String) :
    Except Problem (Draft × Pending) :=
  -- A second path is out of place whatever the pending value may be.
  if draft.hasPath pending then .error (.unknownArgument text)
  else (draft.settle pending).map fun settled => (settled, .path text)

/-- The draft with an option read, what was pending before it being looked at first. -/
def takeOption (draft : Draft) (pending : Pending) (value : Option String) :
    NamedOption → Except Problem (Draft × Pending)
  | .switch switch =>
    match value with
    | some value => .error (.unwantedValue switch value)
    | none => do
      let settled ← draft.settle pending
      (settled.turnOn switch).map fun draft => (draft, .nothing)
  | .setting setting => do
    let settled ← draft.settle pending
    match value with
    -- A value after an equals sign is read on the spot.
    | some value => (settled.accept setting value).map fun draft => (draft, .nothing)
    | none => .ok (settled, .named setting)

/-- The draft with one argument read that stands before any divider. -/
def take (draft : Draft) (pending : Pending) (text : String) :
    Argument → Except Problem (Draft × Pending)
  -- A name that no option has is told before anything that is pending.
  | .long name value =>
    match NamedOption.find? name with
    | none => .error (.unknownArgument ("--" ++ name))
    | some option => draft.takeOption pending value option
  | .short 'h' => draft.takeOption pending none (.switch .help)
  | .short 'V' => draft.takeOption pending none (.switch .version)
  | .short letter => .error (.unknownArgument ("-" ++ letter.toString))
  -- Where an option waits for its value, any such argument is that value.
  | .divider | .plain =>
    match pending with
    | .named setting => .ok (draft, .valued setting text)
    | _ => draft.takePath pending text

/-- The draft with arguments read that stand after a divider. -/
def takeVerbatim (draft : Draft) (pending : Pending) : List String → Except Problem Draft
  | [] => draft.settle pending
  | text :: rest => do
    let (draft, pending) ← draft.takePath pending text
    draft.takeVerbatim pending rest

/-- The draft with all arguments read. -/
def takeAll (draft : Draft) (pending : Pending) : List String → Except Problem Draft
  | [] => draft.settle pending
  | text :: rest =>
    match Argument.ofText text with
    -- What is pending before the divider is looked at with what comes after it.
    | .divider => draft.takeVerbatim pending rest
    | argument => do
      let (draft, pending) ← draft.take pending text argument
      draft.takeAll pending rest

end Draft

/-- The choices that a command line makes, or why it makes none. -/
def Options.parse (arguments : List String) : Except Problem Options := do
  let draft ← Draft.takeAll {} .nothing arguments
  -- All else was read by now, so a missing path is the last thing to be told.
  match draft.rom with
  | some rom => .ok { draft.options with rom }
  | none => .error .missingRom

end ChipEight
