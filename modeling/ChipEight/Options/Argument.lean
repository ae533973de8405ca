import ChipEight.Options.Basic

/-! The shapes that the arguments of a command line take. -/

namespace ChipEight

/-- An argument by its shape. -/
inductive Argument where
  /-- Two dashes, after which everything is taken as it stands. -/
  | divider
  /-- Two dashes and a name, perhaps with a value after an equals sign. -/
  | long (name : String) (value : Option String)
  /-- A dash and a letter, whatever follows it. -/
  | short (letter : Char)
  /-- Anything else, a single dash included. -/
  | plain
deriving DecidableEq, Repr

namespace Argument

/-- The parts of a text before and after its first equals sign. -/
def splitAtEquals : List Char → List Char × Option (List Char)
  | [] => ([], none)
  -- The value may have more equals signs.
  | '=' :: rest => ([], some rest)
  | c :: rest =>
    let (before, after) := splitAtEquals rest
    (c :: before, after)

/-- The shape of an argument. -/
def ofText (text : String) : Argument :=
  match text.toList with
  | ['-', '-'] => divider
  | '-' :: '-' :: body =>
    let (name, value) := splitAtEquals body
    long (String.ofList name) (value.map String.ofList)
  -- Every such letter ends the reading, so those behind the first never count.
  | '-' :: letter :: _ => short letter
  | _ => plain

end Argument

/-- The option of a name, if there is one. -/
inductive NamedOption where
  | switch (switch : Switch)
  | setting (setting : Setting)
deriving DecidableEq, Repr

/-- The option that a name stands for; a name is never cut short. -/
def NamedOption.find? (name : String) : Option NamedOption :=
  match Switch.all.find? (·.name == name) with
  | some found => some (switch found)
  | none => (Setting.all.find? (·.name == name)).map setting

end ChipEight
