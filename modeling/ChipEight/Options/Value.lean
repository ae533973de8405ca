import ChipEight.Options.Basic

/-! Reading the values of options. -/

namespace ChipEight

/-- Why a text is no number in a range. -/
inductive NumberFault where
  /-- There is no text. -/
  | empty
  /-- Something other than a sign in front and decimal digits after it. -/
  | badDigit
  /-- The number is too large to compare with any range. -/
  | tooLarge
  /-- The number is too small to compare with any range. -/
  | tooSmall
  /-- The number lies outside the range. -/
  | outside (number : Int) (low high : Nat)
deriving DecidableEq, Repr

/-- The wording of a number that was not read. -/
def NumberFault.reason : NumberFault → String
  | empty => "cannot parse integer from empty string"
  | badDigit => "invalid digit found in string"
  | tooLarge => "number too large to fit in target type"
  | tooSmall => "number too small to fit in target type"
  | outside number low high =>
    -- The number is told as it was read, with its sign.
    let sign := if number < 0 then "-" else ""
    sign ++ toString number.natAbs ++ " is not in " ++ toString low ++ "..=" ++ toString high

/-- Why a value does not suit its option. -/
inductive ValueFault where
  /-- It is no number in the range of the option. -/
  | number (fault : NumberFault)
  /-- It is no key. -/
  | key (piece : String)
  /-- It is no level of detail. -/
  | level
deriving DecidableEq, Repr

/-- The wording of a value that was not read. -/
def ValueFault.reason : ValueFault → String
  | number fault => fault.reason
  | key piece => "`" ++ piece ++ "` is not a key, expected a hex digit 0-F"
  | level => "attempted to convert a string that doesn't match an existing log level"

/-- The value of a decimal digit, if the character is one. -/
def decimalValue? (c : Char) : Option Nat :=
  if '0' ≤ c ∧ c ≤ '9' then some (c.toNat - 48) else none

/--
The number that decimal digits spell after a number already read, as long as no part of it passes
the limit. The first bad digit or the first pass of the limit decides, whichever comes first.
-/
def readDigits (limit : Nat) (overflow : NumberFault) (soFar : Nat) :
    List Char → Except NumberFault Nat
  | [] => .ok soFar
  | c :: rest =>
    match decimalValue? c with
    | none => .error .badDigit
    | some value =>
      let number := 10 * soFar + value
      if number ≤ limit then readDigits limit overflow number rest else .error overflow

/-- The largest number of sixty-four bits with a sign. -/
def maxInteger : Nat := 0x7FFFFFFFFFFFFFFF

/-- The number that a text spells, with or without a sign, in sixty-four bits. -/
def readInteger (text : String) : Except NumberFault Int :=
  match text.toList with
  | [] => .error .empty
  -- A sign alone is a bad digit and not an empty number.
  | ['+'] | ['-'] => .error .badDigit
  -- There is one more number below zero than above it.
  | '-' :: digits => (readDigits (maxInteger + 1) .tooSmall 0 digits).map fun size => -(size : Int)
  | '+' :: digits => (readDigits maxInteger .tooLarge 0 digits).map Int.ofNat
  | digits => (readDigits maxInteger .tooLarge 0 digits).map Int.ofNat

/-- The number that a text spells, if it lies between a lowest one and the largest there is. -/
def readCount (low : Nat) (text : String) : Except NumberFault Nat := do
  let number ← readInteger text
  -- A number that was read can still be out of range for the option.
  if (low : Int) ≤ number ∧ number ≤ maxCount then .ok number.toNat
  else .error (.outside number low maxCount)

/-- The largest number of sixty-four bits without a sign. -/
def maxNatural : Nat := 0xFFFFFFFFFFFFFFFF

/-- A text without the plus sign in front of it, if there is one. -/
def withoutPlus : List Char → List Char
  | '+' :: rest => rest
  | text => text

/-- The key that a text names: a plus sign or none, then digits of a value below sixteen. -/
def readKey? (piece : String) : Option (Fin keyCount) :=
  match Hexadecimal.readWithin? maxNatural (withoutPlus piece.toList) with
  | none => none
  | some number => if known : number < keyCount then some ⟨number, known⟩ else none

/-- The pieces of a value that its commas divide it into. -/
def commaPieces (value : String) : List String := (value.toList.splitOn ',').map String.ofList

/-- The keys that pieces of text name, or the first piece that names none. -/
def readKeys : List String → Except String (List (Fin keyCount))
  | [] => .ok []
  | piece :: rest =>
    match readKey? piece with
    | none => .error piece
    | some key => (readKeys rest).map (key :: ·)

/-- The level of detail that a text names in letters of any case. -/
def readLevel? (text : String) : Option Level :=
  -- The names are in capitals.
  Level.all.find? fun level => level.name == text.map Char.toUpper

end ChipEight
