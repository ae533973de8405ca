import ChipEight.Text.Extending
import ChipEight.Text.Hexadecimal
import ChipEight.Text.Unprintable

/-! Single characters as messages quote them. -/

namespace ChipEight.Quoted

/-- The code point of a character in lower-case digits between braces. -/
def codePoint (c : Char) : String :=
  "\\u\x7b" ++ String.ofList ((Hexadecimal.digits c.toNat).map Char.toLower) ++ "\x7d"

/-- The escape of a character that has a short one. -/
def shortEscape? (c : Char) : Option String :=
  match c.toNat with
  | 0 => some "\\0"
  | 9 => some "\\t"
  | 10 => some "\\n"
  | 13 => some "\\r"
  | 39 => some "\\'"
  | 92 => some "\\\\"
  | _ => none

/-- What stands between the quotes for a character. -/
def body (c : Char) : String :=
  match shortEscape? c with
  | some escape => escape
  | none =>
    -- A mark that would join the opening quote is named by its number like one that has no form.
    if CharClass.extending.contains c || CharClass.unprintable.contains c then codePoint c
    else c.toString

/-- A character between single quotes, with an escape where it could not be read as itself. -/
def char (c : Char) : String :=
  "'" ++ body c ++ "'"

end ChipEight.Quoted
