import ChipEight.Memory.Basic
import ChipEight.Text.Blank

/-! Programs written as text: two digits to the byte, with blanks wherever the writer likes. -/

namespace ChipEight

namespace HexText

/-- The characters of a text that count, which are all but the blanks. -/
def significant (text : String) : List Char :=
  text.toList.filter fun c => !CharClass.blank.contains c

/-- The value of a digit, or the complaint that a character is none. -/
def nibble (c : Char) : Except Fault Nat :=
  match Hexadecimal.value? c with
  | none => .error (.badDigit c)
  | some value => .ok value

/-- The values of digits in order, or the first character that is no digit. -/
def nibbles (text : List Char) : Except Fault (List Nat) := text.mapM nibble

/-- Bytes from pairs of digit values, high one first; a last value without a partner is dropped. -/
def pairs : List Nat → List UInt8
  | high :: low :: rest => UInt8.ofNat (16 * high + low) :: pairs rest
  | _ => []

/-- The bytes that a text spells. -/
def decode (text : String) : Except Fault Bytes := do
  -- Every character is looked at before the digits are counted.
  let values ← nibbles (significant text)
  if values.length % 2 = 0 then .ok (.ofList (pairs values)) else .error (.oddDigits values.length)

end HexText

/-- Puts the program that a text spells into memory. -/
def Memory.loadHex (memory : Memory) (text : String) : Outcome Fault Memory :=
  -- The whole text is decoded before memory is touched.
  match HexText.decode text with
  | .ok rom => memory.load rom
  | .error fault => { state := memory, failure := some fault }

end ChipEight
