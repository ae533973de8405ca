/-! Numbers written in base sixteen. -/

namespace ChipEight.Hexadecimal

/-- The upper-case digit of a value below sixteen. -/
def digit (value : Nat) : Char :=
  -- The letters start at 65, ten values after the digit zero at 48.
  if value < 10 then Char.ofNat (48 + value) else Char.ofNat (55 + value)

/-- The digits of a number, most significant first, with no leading zero. -/
def digits (n : Nat) : List Char :=
  if n < 16 then [digit n] else digits (n / 16) ++ [digit (n % 16)]
termination_by n
decreasing_by omega

/-- The digits of a number after as many zeros as it takes to fill the width. -/
def padded (width n : Nat) : List Char :=
  List.replicate (width - (digits n).length) '0' ++ digits n

/-- The text of a number with the mark of its base and at least the given count of digits. -/
def marked (width n : Nat) : String :=
  "0x" ++ String.ofList (padded width n)

/-- The value of a digit of either case, if the character is one. -/
def value? (c : Char) : Option Nat :=
  -- Only the digits and letters of ASCII count, other scripts have no say here.
  if '0' ≤ c ∧ c ≤ '9' then some (c.toNat - 48)
  else if 'A' ≤ c ∧ c ≤ 'F' then some (c.toNat - 55)
  else if 'a' ≤ c ∧ c ≤ 'f' then some (c.toNat - 87)
  else none

/-- The number that digits of either case spell after a number already read. -/
def readFrom (soFar : Nat) : List Char → Option Nat
  | [] => some soFar
  | c :: rest => do readFrom (16 * soFar + (← value? c)) rest

/-- The number that digits of either case spell, if there are any and nothing else. -/
def read? (text : List Char) : Option Nat :=
  -- No digits at all would spell zero, which is not meant.
  if text.isEmpty then none else readFrom 0 text

/--
The number that digits of either case spell after a number already read, as long as no part of it
passes the limit.
-/
def readFromWithin (limit soFar : Nat) : List Char → Option Nat
  | [] => some soFar
  | c :: rest => do
    let number := 16 * soFar + (← value? c)
    if number ≤ limit then readFromWithin limit number rest else none

/-- The number that digits of either case spell, if there are any and no part passes the limit. -/
def readWithin? (limit : Nat) (text : List Char) : Option Nat :=
  if text.isEmpty then none else readFromWithin limit 0 text

end ChipEight.Hexadecimal
