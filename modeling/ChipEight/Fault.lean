import ChipEight.Text.Quoted

/-! What can go wrong in the console, and how each failure is worded. -/

namespace ChipEight

/-- A numbered range that an access can leave. -/
inductive Space where
  /-- The addresses of memory. -/
  | memory
  /-- The columns of the screen. -/
  | column
  /-- The rows of the screen. -/
  | row
  /-- The numbers of the registers. -/
  | register
deriving DecidableEq, Repr

/-- The first position past the end of a space. -/
def Space.limit : Space → Nat
  | memory => 0x1000
  | column => 64
  | row => 32
  | register => 16

/-- The name of a space in messages. -/
def Space.name : Space → String
  | memory => "memory address"
  | column => "framebuffer x"
  | row => "framebuffer y"
  | register => "register"

/-- The number of bytes that a program may have, from address 0x200 to the end of memory. -/
def maxRomSize : Nat := 0xE00

/-- The cause of a failed operation. -/
inductive Fault where
  /-- A program of this many bytes does not fit in memory. -/
  | romTooLarge (size : Nat)
  /-- The text of a program holds a character that is neither blank nor a digit. -/
  | badDigit (c : Char)
  /-- The text of a program holds half a byte too much, its digits being counted here. -/
  | oddDigits (count : Nat)
  /-- A return had no call to return from. -/
  | stackUnderflow
  /-- The keypad has no key of this number. -/
  | noSuchKey (key : Nat)
  /-- An access reached this position outside its space. -/
  | outOfBounds (space : Space) (position : Nat)
  /-- The source of random bytes had none to give, for a reason of its own. -/
  | noRandomByte (reason : String)
deriving DecidableEq, Repr

/-- The wording of a fault. -/
def Fault.message : Fault → String
  | romTooLarge size =>
    "ROM is too large (" ++ toString size ++ " bytes), max size is " ++ toString maxRomSize ++
      " bytes"
  | badDigit c => "invalid hex ROM encoding: non-hex character " ++ Quoted.char c
  | oddDigits count =>
    "invalid hex ROM encoding: odd number of hex digits (" ++ toString count ++ ")"
  | stackUnderflow => "stack underflow: return with empty call stack"
  | noSuchKey key => "invalid key index " ++ Hexadecimal.marked 1 key ++ ", expected 0x0..=0xF"
  | outOfBounds space position =>
    space.name ++ " out of bounds: " ++ Hexadecimal.marked 1 position ++
      " (limit " ++ Hexadecimal.marked 1 space.limit ++ ")"
  | noRandomByte reason => "failed to get random byte: " ++ reason

/-- What lies behind a fault, when it came from outside the console. -/
def Fault.cause? : Fault → Option String
  | noRandomByte reason => some reason
  | _ => none

/-- The wording of a fault followed by that of its cause, even where it was told already. -/
def Fault.report (fault : Fault) : String :=
  match fault.cause? with
  | some cause => fault.message ++ ": " ++ cause
  | none => fault.message

end ChipEight
