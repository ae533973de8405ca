import ChipEight.Text.CharClass

/-! Text for a terminal: the sequences in it that steer the terminal, and what is left to read. -/

namespace ChipEight

namespace CharClass

/-- The characters that lay a text out, the plain space apart. -/
def layout : CharClass where
  ranges := [(0x9, 0xA), (0xC, 0xD)]

/-- The characters that take their place in a line. -/
def placed : CharClass where
  ranges := [(0x20, 0x7E), (0x80, 0x10FFFF)]

/-- The characters that stand before the last one of a sequence and narrow down its meaning. -/
def intermediate : CharClass where
  ranges := [(0x20, 0x2F)]

/-- The characters that spell the parameters of a sequence. -/
def parameter : CharClass where
  ranges := [(0x30, 0x3F)]

/-- The characters that end a sequence with parameters. -/
def final : CharClass where
  ranges := [(0x40, 0x7E)]

/-- The characters that end the parameters of a string for a device. -/
def closing : CharClass where
  ranges := [(0x3C, 0x7E)]

end CharClass

namespace Terminal

/-- Whether the encoding of a character holds the byte that ends strings in eight-bit text. -/
def closesString (c : Char) : Bool := (String.utf8EncodeChar c).contains 0x9C

/-- A sequence that has begun, by how much of it has gone by. -/
inductive Sequence where
  /-- The escape character. -/
  | escape
  /-- The escape character and some intermediate characters. -/
  | intermediates
  /-- The opening of a sequence with parameters, and perhaps some of these. -/
  | control
  /-- The opening of a string for a device. -/
  | device
  /-- The opening of a string for a device and some parameters. -/
  | deviceParameters
  /-- The opening of a string for a device and some intermediate characters. -/
  | deviceIntermediates
  /-- The beginning of a string that is not meant to be read. -/
  | hidden
  /-- The beginning of a command to the system, such as a title for the window. -/
  | command
deriving DecidableEq, Repr

/-- Where the reading of a text stands. -/
inductive Phase where
  /-- Outside of any sequence. -/
  | plain
  /-- In a sequence. -/
  | within (sequence : Sequence)
  /-- At something to read in the middle of a sequence, which goes on after it. -/
  | aside (sequence : Sequence)
deriving DecidableEq, Repr

/-- What layout in the middle of a sequence does to it. -/
inductive LayoutRule where
  /-- The sequence ends without effect. -/
  | ends
  /-- What there is to read is read first, and the sequence goes on after it. -/
  | suspends
deriving DecidableEq, Repr

namespace Sequence

/-- Whether layout in the middle of a sequence is left to read: a string holds it like the rest. -/
def yields : Sequence → Bool
  | escape | intermediates | control => true
  | _ => false

/-- The phase after an escape character and another one. -/
def opened (c : Char) : Phase :=
  match c with
  | '[' => .within control
  | ']' => .within command
  | 'P' => .within device
  | 'X' | '^' | '_' => .within hidden
  | _ =>
    if CharClass.intermediate.contains c then .within intermediates
    else if CharClass.parameter.contains c || CharClass.final.contains c then .plain
    -- No sequence goes on with anything else, which is passed over.
    else .within escape

/-- The phase after a sequence and one more character that belongs to it. -/
def continued (sequence : Sequence) (c : Char) : Phase :=
  match sequence with
  | escape => opened c
  | intermediates =>
    if CharClass.parameter.contains c || CharClass.final.contains c then .plain
    else .within intermediates
  | control => if CharClass.final.contains c then .plain else .within control
  | device =>
    if CharClass.intermediate.contains c then .within deviceIntermediates
    else if CharClass.parameter.contains c then .within deviceParameters
    else if CharClass.final.contains c then .within hidden
    else .within device
  | deviceParameters =>
    if CharClass.intermediate.contains c then .within deviceIntermediates
    else if CharClass.closing.contains c then .within hidden
    else .within deviceParameters
  | deviceIntermediates =>
    if CharClass.parameter.contains c || CharClass.final.contains c then .within hidden
    else .within deviceIntermediates
  | hidden => if closesString c then .plain else .within hidden
  -- Only a bell ends a command in its own right.
  | command => if c.toNat = 7 then .plain else .within command

end Sequence

namespace Phase

/-- The phase after a character that means the same in every phase, if it is one. -/
def interrupted? (c : Char) : Option Phase :=
  match c.toNat with
  | 0x1B => some (within .escape)
  -- A sequence is cancelled.
  | 0x18 | 0x1A => some plain
  | _ => none

/-- Whether a character is left to read. -/
def shows (phase : Phase) (c : Char) : Bool :=
  match phase with
  | plain | aside _ => CharClass.layout.contains c || CharClass.placed.contains c
  | within sequence => sequence.yields && CharClass.layout.contains c

/-- The phase after a character that has its meaning from the phase. -/
def continued (rule : LayoutRule) (phase : Phase) (c : Char) : Phase :=
  match phase with
  | plain => plain
  | within sequence =>
    if phase.shows c then
      match rule with
      | .ends => plain
      | .suspends => aside sequence
    else sequence.continued c
  | aside sequence =>
    -- A character outside of ASCII makes the sequence forgotten.
    if phase.shows c then if c.toNat < 0x80 then phase else plain else sequence.continued c

/-- The phase after a character. -/
def next (rule : LayoutRule) (phase : Phase) (c : Char) : Phase :=
  (interrupted? c).getD (phase.continued rule c)

end Phase

/-- The characters of a text that are left to read from a phase on. -/
def visibleFrom (rule : LayoutRule) (phase : Phase) : List Char → List Char
  | [] => []
  | c :: rest =>
    let later := visibleFrom rule (phase.next rule c) rest
    if phase.shows c then c :: later else later

/-- What is left to read of a text. -/
def visible (rule : LayoutRule) (text : String) : String :=
  String.ofList (visibleFrom rule .plain text.toList)

/-- A text between the sequence that sets its look, and the one that takes all looks back. -/
def styled (look : String) (text : String) : String :=
  "\x1b[" ++ look ++ "m" ++ text ++ "\x1b[0m"

/-- A text in bold letters. -/
def bold (text : String) : String := styled "1" text

/-- A text in red letters. -/
def red (text : String) : String := styled "31" text

/-- A text in yellow letters. -/
def yellow (text : String) : String := styled "33" text

end Terminal

end ChipEight
