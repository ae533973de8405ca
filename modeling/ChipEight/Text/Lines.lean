/-! The lines of a text. -/

namespace ChipEight.Lines

/-- Lines with one more character at the front of the first. -/
def prepend (c : Char) : List (List Char) → List (List Char)
  | [] => [[c]]
  | line :: rest => (c :: line) :: rest

/--
The lines that line feeds divide a text into. A carriage return that ends a line belongs to the
break after it, and the end of the text is such a break too.
-/
def split : List Char → List (List Char)
  | [] => [[]]
  | '\n' :: rest | '\r' :: '\n' :: rest => [] :: split rest
  | ['\r'] => [[]]
  | c :: rest => prepend c (split rest)

/-- The lines of a text. -/
def ofText (text : String) : List String := (split text.toList).map String.ofList

end ChipEight.Lines
