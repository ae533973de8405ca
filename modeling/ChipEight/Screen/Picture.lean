import ChipEight.Screen.Basic

/-! The screen as text: a line for each row and a character for each pixel. -/

namespace ChipEight.Screen

/-- The rows of the screen from the top, each from the left. -/
def rows (screen : Screen) : List (List Bool) :=
  (List.range screenHeight).map fun y =>
    (List.range screenWidth).map fun x => screen.lit (position x y)

/-- The character for a pixel. -/
def mark (lit : Bool) : Char := if lit then '#' else '.'

/-- The lines of the picture from the top. -/
def lines (screen : Screen) : List String :=
  screen.rows.map fun row => String.ofList (row.map mark)

/-- The picture, its lines parted by single line feeds. -/
def picture (screen : Screen) : String :=
  -- There is no line feed behind the last line.
  "\n".intercalate screen.lines

end ChipEight.Screen
