import ChipEight.Fault

/-! The screen: 64 by 32 pixels, each lit or not, on which sprites flip what they cover. -/

namespace ChipEight

/-- The number of pixels in a row of the screen. -/
abbrev screenWidth : Nat := 64

/-- The number of rows of the screen. -/
abbrev screenHeight : Nat := 32

/-- A pixel for each position, row after row from the top, each row from the left. -/
structure Screen where
  /-- Whether the pixel at each position is lit. -/
  pixels : Vector Bool (screenWidth * screenHeight)
deriving DecidableEq

namespace Screen

/-- The screen with no pixel lit. -/
def blank : Screen := ⟨Vector.replicate _ false⟩

instance : Inhabited Screen := ⟨blank⟩

/-- The position of the pixel in a column and a row, which both wrap around the edges. -/
def position (x y : Nat) : Fin (screenWidth * screenHeight) :=
  ⟨y % screenHeight * screenWidth + x % screenWidth, by
    -- The row starts at most one row before the end, and the column stays within it.
    have row : y % 32 < 32 := Nat.mod_lt _ (by decide)
    have column : x % 64 < 64 := Nat.mod_lt _ (by decide)
    simp only [screenHeight, screenWidth]
    omega⟩

/-- Whether the pixel at a position is lit. -/
def lit (screen : Screen) (place : Fin (screenWidth * screenHeight)) : Bool :=
  screen.pixels[place]

/-- The screen with the pixel at a position flipped. -/
def flip (screen : Screen) (place : Fin (screenWidth * screenHeight)) : Screen :=
  -- All other pixels stay, so flips of different pixels do not disturb each other.
  ⟨screen.pixels.set place (!screen.lit place)⟩

/-- The columns that a sprite row covers, counted from its left end at the highest bit. -/
def columns (data : UInt8) : List Nat :=
  -- The highest bit is drawn first, at the left end.
  (List.range 8).filter fun column => data.toNat.testBit (7 - column)

/-- The positions that a sprite row covers when its left end stands at a column and a row. -/
def covered (x y : Nat) (data : UInt8) : List (Fin (screenWidth * screenHeight)) :=
  (columns data).map fun column => position (x + column) y

/--
The screen with a sprite row drawn on it, and whether a lit pixel went out. Eight columns in a row
are different pixels even around the edge, so each covered pixel flips exactly once and goes out
if it was lit at the start.
-/
def drawByte (screen : Screen) (x y : Nat) (data : UInt8) : Screen × Bool :=
  let places := covered x y data
  -- Whether a pixel goes out is asked of the screen before any of them is flipped.
  let erased := places.any screen.lit
  (places.foldl flip screen, erased)

/-- Whether the pixel in a column and a row is lit; the column is checked first. -/
def pixelAt (screen : Screen) (x y : Nat) : Except Fault Bool :=
  -- Unlike a sprite, a question does not wrap around the edges.
  if screenWidth ≤ x then .error (.outOfBounds .column x)
  else if screenHeight ≤ y then .error (.outOfBounds .row y)
  else .ok (screen.lit (position x y))

/-- The number of lit pixels. -/
def litCount (screen : Screen) : Nat := screen.pixels.toList.count true

end Screen

end ChipEight
