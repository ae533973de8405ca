import Mathlib.Data.List.Forall2
import ChipEight.Screen.Laws

/-! Sprite rows drawn one after the other: pixels do not see their order, nor laps of the screen. -/

namespace ChipEight

open Screen

/-- A row of a sprite, by the place of its left end and its bits. -/
structure SpriteRow where
  /-- The column of its left end, which wraps around the right edge. -/
  x : Nat
  /-- The row of the screen, which wraps around the lower edge. -/
  y : Nat
  /-- A bit for each of eight columns, the highest one first. -/
  data : UInt8
deriving DecidableEq

namespace SpriteRow

/-- The positions that a sprite row covers. -/
def covered (row : SpriteRow) : List (Fin (screenWidth * screenHeight)) :=
  Screen.covered row.x row.y row.data

/-- Two sprite rows have the same bits and stand whole laps of the screen apart. -/
def Congruent (row other : SpriteRow) : Prop :=
  row.x % screenWidth = other.x % screenWidth ∧
    row.y % screenHeight = other.y % screenHeight ∧ row.data = other.data

instance (row other : SpriteRow) : Decidable (row.Congruent other) :=
  inferInstanceAs (Decidable (_ ∧ _))

end SpriteRow

namespace Screen

/-- The screen with sprite rows drawn on it in turn, and for each whether a lit pixel went out. -/
def drawRows (screen : Screen) : List SpriteRow → Screen × List Bool
  | [] => (screen, [])
  | row :: rest =>
    let (drawn, erased) := screen.drawByte row.x row.y row.data
    let (finished, erasedLater) := drawn.drawRows rest
    (finished, erased :: erasedLater)

/-- A sprite row covers the same pixels from any number of laps away. -/
theorem covered_congr {row other : SpriteRow} (apart : row.Congruent other) :
    row.covered = other.covered := by
  obtain ⟨across, down, bits⟩ := apart
  unfold SpriteRow.covered covered
  rw [bits]
  apply List.map_congr_left
  intro column _
  -- Whole laps stay whole laps when a column is added to both ends.
  exact position_eq_iff.mpr ⟨Nat.add_mod_eq_add_mod_right column across, down⟩

/-- Sprite rows that cover the same pixels are drawn alike, down to what goes out. -/
theorem drawByte_eq_of_covered {row other : SpriteRow} (same : row.covered = other.covered)
    (screen : Screen) :
    screen.drawByte row.x row.y row.data = screen.drawByte other.x other.y other.data := by
  -- What goes out is asked of the same pixels that are flipped.
  have places : covered row.x row.y row.data = covered other.x other.y other.data := same
  simp only [drawByte, places]

/-- Drawing sprite rows flips the pixels that they cover, one after the other. -/
theorem drawRows_fst (screen : Screen) (rows : List SpriteRow) :
    (screen.drawRows rows).1 = (rows.flatMap SpriteRow.covered).foldl flip screen := by
  induction rows generalizing screen with
  | nil => rfl
  | cons row rest ih =>
    -- The pixels of the first row come before those of the others.
    rw [List.flatMap_cons, List.foldl_append]
    exact ih _

/-- A pixel ends up flipped when an odd number of sprite rows cover it. -/
theorem lit_drawRows (screen : Screen) (rows : List SpriteRow)
    (place : Fin (screenWidth * screenHeight)) :
    (screen.drawRows rows).1.lit place =
      (screen.lit place ^^ decide ((rows.flatMap SpriteRow.covered).count place % 2 = 1)) := by
  -- Two flips of a pixel are none, whatever is flipped in between.
  rw [drawRows_fst, lit_foldl_flip]

/-- Rows that are drawn after others are drawn on the screen that those leave. -/
theorem drawRows_append_fst (screen : Screen) (rows others : List SpriteRow) :
    (screen.drawRows (rows ++ others)).1 = ((screen.drawRows rows).1.drawRows others).1 := by
  simp only [drawRows_fst, List.flatMap_append, List.foldl_append]

/-- In another order the rows cover every pixel as often. -/
theorem count_covered_perm {rows others : List SpriteRow} (shuffled : rows.Perm others)
    (place : Fin (screenWidth * screenHeight)) :
    (rows.flatMap SpriteRow.covered).count place =
      (others.flatMap SpriteRow.covered).count place :=
  (shuffled.flatMap_right SpriteRow.covered).count_eq place

/-- The order of sprite rows is not seen in the pixels. -/
theorem drawRows_perm (screen : Screen) {rows others : List SpriteRow}
    (shuffled : rows.Perm others) : (screen.drawRows rows).1 = (screen.drawRows others).1 := by
  -- Screens are the same when their pixels are, and those are told by how often they are covered.
  apply eq_of_lit
  intro place
  rw [lit_drawRows, lit_drawRows, count_covered_perm shuffled]

/-- Rows that are laps of the screen apart are drawn alike, down to what goes out. -/
theorem drawRows_congr (screen : Screen) {rows others : List SpriteRow}
    (apart : List.Forall₂ SpriteRow.Congruent rows others) :
    screen.drawRows rows = screen.drawRows others := by
  induction apart generalizing screen with
  | nil => rfl
  | cons first _ ih =>
    -- The first rows leave the same screen behind, and the others are drawn on that.
    simp only [drawRows, drawByte_eq_of_covered (covered_congr first), ih]

/-- What is drawn once more, in whatever order, is undone. -/
theorem drawRows_drawRows (screen : Screen) {rows others : List SpriteRow}
    (shuffled : rows.Perm others) : ((screen.drawRows rows).1.drawRows others).1 = screen := by
  apply eq_of_lit
  intro place
  rw [← drawRows_append_fst, lit_drawRows, List.flatMap_append, List.count_append,
    count_covered_perm shuffled]
  -- Each pixel is flipped twice as often as the rows cover it, which is an even number.
  have even : ¬ ((others.flatMap SpriteRow.covered).count place +
      (others.flatMap SpriteRow.covered).count place) % 2 = 1 := by omega
  rw [decide_eq_false even, Bool.xor_false]

/--
The pixels are flipped by sprite rows in whatever order they come, a row does the same from whole
laps of the screen away, and rows that are drawn a second time in any order are undone.
-/
theorem rows_flip_on_torus (screen : Screen) (rows others : List SpriteRow) :
    (rows.Perm others → (screen.drawRows rows).1 = (screen.drawRows others).1) ∧
    (List.Forall₂ SpriteRow.Congruent rows others →
      screen.drawRows rows = screen.drawRows others) ∧
    (rows.Perm others → ((screen.drawRows rows).1.drawRows others).1 = screen) :=
  ⟨screen.drawRows_perm, screen.drawRows_congr, screen.drawRows_drawRows⟩

/-- Two rows overlap across the corner of the screen, where both axes wrap. -/
theorem rows_flip_on_torus_corner :
    let rows : List SpriteRow := [⟨60, 31, 0xFF⟩, ⟨1, 63, 0xF0⟩]
    let swapped : List SpriteRow := [⟨1, 63, 0xF0⟩, ⟨60, 31, 0xFF⟩]
    let lapped : List SpriteRow := [⟨124, 95, 0xFF⟩, ⟨65, 31, 0xF0⟩]
    (rows.Perm swapped ∧ List.Forall₂ SpriteRow.Congruent rows lapped) ∧
      (blank.drawRows rows).1 = (blank.drawRows swapped).1 ∧
      blank.drawRows rows = blank.drawRows lapped ∧
      ((blank.drawRows rows).1.drawRows swapped).1 = blank := by
  intro rows swapped lapped
  -- The rows change places, and each of the lapped ones stands two laps away at most.
  have shuffled : rows.Perm swapped := List.Perm.swap _ _ _
  have apart : List.Forall₂ SpriteRow.Congruent rows lapped :=
    .cons (by decide) (.cons (by decide) .nil)
  obtain ⟨pixels, _, undone⟩ := rows_flip_on_torus blank rows swapped
  obtain ⟨_, alike, _⟩ := rows_flip_on_torus blank rows lapped
  exact ⟨⟨shuffled, apart⟩, pixels shuffled, alike apart, undone shuffled⟩

end Screen

end ChipEight
