import ChipEight.Screen.Laws
import ChipEight.Screen.Picture

/-! A screen looked at in four ways: by single pixels, by rows, as text, and by what is counted. -/

namespace ChipEight.Screen

variable {screen other : Screen}

/-- The characters of a picture between its line feeds. -/
def writtenLines (screen : Screen) : List (List Char) := screen.picture.toList.splitOn '\n'

/-- Rows of one width that are laid end to end count through all of their places. -/
theorem flatten_counted {α : Type} (value : Nat → α) (width height : Nat) :
    ((List.range height).map fun y =>
      (List.range width).map fun x => value (y * width + x)).flatten =
        (List.range (height * width)).map value := by
  induction height with
  | zero => simp
  | succ height ih =>
    -- The last row goes on counting where the ones above it end.
    rw [List.range_succ, List.map_append, List.flatten_append, ih, Nat.succ_mul, List.range_add,
      List.map_append, List.map_map]
    simp [Function.comp_def]

/-- The pixel in a column and a row stands so many places after the start of the row. -/
theorem lit_position {x y : Nat} (across : x < screenWidth) (down : y < screenHeight) :
    screen.pixels[y * screenWidth + x]? = some (screen.lit (position x y)) := by
  have column : x < 64 := across
  have row : y < 32 := down
  have inside : y * screenWidth + x < screenWidth * screenHeight := by
    simp only [screenWidth, screenHeight]
    omega
  -- Neither the column nor the row wraps around.
  have place : position x y = ⟨y * screenWidth + x, inside⟩ := by
    rw [position, Fin.mk.injEq, Nat.mod_eq_of_lt across, Nat.mod_eq_of_lt down]
  rw [place, Vector.getElem?_eq_getElem inside]
  rfl

/-- A pixel is told in the columns and rows that there are. -/
theorem pixelAt_eq_ok_iff {x y : Nat} {on : Bool} :
    screen.pixelAt x y = .ok on ↔
      x < screenWidth ∧ y < screenHeight ∧ screen.lit (position x y) = on := by
  -- The column is checked first, and then the row.
  unfold pixelAt
  split
  · rename_i beyond
    simp [Nat.not_lt_of_le beyond]
  · rename_i across
    split
    · rename_i below
      simp [Nat.not_lt_of_le below]
    · rename_i down
      simp [Nat.lt_of_not_le across, Nat.lt_of_not_le down]

/-- Outside the screen a pixel is refused, for its column before its row. -/
theorem pixelAt_eq_error_iff {x y : Nat} {fault : Fault} :
    screen.pixelAt x y = .error fault ↔
      screenWidth ≤ x ∧ fault = .outOfBounds .column x ∨
        x < screenWidth ∧ screenHeight ≤ y ∧ fault = .outOfBounds .row y := by
  -- A row is not even looked at when the column is none.
  unfold pixelAt
  split
  · rename_i beyond
    simp [beyond, Nat.not_lt_of_le beyond, eq_comm]
  · rename_i across
    split
    · rename_i below
      simp [across, below, Nat.lt_of_not_le across, eq_comm]
    · rename_i down
      simp [across, down]

/-- The rows laid end to end are the pixels in their own order. -/
theorem flatten_rows (screen : Screen) : screen.rows.flatten = screen.pixels.toList := by
  -- As a number, each place is its row times the width and its column.
  have cells : screen.rows = (List.range screenHeight).map fun y =>
      (List.range screenWidth).map fun x =>
        screen.pixels[y * screenWidth + x]?.getD false := by
    refine List.map_congr_left fun y down => List.map_congr_left fun x across => ?_
    rw [lit_position (List.mem_range.mp across) (List.mem_range.mp down), Option.getD_some]
  rw [cells, flatten_counted (fun place => screen.pixels[place]?.getD false)]
  -- Both lists have the pixel of each place at that place.
  apply List.ext_getElem
  · simp [Nat.mul_comm]
  · intro place _ inside
    rw [Vector.length_toList] at inside
    simp [Vector.getElem?_eq_getElem inside]

/-- A row has a pixel for each column. -/
theorem length_of_mem_rows {row : List Bool} (listed : row ∈ screen.rows) :
    row.length = screenWidth := by
  obtain ⟨y, _, rfl⟩ := List.mem_map.mp listed
  rw [List.length_map, List.length_range]

/-- There are as many rows as the screen is high, each as long as it is wide. -/
theorem map_length_rows (screen : Screen) :
    screen.rows.map List.length = List.replicate screenHeight screenWidth := by
  -- Rows are counted, and each of them is as long as all others.
  rw [List.eq_replicate_iff]
  constructor
  · simp [rows]
  · intro length listed
    obtain ⟨row, within, rfl⟩ := List.mem_map.mp listed
    exact length_of_mem_rows within

/-- A row is found by its number, counted from the top. -/
theorem getElem?_rows {y : Nat} (down : y < screenHeight) :
    screen.rows[y]? =
      some ((List.range screenWidth).map fun x => screen.lit (position x y)) := by
  -- The rows are listed by their numbers.
  rw [rows, List.getElem?_map, List.getElem?_range down, Option.map_some]

/-- What stands in a row at a column is the pixel in that column and row. -/
theorem mem_rows_iff {x y : Nat} {on : Bool} :
    (∃ row, screen.rows[y]? = some row ∧ row[x]? = some on) ↔ screen.pixelAt x y = .ok on := by
  rw [pixelAt_eq_ok_iff]
  constructor
  · rintro ⟨row, listed, marked⟩
    -- There is no row of this number, and no such column in a row, outside the screen.
    have down : y < screenHeight := by
      have number := (List.getElem?_eq_some_iff.mp listed).1
      rwa [rows, List.length_map, List.length_range] at number
    have across : x < screenWidth := by
      have number := (List.getElem?_eq_some_iff.mp marked).1
      rwa [length_of_mem_rows (List.mem_of_getElem? listed)] at number
    rw [getElem?_rows down] at listed
    cases listed
    rw [List.getElem?_map, List.getElem?_range across] at marked
    exact ⟨across, down, Option.some.inj marked⟩
  · rintro ⟨across, down, lit⟩
    refine ⟨_, getElem?_rows down, ?_⟩
    rw [List.getElem?_map, List.getElem?_range across, Option.map_some, lit]

/-- The characters of a picture are its lines, parted by line feeds. -/
theorem toList_picture (screen : Screen) :
    screen.picture.toList = ['\n'].intercalate (screen.rows.map fun row => row.map mark) := by
  -- The text is put together from the texts of its lines.
  rw [picture, String.toList_intercalate, lines, List.map_map]
  simp [Function.comp_def]

/-- A pixel is never written as a line feed. -/
theorem mark_ne_lineFeed (on : Bool) : mark on ≠ '\n' := by
  -- There are two marks to be looked at.
  cases on <;> decide

/-- The line feeds of a picture part the rows, written pixel by pixel. -/
theorem writtenLines_eq (screen : Screen) :
    screen.writtenLines = screen.rows.map fun row => row.map mark := by
  rw [writtenLines, toList_picture]
  apply List.splitOn_intercalate
  · -- No line has a line feed in it.
    intro line listed broken
    obtain ⟨row, _, rfl⟩ := List.mem_map.mp listed
    obtain ⟨on, _, same⟩ := List.mem_map.mp broken
    exact mark_ne_lineFeed on same
  · simp [rows]

/-- Lines that are parted by another character have as many of one as they have together. -/
theorem count_intercalate {separator wanted : Char} (apart : separator ≠ wanted)
    (lines : List (List Char)) :
    ([separator].intercalate lines).count wanted = lines.flatten.count wanted := by
  -- What parts two lines is never what is counted.
  induction lines with
  | nil => rfl
  | cons line rest ih =>
    cases rest with
    | nil => simp
    | cons next rest =>
      rw [List.intercalate_cons_cons, List.count_append, ih]
      simp [apart]

/-- A picture has a mark for each lit pixel. -/
theorem count_picture (screen : Screen) : screen.picture.toList.count '#' = screen.litCount := by
  -- A lit pixel and no other is written as the mark that is counted.
  have marked : ∀ pixels : List Bool, (pixels.map mark).count '#' = pixels.count true := by
    intro pixels
    induction pixels with
    | nil => rfl
    | cons on rest ih => cases on <;> simp [mark, ih]
  rw [toList_picture, count_intercalate (by decide), ← List.map_flatten, flatten_rows, marked,
    litCount]

/-- A pixel is known by its character. -/
theorem mark_inj {on off : Bool} : mark on = mark off ↔ on = off := by
  cases on <;> cases off <;> decide

/-- A screen is known by its picture. -/
theorem picture_inj : screen.picture = other.picture ↔ screen.pixels = other.pixels := by
  constructor
  · intro same
    have written : screen.writtenLines = other.writtenLines := by
      rw [writtenLines, same, writtenLines]
    rw [writtenLines_eq, writtenLines_eq] at written
    -- The lines give back the rows, and the rows give back the pixels.
    have rows : screen.rows = other.rows :=
      (List.map_inj_right fun row row' =>
        (List.map_inj_right fun _ _ => mark_inj.mp).mp).mp written
    rw [← Vector.toList_inj, ← flatten_rows, rows, flatten_rows]
  · intro same
    exact congrArg picture (congrArg Screen.mk same)

/-- Every way to look at a screen shows the same pixels. -/
structure ShowsOnePicture (screen : Screen) : Prop where
  /-- A pixel is told in the columns and rows that there are. -/
  told : ∀ x y, (∃ on, screen.pixelAt x y = .ok on) ↔ x < 64 ∧ y < 32
  /-- Elsewhere it is refused, for its column before its row. -/
  refused : ∀ x y fault, screen.pixelAt x y = .error fault ↔
    64 ≤ x ∧ fault = .outOfBounds .column x ∨ x < 64 ∧ 32 ≤ y ∧ fault = .outOfBounds .row y
  /-- The pixels stand row after row. -/
  placed : ∀ x y on, screen.pixelAt x y = .ok on → screen.pixels[y * 64 + x]? = some on
  /-- There are as many rows as the screen is high, each as long as it is wide. -/
  rowLengths : screen.rows.map List.length = List.replicate 32 64
  /-- Laid end to end the rows are all the pixels, in their own order. -/
  rowsInOrder : screen.rows.flatten = screen.pixels.toList
  /-- A row has the pixels of its number, and no others. -/
  rowPixels : ∀ x y on, (∃ row, screen.rows[y]? = some row ∧ row[x]? = some on) ↔
    screen.pixelAt x y = .ok on
  /-- The line feeds of the picture part as many lines as there are rows, each as long. -/
  lineLengths : screen.writtenLines.map List.length = List.replicate 32 64
  /-- A line has the characters of the pixels of its number. -/
  lineMarks : ∀ x y on, screen.pixelAt x y = .ok on →
    ∃ written, screen.writtenLines[y]? = some written ∧
      written[x]? = some (if on then '#' else '.')
  /-- There are as many marks for lit pixels in the picture as lit pixels on the screen. -/
  marks : screen.picture.toList.count '#' = screen.litCount

/--
Whichever way one looks at a screen, by single pixels, by rows or as text, it shows the same pixels
in the same places, and the text has a mark for each that is counted as lit. So two screens with the
same picture have the same pixels.
-/
theorem views_show_one_picture (screen : Screen) :
    screen.ShowsOnePicture ∧
      ∀ other : Screen, screen.picture = other.picture ↔ screen.pixels = other.pixels := by
  refine ⟨?_, fun other => picture_inj⟩
  constructor
  case told =>
    intro x y
    constructor
    · rintro ⟨on, found⟩
      obtain ⟨across, down, _⟩ := pixelAt_eq_ok_iff.mp found
      exact ⟨across, down⟩
    · rintro ⟨across, down⟩
      exact ⟨_, pixelAt_eq_ok_iff.mpr ⟨across, down, rfl⟩⟩
  case refused => exact fun x y fault => pixelAt_eq_error_iff
  case placed =>
    intro x y on found
    obtain ⟨across, down, rfl⟩ := pixelAt_eq_ok_iff.mp found
    exact lit_position across down
  case rowLengths => exact map_length_rows screen
  case rowsInOrder => exact flatten_rows screen
  case rowPixels => exact fun x y on => mem_rows_iff
  case lineLengths =>
    -- A line has a character for each pixel of its row.
    rw [writtenLines_eq, List.map_map, ← map_length_rows screen]
    simp [Function.comp_def]
  case lineMarks =>
    intro x y on found
    obtain ⟨row, listed, marked⟩ := mem_rows_iff.mpr found
    refine ⟨row.map mark, ?_, ?_⟩
    · rw [writtenLines_eq, List.getElem?_map, listed, Option.map_some]
    · rw [List.getElem?_map, marked, Option.map_some, mark]
  case marks => exact count_picture screen

end ChipEight.Screen
