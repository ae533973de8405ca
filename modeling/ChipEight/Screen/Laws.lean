import ChipEight.Screen.Basic

/-! Drawing told by the pixel at each position. -/

namespace ChipEight.Screen

/-- Two screens on which the same pixels are lit are the same. -/
theorem eq_of_lit {screen other : Screen} (same : ∀ place, screen.lit place = other.lit place) :
    screen = other :=
  congrArg Screen.mk (Vector.ext fun place known => same ⟨place, known⟩)

/-- Flipping a pixel changes that one alone. -/
theorem lit_flip (screen : Screen) (place other : Fin (screenWidth * screenHeight)) :
    (screen.flip place).lit other = (screen.lit other ^^ decide (place = other)) := by
  -- The cell of a pixel is found by its number.
  by_cases same : place = other
  · subst same
    simp [flip, lit]
  · have apart : place.val ≠ other.val := fun equal => same (Fin.ext equal)
    simp [flip, lit, same, Vector.getElem_set_ne _ _ apart]

/-- Flipping pixels one after the other changes those that come up an odd number of times. -/
theorem lit_foldl_flip (places : List (Fin (screenWidth * screenHeight))) (screen : Screen)
    (other : Fin (screenWidth * screenHeight)) :
    (places.foldl flip screen).lit other =
      (screen.lit other ^^ decide (places.count other % 2 = 1)) := by
  induction places generalizing screen with
  | nil => simp
  | cons place rest ih =>
    rw [List.foldl_cons, ih, lit_flip, List.count_cons]
    by_cases same : place = other
    · -- One more flip turns an odd count even and the other way round.
      subst same
      rcases Nat.mod_two_eq_zero_or_one (rest.count place) with even | odd
      · simp [even, Nat.add_mod]
      · simp [odd, Nat.add_mod]
    · simp [same]

/-- Different pixels are flipped once each. -/
theorem lit_foldl_flip_of_nodup (screen : Screen)
    {places : List (Fin (screenWidth * screenHeight))} (distinct : places.Nodup)
    (other : Fin (screenWidth * screenHeight)) :
    (places.foldl flip screen).lit other = (screen.lit other ^^ places.contains other) := by
  rw [lit_foldl_flip, distinct.count]
  -- A pixel comes up once or not at all.
  by_cases flipped : other ∈ places
  · rw [if_pos flipped, List.contains_iff_mem.2 flipped]
    rfl
  · have untouched : places.contains other = false := by
      rw [Bool.eq_false_iff]
      exact fun listed => flipped (List.contains_iff_mem.1 listed)
    rw [if_neg flipped, untouched]
    rfl

/-- Of different pixels that are flipped, those go out that were lit. -/
theorem any_lit_iff_gone (screen : Screen) {places : List (Fin (screenWidth * screenHeight))}
    (distinct : places.Nodup) :
    places.any screen.lit = true ↔
      ∃ place, screen.lit place = true ∧ (places.foldl flip screen).lit place = false := by
  rw [List.any_eq_true]
  apply exists_congr
  intro place
  rw [screen.lit_foldl_flip_of_nodup distinct, ← List.contains_iff_mem]
  -- A pixel goes out when it is lit and flipped.
  cases screen.lit place <;> cases places.contains place <;> simp

/-- Flipping a pixel that is not among others leaves them as they are. -/
theorem any_lit_flip (screen : Screen) {place : Fin (screenWidth * screenHeight)}
    {others : List (Fin (screenWidth * screenHeight))} (apart : place ∉ others) :
    others.any (screen.flip place).lit = others.any screen.lit := by
  -- Each of the others is looked at in its own cell.
  induction others with
  | nil => rfl
  | cons other rest ih =>
    rw [List.mem_cons, not_or] at apart
    obtain ⟨differs, further⟩ := apart
    simp [ih further, lit_flip, differs]

/-- Flipping pixels that are not among others leaves those as they are. -/
theorem any_lit_foldl_flip (screen : Screen)
    {places others : List (Fin (screenWidth * screenHeight))}
    (apart : ∀ place ∈ places, place ∉ others) :
    others.any (places.foldl flip screen).lit = others.any screen.lit := by
  induction places generalizing screen with
  | nil => rfl
  | cons place rest ih =>
    rw [List.forall_mem_cons] at apart
    rw [List.foldl_cons, ih _ apart.2, any_lit_flip screen apart.1]

/-- Two columns and rows name the same pixel when they are the same up to laps of the screen. -/
theorem position_eq_iff {x y x' y' : Nat} :
    position x y = position x' y' ↔
      x % screenWidth = x' % screenWidth ∧ y % screenHeight = y' % screenHeight := by
  rw [Fin.ext_iff]
  simp only [position, screenWidth, screenHeight]
  constructor
  · -- The column is less than a row is long, so it is the remainder of the position.
    intro same
    have column : x % 64 < 64 := Nat.mod_lt _ (by decide)
    have column' : x' % 64 < 64 := Nat.mod_lt _ (by decide)
    omega
  · rintro ⟨across, down⟩
    rw [across, down]

/-- The columns of a sprite row are less than its width. -/
theorem lt_of_mem_columns {data : UInt8} {column : Nat} (covers : column ∈ columns data) :
    column < 8 := by
  exact List.mem_range.1 (List.mem_filter.1 covers).1

/-- A sprite row covers different pixels with its columns, around the edge as well. -/
theorem nodup_covered (x y : Nat) (data : UInt8) : (covered x y data).Nodup := by
  have distinct : (columns data).Nodup := List.nodup_range.filter _
  refine List.pairwise_map.2 (distinct.imp_of_mem ?_)
  intro first second firstCovers secondCovers apart same
  -- Two columns of eight cannot meet on a row of sixty-four.
  have near := lt_of_mem_columns firstCovers
  have far := lt_of_mem_columns secondCovers
  have across := (position_eq_iff.mp same).1
  simp only [screenWidth] at across
  omega

/-- Drawing a sprite row flips the pixels that it covers and no others. -/
theorem lit_drawByte (screen : Screen) (x y : Nat) (data : UInt8)
    (place : Fin (screenWidth * screenHeight)) :
    (screen.drawByte x y data).1.lit place =
      (screen.lit place ^^ (covered x y data).contains place) :=
  screen.lit_foldl_flip_of_nodup (nodup_covered x y data) place

/-- The screen with rows of a sprite drawn below each other, and whether a lit pixel went out. -/
def drawSprite (screen : Screen) (x y : Nat) : List UInt8 → Screen × Bool
  | [] => (screen, false)
  | data :: rest =>
    let (drawn, erased) := screen.drawByte x y data
    let (finished, erasedBelow) := drawSprite drawn x (y + 1) rest
    (finished, erased || erasedBelow)

end ChipEight.Screen
