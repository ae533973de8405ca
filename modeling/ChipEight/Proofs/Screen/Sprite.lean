import ChipEight.Screen.Laws

/-! A whole sprite: it covers different pixels with its rows, and flips each of them once. -/

namespace ChipEight.Screen

/-- The positions that a sprite covers when its upper left corner stands at a column and a row. -/
def spriteCovered (x y : Nat) : List UInt8 → List (Fin (screenWidth * screenHeight))
  | [] => []
  | data :: rest => covered x y data ++ spriteCovered x (y + 1) rest

/-- A sprite row covers the columns of its set bits, the highest bit being on the left. -/
theorem mem_covered_iff {x y : Nat} {data : UInt8} {place : Fin (screenWidth * screenHeight)} :
    place ∈ covered x y data ↔
      ∃ column < 8, data.toNat.testBit (7 - column) = true ∧ place = position (x + column) y := by
  simp only [covered, columns, List.mem_map, List.mem_filter, List.mem_range]
  -- A column is one of eight whose bit is set.
  constructor
  · rintro ⟨column, ⟨within, set⟩, rfl⟩
    exact ⟨column, within, set, rfl⟩
  · rintro ⟨column, within, set, rfl⟩
    exact ⟨column, ⟨within, set⟩, rfl⟩

/-- A sprite covers what its rows cover, each a row further down the screen. -/
theorem mem_spriteCovered_iff {x y : Nat} {sprite : List UInt8}
    {place : Fin (screenWidth * screenHeight)} :
    place ∈ spriteCovered x y sprite ↔
      ∃ row data, sprite[row]? = some data ∧ place ∈ covered x (y + row) data := by
  induction sprite generalizing y with
  | nil => simp [spriteCovered]
  | cons first rest ih =>
    rw [spriteCovered, List.mem_append, ih]
    -- The rows after the first are counted from one on.
    constructor
    · rintro (top | ⟨row, data, listed, below⟩)
      · exact ⟨0, first, rfl, top⟩
      · have down : y + 1 + row = y + (row + 1) := by omega
        exact ⟨row + 1, data, listed, down ▸ below⟩
    · rintro ⟨row, data, listed, inside⟩
      cases row with
      | zero =>
        cases listed
        exact Or.inl inside
      | succ row =>
        have down : y + (row + 1) = y + 1 + row := by omega
        exact Or.inr ⟨row, data, listed, down ▸ inside⟩

/-- A sprite that is no higher than the screen covers different pixels, around the edges as well. -/
theorem nodup_spriteCovered (x y : Nat) {sprite : List UInt8}
    (short : sprite.length ≤ screenHeight) : (spriteCovered x y sprite).Nodup := by
  induction sprite generalizing y with
  | nil => exact List.nodup_nil
  | cons first rest ih =>
    rw [List.length_cons] at short
    rw [spriteCovered, List.nodup_append]
    refine ⟨nodup_covered x y first, ih (y + 1) (by omega), ?_⟩
    intro place top other below same
    -- The rows further down come back to the first one only after a lap of the screen.
    obtain ⟨column, _, _, rfl⟩ := mem_covered_iff.mp top
    obtain ⟨row, data, listed, inside⟩ := mem_spriteCovered_iff.mp below
    obtain ⟨column', _, _, rfl⟩ := mem_covered_iff.mp inside
    have near : row < rest.length := (List.getElem?_eq_some_iff.mp listed).1
    have down := (position_eq_iff.mp same).2
    simp only [screenHeight] at short down
    omega

/-- Drawing a sprite flips the pixels that it covers and reports whether one of them was lit. -/
theorem drawSprite_eq (screen : Screen) (x y : Nat) {sprite : List UInt8}
    (short : sprite.length ≤ screenHeight) :
    screen.drawSprite x y sprite =
      ((spriteCovered x y sprite).foldl flip screen,
        (spriteCovered x y sprite).any screen.lit) := by
  induction sprite generalizing screen y with
  | nil => rfl
  | cons first rest ih =>
    have distinct := nodup_spriteCovered x y short
    rw [spriteCovered, List.nodup_append] at distinct
    -- What the first row flips is none of what the others ask about.
    have apart : ∀ place ∈ covered x y first, place ∉ spriteCovered x (y + 1) rest :=
      fun place top below => distinct.2.2 place top place below rfl
    rw [List.length_cons] at short
    have below : rest.length ≤ screenHeight := by omega
    simp only [drawSprite, drawByte, ih _ (y + 1) below, spriteCovered, List.foldl_append,
      List.any_append, screen.any_lit_foldl_flip apart]

/-- A pixel is flipped by a sprite when the sprite covers it. -/
theorem lit_drawSprite_ne_iff (screen : Screen) (x y : Nat) {sprite : List UInt8}
    (short : sprite.length ≤ screenHeight) (place : Fin (screenWidth * screenHeight)) :
    (screen.drawSprite x y sprite).1.lit place ≠ screen.lit place ↔
      place ∈ spriteCovered x y sprite := by
  -- Each covered pixel is flipped once, so it does not come back.
  rw [drawSprite_eq screen x y short,
    screen.lit_foldl_flip_of_nodup (nodup_spriteCovered x y short), ← List.contains_iff_mem]
  cases screen.lit place <;> cases (spriteCovered x y sprite).contains place <;> simp

/-- Drawing a sprite reports whether a pixel went out. -/
theorem drawSprite_erased_iff (screen : Screen) (x y : Nat) {sprite : List UInt8}
    (short : sprite.length ≤ screenHeight) :
    (screen.drawSprite x y sprite).2 = true ↔
      ∃ place, screen.lit place = true ∧ (screen.drawSprite x y sprite).1.lit place = false := by
  rw [drawSprite_eq screen x y short]
  exact screen.any_lit_iff_gone (nodup_spriteCovered x y short)

end ChipEight.Screen
