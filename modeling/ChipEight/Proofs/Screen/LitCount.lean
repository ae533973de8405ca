import ChipEight.Proofs.Machine.Sound
import ChipEight.Proofs.Screen.SpriteRows

/-! The number of lit pixels: a set bit of a sprite row adds one to it, or it puts a pixel out. -/

namespace ChipEight.Screen

/-- The number of set bits of a byte. -/
def setBits (data : UInt8) : Nat := data.toBitVec.cpop.toNat

/-- The number of pixels that are lit on a screen and no longer on a later one. -/
def goneOut (screen later : Screen) : Nat :=
  (List.finRange (screenWidth * screenHeight)).countP fun place =>
    screen.lit place && !later.lit place

/-- The number of bits that sprite rows have set. -/
def totalBits : List SpriteRow → Nat
  | [] => 0
  | row :: rest => setBits row.data + totalBits rest

/-- The lit pixels are counted position by position. -/
theorem litCount_eq (screen : Screen) :
    screen.litCount = (List.finRange (screenWidth * screenHeight)).countP screen.lit := by
  -- Listed in order, the pixels are what stands at each position.
  have listed : screen.pixels.toList =
      (List.finRange (screenWidth * screenHeight)).map screen.lit := by
    apply List.ext_getElem
    · simp
    · intro place _ _
      simp [lit]
  rw [litCount, listed, List.count_eq_countP, List.countP_map]
  simp [Function.comp_def]

/-- Whatever positions are counted, each flipped one among them is lit from now on or gone. -/
theorem countP_flipped {screen later : Screen} {places : List (Fin (screenWidth * screenHeight))}
    (flipped : ∀ place, later.lit place = (screen.lit place ^^ places.contains place))
    (positions : List (Fin (screenWidth * screenHeight))) :
    positions.countP later.lit +
        2 * positions.countP (fun place => screen.lit place && !later.lit place) =
      positions.countP screen.lit + positions.countP places.contains := by
  -- The balance holds position by position, so it does not matter which of them are counted.
  induction positions with
  | nil => rfl
  | cons place rest ih =>
    simp only [List.countP_cons, flipped place]
    -- A flipped position that is gone is missing once and counted twice.
    cases screen.lit place <;> cases places.contains place <;> simp <;> omega

/-- Different places are met once each when all positions are gone through. -/
theorem countP_contains {places : List (Fin (screenWidth * screenHeight))}
    (distinct : places.Nodup) :
    (List.finRange (screenWidth * screenHeight)).countP places.contains = places.length := by
  rw [List.countP_eq_length_filter]
  apply List.Perm.length_eq
  -- Neither list names a position twice, so they need only have the same members.
  refine (List.perm_ext_iff_of_nodup ((List.nodup_finRange _).filter _) distinct).mpr ?_
  intro place
  rw [List.mem_filter, List.contains_iff_mem]
  exact and_iff_right (List.mem_finRange place)

/-- The set bits of a word are counted from the lowest up. -/
theorem countP_getLsbD {width : Nat} (word : BitVec width) (count : Nat) :
    (List.range count).countP word.getLsbD = word.cpopNatRec count 0 := by
  induction count with
  | zero => rfl
  | succ count ih =>
    -- The word's own count goes on from the next bit, so that bit is taken out of it first.
    rw [List.range_succ, List.countP_append, ih, List.countP_singleton, BitVec.cpopNatRec_succ,
      BitVec.cpopNatRec_eq (0 + (word.getLsbD count).toNat)]
    cases word.getLsbD count <;> simp

/-- A sprite row covers a pixel for each set bit. -/
theorem length_covered (x y : Nat) (data : UInt8) : (covered x y data).length = setBits data := by
  -- The columns go through the bits from the highest down.
  have backwards : (List.range 8).map (7 - ·) = (List.range 8).reverse := by decide
  calc (covered x y data).length
    _ = (List.range 8).countP (data.toBitVec.getLsbD ∘ (7 - ·)) := by
      rw [covered, columns, List.length_map, ← List.countP_eq_length_filter]
      rfl
    _ = ((List.range 8).map (7 - ·)).countP data.toBitVec.getLsbD := List.countP_map.symm
    _ = (List.range 8).countP data.toBitVec.getLsbD := by rw [backwards, List.countP_reverse]
    _ = setBits data := by rw [countP_getLsbD, setBits, BitVec.toNat_cpop]

/-- Each set bit of a sprite row lights a pixel or puts one out. -/
theorem litCount_drawByte (screen : Screen) (x y : Nat) (data : UInt8) :
    (screen.drawByte x y data).1.litCount + 2 * screen.goneOut (screen.drawByte x y data).1 =
      screen.litCount + setBits data := by
  -- Around the edge as well the flipped positions are as many as the set bits.
  have flipped : (List.finRange (screenWidth * screenHeight)).countP (covered x y data).contains =
      setBits data := (countP_contains (nodup_covered x y data)).trans (length_covered x y data)
  rw [litCount_eq, litCount_eq, goneOut, countP_flipped (screen.lit_drawByte x y data), flipped]

/-- A pixel is gone when there is one that was lit and is not any more. -/
theorem goneOut_pos_iff {screen later : Screen} :
    0 < screen.goneOut later ↔ ∃ place, screen.lit place = true ∧ later.lit place = false := by
  -- Something is counted when there is something to count.
  rw [goneOut, List.countP_pos_iff]
  simp

/-- Drawing a sprite row reports whether a pixel is gone. -/
theorem drawByte_erased_iff_goneOut (screen : Screen) (x y : Nat) (data : UInt8) :
    (screen.drawByte x y data).2 = true ↔ 0 < screen.goneOut (screen.drawByte x y data).1 := by
  rw [goneOut_pos_iff]
  exact screen.any_lit_iff_gone (nodup_covered x y data)

/-- Over several rows the bits are accounted for by the pixels that each of them puts out. -/
theorem exists_litCount_drawRows (screen : Screen) (rows : List SpriteRow) :
    ∃ gone, (screen.drawRows rows).1.litCount + 2 * gone = screen.litCount + totalBits rows ∧
      ((∀ erased ∈ (screen.drawRows rows).2, erased = false) ↔ gone = 0) := by
  -- Each row is balanced against the screen that the rows before it left.
  induction rows generalizing screen with
  | nil => exact ⟨0, rfl, by simp [drawRows]⟩
  | cons row rest ih =>
    obtain ⟨later, balance, unflagged⟩ := ih (screen.drawByte row.x row.y row.data).1
    have first := screen.litCount_drawByte row.x row.y row.data
    have unreported : (screen.drawByte row.x row.y row.data).2 = false ↔
        screen.goneOut (screen.drawByte row.x row.y row.data).1 = 0 := by
      rw [← Bool.not_eq_true, drawByte_erased_iff_goneOut, Nat.not_lt, Nat.le_zero]
    -- What the first row puts out is added to what the others put out.
    refine ⟨screen.goneOut (screen.drawByte row.x row.y row.data).1 + later, ?_, ?_⟩
    · simp only [drawRows, totalBits] at balance ⊢
      omega
    · simp only [drawRows, List.forall_mem_cons, unflagged, unreported]
      omega

/--
Drawing a sprite row changes the number of lit pixels by its set bits, less two for each pixel that
it puts out, and reports whether there is one. Going through its columns one by one comes to the
same as long as the last of them has a number of sixty-four bits. So of several rows none reports
anything exactly when all their bits light pixels, and the lit pixels are even or odd as the bits
are.
-/
theorem lit_count_accounts (screen : Screen) :
    (∀ x y data,
      (screen.drawByte x y data).1.litCount + 2 * screen.goneOut (screen.drawByte x y data).1 =
        screen.litCount + setBits data ∧
      ((screen.drawByte x y data).2 = true ↔
        0 < screen.goneOut (screen.drawByte x y data).1) ∧
      (x + 7 < Guarded.hostLimit →
        Guarded.drawByte screen x y data = .ok (screen.drawByte x y data))) ∧
    ∀ rows : List SpriteRow,
      ((∀ erased ∈ (screen.drawRows rows).2, erased = false) ↔
        (screen.drawRows rows).1.litCount = screen.litCount + totalBits rows) ∧
      (screen.drawRows rows).1.litCount % 2 = (screen.litCount + totalBits rows) % 2 := by
  constructor
  · intro x y data
    exact ⟨screen.litCount_drawByte x y data, screen.drawByte_erased_iff_goneOut x y data,
      fun near => Guarded.drawByte_eq near screen y data⟩
  · intro rows
    obtain ⟨gone, balance, unflagged⟩ := screen.exists_litCount_drawRows rows
    rw [unflagged]
    constructor
    · -- Nothing is gone when nothing is missing from the sum.
      omega
    · omega

/-- The last row that has all its columns wraps around the corner, and a second one meets it. -/
theorem lit_count_accounts_last_columns :
    let column := 0xFFFFFFFFFFFFFFF8
    let rows : List SpriteRow := [⟨column, 63, 0xFF⟩, ⟨62, 31, 0x3C⟩]
    column + 7 < Guarded.hostLimit ∧
      Guarded.drawByte blank column 63 0xFF = .ok (blank.drawByte column 63 0xFF) ∧
      totalBits rows = 12 ∧
      (blank.drawRows rows).1.litCount % 2 = (blank.litCount + totalBits rows) % 2 := by
  intro column rows
  -- The columns of the first row end at the largest number that there is.
  have near : column + 7 < Guarded.hostLimit := by decide
  obtain ⟨each, all⟩ := lit_count_accounts blank
  exact ⟨near, (each column 63 0xFF).2.2 near, by decide, (all rows).2⟩

end ChipEight.Screen
