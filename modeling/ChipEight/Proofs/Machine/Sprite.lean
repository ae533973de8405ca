import ChipEight.Proofs.Instruction.Opcode
import ChipEight.Proofs.Machine.Reachable
import ChipEight.Proofs.Screen.Sprite

/-! The word that draws a sprite: which pixels it flips, what it flags and what it leaves alone. -/

namespace ChipEight.Machine

open Nibbles Instruction Memory Screen

/--
Whether the sprite at the index, of so many rows and from the corner that two registers name, covers
the pixel in a column and a row.
-/
def SpriteCovers (machine : Machine) (x y height : Fin 16) (column : Fin screenWidth)
    (row : Fin screenHeight) : Prop :=
  -- Each byte is a row of the sprite, and each of its bits a column, the highest one first.
  ∃ down across byte, down < height.val ∧ across < 8 ∧
    machine.memory.read (machine.index.toNat + down) = .ok byte ∧
    byte.toNat.testBit (7 - across) = true ∧
    column.val = ((machine.reg x).toNat % screenWidth + across) % screenWidth ∧
    row.val = ((machine.reg y).toNat % screenHeight + down) % screenHeight

variable {machine : Machine} {x y height : Fin 16}

/-- The column and the row of a pixel are remainders already. -/
theorem position_eq_position_iff {left top : Nat} {column : Fin screenWidth}
    {row : Fin screenHeight} :
    position column row = position left top ↔
      column.val = left % screenWidth ∧ row.val = top % screenHeight := by
  rw [position_eq_iff, Nat.mod_eq_of_lt column.isLt, Nat.mod_eq_of_lt row.isLt]

/-- The pixels that a sprite covers are found from the bits in memory. -/
theorem mem_spriteCovered_iff_covers {sprite : List UInt8} {column : Fin screenWidth}
    {row : Fin screenHeight}
    (sliced : machine.memory.slice machine.index.toNat height = .ok sprite) :
    position column row ∈ spriteCovered (machine.reg x).toNat (machine.reg y).toNat sprite ↔
      machine.SpriteCovers x y height column row := by
  -- It makes no difference whether the corner wraps around before it is counted on from.
  simp only [mem_spriteCovered_iff, mem_covered_iff, getElem?_slice_eq_some_iff sliced,
    position_eq_position_iff, SpriteCovers, Nat.mod_add_mod]
  constructor
  · rintro ⟨down, byte, ⟨low, read⟩, across, within, set, places⟩
    exact ⟨down, across, byte, low, within, read, set, places⟩
  · rintro ⟨down, across, byte, low, within, read, set, places⟩
    exact ⟨down, byte, ⟨low, read⟩, across, within, set, places⟩

/-- The flag of a drawn sprite. -/
theorem reg_withSprite_flag (sprite : List UInt8) :
    (machine.withSprite x y sprite).reg flagRegister =
      flag (machine.screen.drawSprite (machine.reg x).toNat (machine.reg y).toNat sprite).2 := by
  rw [withSprite, reg_setReg, if_pos rfl]

/-- A drawn sprite leaves the registers alone but for the flag. -/
theorem reg_withSprite_of_ne {other : Fin registerCount} (apart : other ≠ flagRegister)
    (sprite : List UInt8) : (machine.withSprite x y sprite).reg other = machine.reg other := by
  -- The screen is no register, and the flag is another one.
  rw [withSprite, reg_setReg, if_neg apart]
  rfl

/-- The word of a sprite that lies in memory draws it and is done. -/
theorem cycle_of_draw (offered : Offer) (running : machine.halted = false)
    (word : machine.nextWord = toWord ⟨0xD, x, y, height⟩) {sprite : List UInt8}
    (sliced : machine.memory.slice machine.index.toNat height = .ok sprite) :
    machine.cycle offered =
      { state := { machine.noted.withSprite x y sprite with pc := machine.pc + 2 } } := by
  have done : machine.attempt offered =
      .ok { machine := machine.underway.withSprite x y sprite } := by
    -- Neither the record nor the program counter is read by a sprite.
    have found : machine.underway.memory.slice machine.underway.index.toNat height = .ok sprite :=
      sliced
    rw [attempt, word, (Opcode.draw x y height).decode_eq, effect_draw, toNat_rows, found]
    rfl
  rw [cycle_of_ok running done]
  rfl

/--
A sprite that lies in memory flips the pixels that its set bits come to lie on, around the edges of
the screen, and no other. The flag says whether a lit pixel went out, even where the corner was read
from it, and all else but the record and the program counter stays as it was.
-/
theorem sprite_flips_covered (machine : Machine) (offered : Offer) (x y height : Fin 16)
    (running : machine.pc ≤ 0x0FFE) (word : machine.nextWord = toWord ⟨0xD, x, y, height⟩)
    (room : machine.index.toNat + height ≤ 0x1000) :
    ∃ after, machine.cycle offered = { state := after } ∧
      (∀ (column : Fin screenWidth) (row : Fin screenHeight),
        after.screen.lit (position column row) ≠ machine.screen.lit (position column row) ↔
          machine.SpriteCovers x y height column row) ∧
      ((∃ place, machine.screen.lit place = true ∧ after.screen.lit place = false) →
        after.reg flagRegister = 1) ∧
      ((¬ ∃ place, machine.screen.lit place = true ∧ after.screen.lit place = false) →
        after.reg flagRegister = 0) ∧
      (∀ other, other ≠ flagRegister → after.reg other = machine.reg other) ∧
      after = { machine.noted with
        screen := after.screen, registers := after.registers, pc := machine.pc + 2 } := by
  have going : machine.halted = false :=
    halted_eq_false_iff.mpr (UInt16.le_iff_toNat_le.mp running)
  obtain ⟨sprite, sliced⟩ : ∃ sprite,
      machine.memory.slice machine.index.toNat height = .ok sprite := ⟨_, if_pos room⟩
  -- At most fifteen rows do not come around to the first one.
  have short : sprite.length ≤ screenHeight := by
    rw [length_slice sliced]
    exact Nat.le_of_lt (Nat.lt_trans height.isLt (by decide))
  have erased := machine.screen.drawSprite_erased_iff (machine.reg x).toNat (machine.reg y).toNat
    short
  -- The flag is set last, whatever its register said about the corner.
  have flagged : (machine.noted.withSprite x y sprite).reg flagRegister = _ :=
    reg_withSprite_flag sprite
  refine ⟨_, cycle_of_draw offered going word sliced, ?_, ?_, ?_, ?_, rfl⟩
  · -- Different pixels are flipped once each, so what is covered is what changes.
    intro column row
    rw [← mem_spriteCovered_iff_covers sliced]
    exact machine.screen.lit_drawSprite_ne_iff _ _ short _
  · intro gone
    exact flagged.trans (congrArg flag (erased.mpr gone))
  · intro kept
    exact flagged.trans (congrArg flag (Bool.eq_false_iff.mpr (mt erased.mp kept)))
  · intro other apart
    have kept : (machine.noted.withSprite x y sprite).reg other = machine.noted.reg other :=
      reg_withSprite_of_ne apart sprite
    exact kept

/--
The picture of a zero stands in the last corner, which the flag's own register names twice. It wraps
around both edges, and a lit pixel goes out.
-/
theorem sprite_flips_covered_flag_corner :
    let corner := position 63 31
    let machine : Machine :=
      { booted 0 (.ofList [0xDF, 0xF5]) .released with
        registers := Vector.replicate _ 0xFF, screen := blank.flip corner }
    (machine.pc ≤ 0x0FFE ∧ machine.nextWord = toWord ⟨0xD, 15, 15, 5⟩ ∧
        machine.index.toNat + (5 : Fin 16) ≤ 0x1000) ∧
      ∃ after, machine.cycle (.ok 0) = { state := after } ∧ after.screen.lit corner = false ∧
        after.reg flagRegister = 1 ∧ after.pc = 0x202 := by
  intro corner machine
  have running : machine.pc ≤ 0x0FFE := by decide
  have word : machine.nextWord = toWord ⟨0xD, 15, 15, 5⟩ :=
    nextWord_booted 0 (.ofList [0xDF, 0xF5]) .released
  have room : machine.index.toNat + (5 : Fin 16) ≤ 0x1000 := by decide
  obtain ⟨after, drawn, flipped, gone, _, _, rest⟩ :=
    sprite_flips_covered machine (.ok 0) 15 15 5 running word room
  -- The pixel was the first to be flipped on a blank screen.
  have lit : machine.screen.lit corner = true := by
    rw [lit_flip]
    simp [blank, Screen.lit]
  -- The picture starts with four set bits, and loading a program leaves it alone.
  have covers : machine.SpriteCovers 15 15 5 63 31 := by
    refine ⟨0, 0, 0xF0, by decide, by decide, ?_, by decide, by decide, by decide⟩
    rw [read_eq_ok_iff]
    show (install fresh.cells _)[0]? = _
    rw [Vector.getElem?_eq_getElem (by decide), getElem_install, if_pos (by decide), fresh,
      Vector.getElem_ofFn]
    rfl
  -- A lit pixel that is flipped is out.
  have out : after.screen.lit corner = false := by
    have changed : after.screen.lit corner ≠ machine.screen.lit corner := (flipped 63 31).mpr covers
    rw [lit] at changed
    exact Bool.eq_false_iff.mpr changed
  exact ⟨⟨running, word, room⟩, after, drawn, out, gone ⟨corner, lit, out⟩, by rw [rest]; rfl⟩

end ChipEight.Machine
