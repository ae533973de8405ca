import ChipEight.Machine.Execute
import ChipEight.Proofs.Except
import ChipEight.Screen.Laws

/-! A sprite drawn row by row, each of which can set the flag, told as one picture and one flag. -/

namespace ChipEight.Machine

/-- Setting a register to what it holds changes nothing. -/
theorem setReg_reg (machine : Machine) (x : Fin registerCount) :
    machine.setReg x (machine.reg x) = machine := by
  have same : machine.registers.set x machine.registers[x] = machine.registers :=
    Vector.set_getElem_self x.isLt
  rw [setReg, reg, same]

/-- The machine with a new screen, flagged if a pixel went out on the way and as it was if not. -/
def painted (machine : Machine) (drawn : Screen × Bool) : Machine :=
  { machine with screen := drawn.1 }.setReg flagRegister
    (if drawn.2 then 1 else machine.reg flagRegister)

/-- A machine is flagged once a pixel went out in any of two drawings. -/
theorem painted_painted (machine : Machine) (first second : Screen) (erased erasedBelow : Bool) :
    painted (painted machine (first, erased)) (second, erasedBelow) =
      painted machine (second, erased || erasedBelow) := by
  -- The flag of the first drawing shows through a second one that puts out nothing.
  cases erased <;> cases erasedBelow <;> simp [painted, setReg, reg]

/-- A row that puts out a pixel sets the flag, and one that does not leaves it alone. -/
theorem drawRows_cons (x y : Nat) (data : UInt8) (rest : List UInt8) (machine : Machine) :
    machine.drawRows x y (data :: rest) =
      (painted machine (machine.screen.drawByte x y data)).drawRows x (y + 1) rest := by
  rw [drawRows]
  cases lit : (machine.screen.drawByte x y data).2 with
  | true => simp [lit, painted, setReg]
  | false =>
    -- What the flag holds by then is put into it once more.
    simp only [lit, painted, Bool.false_eq_true, if_false]
    exact congrArg _ (setReg_reg _ flagRegister).symm

/-- The flag gathers over the rows what the screen reports for all of them at once. -/
theorem drawRows_eq (x y : Nat) (sprite : List UInt8) (machine : Machine) :
    machine.drawRows x y sprite = painted machine (machine.screen.drawSprite x y sprite) := by
  -- The flag of the rows so far is part of the machine that the others are drawn on.
  induction sprite generalizing y machine with
  | nil => exact (machine.setReg_reg flagRegister).symm
  | cons data rest ih =>
    rw [drawRows_cons, ih, Screen.drawSprite]
    exact painted_painted ..

/-- The machine with a sprite on its screen, flagged if a pixel went out. -/
def withSprite (machine : Machine) (x y : Fin registerCount) (sprite : List UInt8) : Machine :=
  let picture := machine.screen.drawSprite (machine.reg x).toNat (machine.reg y).toNat sprite
  { machine with screen := picture.1 }.setReg flagRegister (flag picture.2)

/-- A flag that was cleared before the first row says whether any row put out a pixel. -/
theorem drawRows_cleared (machine : Machine) (x y : Fin registerCount) (sprite : List UInt8) :
    (machine.setReg flagRegister 0).drawRows (machine.reg x).toNat (machine.reg y).toNat sprite =
      machine.withSprite x y sprite := by
  -- The corner is that of the machine before, whose flag may have been one of its registers.
  rw [drawRows_eq, withSprite]
  show painted (machine.setReg flagRegister 0) (machine.screen.drawSprite _ _ sprite) = _
  generalize machine.screen.drawSprite _ _ sprite = picture
  obtain ⟨screen, erased⟩ := picture
  -- A flag that was cleared and is not set again is the one that says no.
  cases erased <;> simp [painted, setReg, reg, flag]

/-- A sprite is drawn as a whole, or it does not lie in memory and nothing is changed. -/
theorem draw_eq (machine : Machine) (x y : Fin registerCount) (height : UInt8) :
    draw x y height machine =
      match machine.memory.slice machine.index.toNat height.toNat with
      | .ok sprite => .ok () (machine.withSprite x y sprite)
      | .error fault => .error fault machine := by
  simp only [draw, Activity.bind_apply, Activity.get_apply, Activity.modify_apply,
    Activity.look_apply]
  -- The sprite is read before the flag is cleared.
  cases machine.memory.slice machine.index.toNat height.toNat with
  | error fault => rfl
  | ok sprite => simp only [machine.drawRows_cleared x y sprite]

end ChipEight.Machine
