import ChipEight.Entropy
import ChipEight.Instruction.Decode
import ChipEight.Machine.Basic

/-! What each instruction does to the machine, and how far it gets when it fails. -/

namespace ChipEight

/-- Where a program goes on after an instruction. -/
inductive Flow where
  /-- At the next instruction. -/
  | next
  /-- At the one after the next. -/
  | skip
  /-- At an address. -/
  | jump (target : UInt16)
  /-- At the same instruction again. -/
  | again
deriving DecidableEq, Repr

/-- Skips the next instruction on a condition. -/
def Flow.skipIf (condition : Bool) : Flow := if condition then skip else next

namespace Machine

/-- The sum of two registers in the first, flagged when it does not fit in a byte. -/
def add (machine : Machine) (x y : Fin registerCount) : Machine :=
  -- The sum is taken before the flag is written, so either operand may be the flag itself.
  let sum := (machine.reg x).toNat + (machine.reg y).toNat
  (machine.setReg flagRegister (flag (255 < sum))).setReg x (UInt8.ofNat sum)

/-- The first register less the second in the first, flagged when the first was larger. -/
def subtract (machine : Machine) (x y : Fin registerCount) : Machine :=
  -- The difference is taken after the flag is written and sees it if an operand is the flag.
  let flagged := machine.setReg flagRegister (flag (machine.reg y < machine.reg x))
  flagged.setReg x (flagged.reg x - flagged.reg y)

/-- The second register less the first in the first, flagged when the second was larger. -/
def subtractFrom (machine : Machine) (x y : Fin registerCount) : Machine :=
  -- As in the other subtraction, the flag is written first.
  let flagged := machine.setReg flagRegister (flag (machine.reg x < machine.reg y))
  flagged.setReg x (flagged.reg y - flagged.reg x)

/-- Half a register, flagged with the bit that falls out. -/
def shiftRight (machine : Machine) (x : Fin registerCount) : Machine :=
  -- A flag register that is shifted itself loses its value to the flag first.
  let flagged := machine.setReg flagRegister (machine.reg x % 2)
  flagged.setReg x (flagged.reg x / 2)

/-- Twice a register, flagged with the bit that falls out. -/
def shiftLeft (machine : Machine) (x : Fin registerCount) : Machine :=
  -- A flag register that is shifted itself loses its value to the flag first.
  let flagged := machine.setReg flagRegister (machine.reg x / 128)
  flagged.setReg x (2 * flagged.reg x)

/-- The machine with the rows of a sprite drawn below each other, each of which can set the flag. -/
def drawRows (x : Nat) : Nat → List UInt8 → Machine → Machine
  | _, [], machine => machine
  | y, data :: rest, machine =>
    let (screen, erased) := machine.screen.drawByte x y data
    let drawn := { machine with screen }
    drawRows x (y + 1) rest (if erased then drawn.setReg flagRegister 1 else drawn)

/-- Draws the sprite at the index on the screen, flagged when a lit pixel went out. -/
def draw (x y : Fin registerCount) (height : UInt8) : Activity Fault Machine Unit := do
  -- The corner is read before the flag is cleared, so either register may be the flag itself.
  let corner ← get
  let sprite ← .look fun machine => machine.memory.slice machine.index.toNat height.toNat
  modify fun machine => machine.setReg flagRegister 0
  modify (drawRows (corner.reg x).toNat (corner.reg y).toNat sprite)

/-- The hundreds, tens and ones of a byte. -/
def decimalDigits (value : UInt8) : List UInt8 := [value / 100, value / 10 % 10, value % 10]

/-- Writes bytes at the index. -/
def storeAtIndex (bytes : List UInt8) : Activity Fault Machine Unit :=
  .perform fun machine =>
    (machine.memory.poke machine.index.toNat bytes).map fun memory => { machine with memory }

/-- Takes the return address of the latest call off the stack. -/
def popCall : Activity Fault Machine UInt16 := fun machine =>
  match machine.stack.pop with
  | .ok address stack => .ok address { machine with stack }
  | .error fault stack => .error fault { machine with stack }

/-- Changes the machine and goes on at the next instruction. -/
def onward {ε : Type} (change : Machine → Machine) : Activity ε Machine Flow := do
  modify change
  return .next

/-- Goes on at the next instruction or skips it, on a condition that the machine is in. -/
def skipWhen (condition : Machine → Bool) : Activity Fault Machine Flow := do
  return .skipIf (condition (← get))

/--
Carries an instruction out, given the answer that the random source has ready. The program counter
is past the instruction already.
-/
def execute (offered : Offer) :
    Instruction (Fin registerCount) → Activity Fault Machine Flow
  | .clearScreen => onward fun machine => { machine with screen := .blank }
  | .ret => do return .jump (← popCall)
  | .jump target => return .jump target
  | .call target => do
    -- The call comes back to the instruction after it.
    modify fun machine => { machine with stack := machine.stack.push machine.pc }
    return .jump target
  | .skipIfValue x value => skipWhen fun machine => machine.reg x == value
  | .skipUnlessValue x value => skipWhen fun machine => machine.reg x != value
  | .skipIfSame x y => skipWhen fun machine => machine.reg x == machine.reg y
  | .skipUnlessSame x y => skipWhen fun machine => machine.reg x != machine.reg y
  | .setValue x value => onward fun machine => machine.setReg x value
  | .addValue x value => onward fun machine => machine.setReg x (machine.reg x + value)
  | .copy x y => onward fun machine => machine.setReg x (machine.reg y)
  | .union x y => onward fun machine => machine.setReg x (machine.reg x ||| machine.reg y)
  | .intersect x y => onward fun machine => machine.setReg x (machine.reg x &&& machine.reg y)
  | .difference x y => onward fun machine => machine.setReg x (machine.reg x ^^^ machine.reg y)
  | .add x y => onward fun machine => machine.add x y
  | .subtract x y => onward fun machine => machine.subtract x y
  | .subtractFrom x y => onward fun machine => machine.subtractFrom x y
  | .shiftRight x => onward fun machine => machine.shiftRight x
  | .shiftLeft x => onward fun machine => machine.shiftLeft x
  | .setIndex address => onward fun machine => { machine with index := address }
  | .jumpIndexed base => do return .jump (base + ((← get).reg jumpRegister).toUInt16)
  | .random x mask => do
    let byte ← .look fun _ => offered.mapError .noRandomByte
    onward fun machine => machine.setReg x (byte &&& mask)
  | .draw x y height => do
    draw x y height
    return .next
  | .skipIfHeld x => skipWhen fun machine => machine.keypad.nibbleHeld (machine.reg x)
  | .skipUnlessHeld x => skipWhen fun machine => !machine.keypad.nibbleHeld (machine.reg x)
  | .readDelay x => onward fun machine => machine.setReg x machine.timers.delay
  | .awaitKey x => do
    match (← get).keypad.lowestHeld? with
    | some key => onward fun machine => machine.setReg x (UInt8.ofNat key)
    | none => return .again
  | .setDelay x => onward fun machine => machine.setDelay (machine.reg x)
  | .setSound x => onward fun machine => machine.setSound (machine.reg x)
  | .addIndex x => onward fun machine =>
    { machine with index := machine.index + (machine.reg x).toUInt16 }
  | .loadGlyph x => onward fun machine =>
    { machine with index := UInt16.ofNat (Font.address (machine.reg x).toNat) }
  | .storeDecimal x => do
    storeAtIndex (decimalDigits ((← get).reg x))
    return .next
  | .storeRegisters x => do
    storeAtIndex ((← get).registers.toList.take (x + 1))
    return .next
  | .loadRegisters x => do
    let bytes ← .look fun machine => machine.memory.slice machine.index.toNat (x + 1)
    onward fun machine => machine.setRegisters bytes
  | .unknown _ => return .next

end Machine

end ChipEight
