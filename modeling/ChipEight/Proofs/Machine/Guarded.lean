import ChipEight.Machine.Cycle

/-! The cycle on raw numbers, each access checked for its bounds and each sum for its limit. -/

namespace ChipEight

namespace Guarded

/-- What makes an activity on raw numbers break down. -/
inductive Panic where
  /-- Nothing stands at a place. -/
  | index (place length : Nat)
  /-- A range does not lie in what it is taken from. -/
  | range (start stop length : Nat)
  /-- There are not as many values to be copied as there are places for them. -/
  | count (places values : Nat)
  /-- A number is not below the limit of its type. -/
  | overflow (limit number : Nat)
deriving DecidableEq, Repr

/-- Why an activity ends early: with a fault that is its answer, or because it breaks down. -/
inductive Exit where
  /-- It answers with a fault. -/
  | fault (cause : Fault)
  /-- It breaks down. -/
  | panic (cause : Panic)

/-- A look that cannot break down, as one that could. -/
def sound {α : Type} (attempt : Except Fault α) : Except Exit α := attempt.mapError .fault

/-- An activity that cannot break down, as one that could. -/
def sturdy {σ α : Type} (activity : Activity Fault σ α) : Activity Exit σ α := fun state =>
  match activity state with
  | .ok value after => .ok value after
  | .error cause after => .error (.fault cause) after

/-- What stands at a place. -/
def present {α : Type} (place length : Nat) : Option α → Except Exit α
  | some value => .ok value
  | none => .error (.panic (.index place length))

/-- A number that must be below the limit of its type. -/
def fits (limit number : Nat) : Except Exit Nat :=
  -- The sum itself is a natural number, which cannot overflow.
  if number < limit then .ok number else .error (.panic (.overflow limit number))

/-- The limit of words, which have sixteen bits. -/
def wordLimit : Nat := 0x10000

/-- The limit of positions on the host, which have sixty-four bits. -/
def hostLimit : Nat := 0x10000000000000000

section Cells

variable {α : Type} {size : Nat}

/-- The value at a place. -/
def readAt (cells : Vector α size) (place : Nat) : Except Exit α :=
  present place size cells[place]?

/-- The cells with another value at a place. -/
def writeAt (cells : Vector α size) (place : Nat) (value : α) : Except Exit (Vector α size) :=
  -- A write to a place that is not there breaks down like a look at it.
  if inside : place < size then .ok (cells.set place value)
  else .error (.panic (.index place size))

/-- The values from a start on, up to a stop. -/
def cut (cells : Vector α size) (start stop : Nat) : Except Exit (List α) :=
  -- A range must neither run backward nor past the end.
  if start ≤ stop ∧ stop ≤ size then .ok (cells.extract start stop).toList
  else .error (.panic (.range start stop size))

/-- The cells with values copied to the places from a start on, up to a stop. -/
def copyInto (cells : Vector α size) (start stop : Nat) (values : List α) :
    Except Exit (Vector α size) :=
  if start ≤ stop ∧ stop ≤ size then
    if values.length = stop - start then
      -- Places before the start and after the last value keep what they held.
      .ok (Vector.ofFn fun place =>
        if start ≤ place then (values[place.val - start]?).getD cells[place] else cells[place])
    else .error (.panic (.count (stop - start) values.length))
  else .error (.panic (.range start stop size))

end Cells

/-- The end of a range of memory, which is an address or the first number that is none. -/
def checkedEnd (address length : Nat) : Except Exit Nat := do
  -- The sum is taken before it is compared, so it must not overflow itself.
  let stop ← fits hostLimit (address + length)
  if stop ≤ memorySize then .ok stop else .error (.fault (Memory.rangeFault address length))

/-- The bytes of a range of memory. -/
def slice (memory : Memory) (address length : Nat) : Except Exit (List UInt8) := do
  let stop ← checkedEnd address length
  cut memory.cells address stop

/-- Memory with bytes copied into a range. -/
def poke (memory : Memory) (address length : Nat) (bytes : List UInt8) : Except Exit Memory := do
  -- A refused range is an answer, and a copy that does not fit would break down.
  let stop ← checkedEnd address length
  let cells ← copyInto memory.cells address stop bytes
  .ok ⟨cells⟩

/-- The word at the program counter. -/
def fetch (machine : Machine) : Except Exit UInt16 := do
  let bytes ← slice machine.memory machine.pc.toNat 2
  let high ← present 0 bytes.length bytes[0]?
  let low ← present 1 bytes.length bytes[1]?
  .ok (Memory.wordOf high low)

/-- The value of the register of a number. -/
def reg (x : Nat) : Activity Exit Machine UInt8 :=
  .look fun machine => readAt machine.registers x

/-- Sets the register of a number. -/
def setReg (x : Nat) (value : UInt8) : Activity Exit Machine Unit := do
  let registers ← .look fun machine => writeAt machine.registers x value
  modify fun machine => { machine with registers }

/-- The pixels with a sprite row drawn on them, column by column, and whether a lit one went out. -/
def drawColumns (x row : Nat) (data : UInt8) :
    List Nat → Screen → Bool → Except Exit (Screen × Bool)
  | [], screen, erased => .ok (screen, erased)
  | column :: rest, screen, erased =>
    if data.toNat.testBit (7 - column) then do
      -- The column wraps around the edge after it was added, and the row did so before.
      let across ← fits hostLimit (x + column)
      let place ← fits hostLimit (row + across % screenWidth)
      let before ← readAt screen.pixels place
      let pixels ← writeAt screen.pixels place !before
      drawColumns x row data rest ⟨pixels⟩ (erased || before)
    else drawColumns x row data rest screen erased

/-- The screen with a sprite row drawn on it, and whether a lit pixel went out. -/
def drawByte (screen : Screen) (x y : Nat) (data : UInt8) : Except Exit (Screen × Bool) := do
  -- The row wraps before it is multiplied.
  let row ← fits hostLimit (y % screenHeight * screenWidth)
  drawColumns x row data (List.range 8) screen false

/-- Draws the rows of a sprite from one of them on, flagged by any of them. -/
def drawRows (x y : Nat) : Nat → List UInt8 → Activity Exit Machine Unit
  | _, [] => return
  | row, data :: rest => do
    let down ← .look fun _ => fits hostLimit (y + row)
    let (screen, erased) ← .look fun machine => drawByte machine.screen x down data
    modify fun machine => { machine with screen }
    -- The flag is set by every row that puts out a pixel, and cleared by none.
    if erased then setReg 0xF 1
    drawRows x y (row + 1) rest

/-- Draws the sprite at the index, with the flag cleared before the first row. -/
def draw (x y : Nat) (height : UInt8) : Activity Exit Machine Unit := do
  let across ← reg x
  let down ← reg y
  -- A sprite that does not lie in memory ends the activity here, before anything was written.
  let sprite ← .look fun machine => slice machine.memory machine.index.toNat height.toNat
  setReg 0xF 0
  drawRows across.toNat down.toNat 0 sprite

/-- Whether the key named by the low four bits of a byte is held. -/
def nibbleHeld (keypad : Keypad) (byte : UInt8) : Except Exit Bool :=
  -- Four bits name one of sixteen keys, whatever the others are.
  readAt keypad.keys (byte &&& 0xF).toNat

/-- The first of some keys that is held. -/
def firstHeld (keypad : Keypad) : List Nat → Except Exit (Option Nat)
  | [] => .ok none
  | key :: rest => do
    let held ← readAt keypad.keys key
    if held then .ok (some key) else firstHeld keypad rest

/-- Sets a register to what two registers make of each other. -/
def combine (x y : Nat) (result : UInt8 → UInt8 → UInt8) : Activity Exit Machine Flow := do
  setReg x (result (← reg x) (← reg y))
  return .next

/-- Sets the flag from two registers, and then one to what they are by then. -/
def combineFlagged (x y : Nat) (flagged result : UInt8 → UInt8 → UInt8) :
    Activity Exit Machine Flow := do
  setReg 0xF (flagged (← reg x) (← reg y))
  -- Both registers are read again, and one of them may be the flag.
  combine x y result

/-- Copies as many bytes to memory at the index. -/
def store (count : Nat) (bytes : List UInt8) : Activity Exit Machine Flow := do
  -- The range is checked as a whole, before the first byte is copied.
  let memory ← .look fun machine => poke machine.memory machine.index.toNat count bytes
  modify fun machine => { machine with memory }
  return .next

/-- Carries an instruction out, with the program counter past it already. -/
def execute (offered : Offer) : Instruction Nat → Activity Exit Machine Flow
  | .clearScreen => Machine.onward fun machine => { machine with screen := .blank }
  | .ret => do return .jump (← sturdy Machine.popCall)
  | .jump target => return .jump target
  | .call target => do
    modify fun machine => { machine with stack := machine.stack.push machine.pc }
    return .jump target
  | .skipIfValue x value => do return .skipIf ((← reg x) == value)
  | .skipUnlessValue x value => do return .skipIf ((← reg x) != value)
  | .skipIfSame x y => do return .skipIf ((← reg x) == (← reg y))
  | .skipUnlessSame x y => do return .skipIf ((← reg x) != (← reg y))
  | .setValue x value => do
    setReg x value
    return .next
  | .addValue x value => combine x x fun a _ => a + value
  | .copy x y => combine x y fun _ b => b
  | .union x y => combine x y (· ||| ·)
  | .intersect x y => combine x y (· &&& ·)
  | .difference x y => combine x y (· ^^^ ·)
  -- The sum is taken in a wider type than that of the registers.
  | .add x y => do
    let first ← reg x
    let second ← reg y
    let sum ← .look fun _ => fits wordLimit (first.toNat + second.toNat)
    setReg 0xF (flag (255 < sum))
    setReg x (UInt8.ofNat sum)
    return .next
  | .subtract x y => combineFlagged x y (fun a b => flag (b < a)) (· - ·)
  | .subtractFrom x y => combineFlagged x y (fun a b => flag (a < b)) fun a b => b - a
  | .shiftRight x => combineFlagged x x (fun a _ => a % 2) fun a _ => a / 2
  | .shiftLeft x => combineFlagged x x (fun a _ => a / 128) fun a _ => 2 * a
  | .setIndex address => Machine.onward fun machine => { machine with index := address }
  -- The target is a sum of two numbers of the program and can be any word.
  | .jumpIndexed base => do
    let offset ← reg 0
    let target ← .look fun _ => fits wordLimit (base.toNat + offset.toNat)
    return .jump (UInt16.ofNat target)
  | .random x mask => do
    let byte ← .look fun _ => sound (offered.mapError .noRandomByte)
    setReg x (byte &&& mask)
    return .next
  | .draw x y height => do
    draw x y height
    return .next
  | .skipIfHeld x => do
    let byte ← reg x
    return .skipIf (← .look fun machine => nibbleHeld machine.keypad byte)
  | .skipUnlessHeld x => do
    let byte ← reg x
    return .skipIf !(← .look fun machine => nibbleHeld machine.keypad byte)
  | .readDelay x => do
    setReg x (← get).timers.delay
    return .next
  -- The keys are looked at from the lowest one up.
  | .awaitKey x => do
    match ← .look fun machine => firstHeld machine.keypad (List.range keyCount) with
    | some key =>
      setReg x (UInt8.ofNat key)
      return .next
    | none => return .again
  | .setDelay x => do
    let value ← reg x
    Machine.onward fun machine => machine.setDelay value
  | .setSound x => do
    let value ← reg x
    Machine.onward fun machine => machine.setSound value
  | .addIndex x => do
    let offset ← reg x
    Machine.onward fun machine => { machine with index := machine.index + offset.toUInt16 }
  | .loadGlyph x => do
    let digit ← reg x
    let offset ← .look fun _ => fits hostLimit (Font.glyphSize * digit.toNat)
    let address ← .look fun _ => fits hostLimit (Font.start + offset)
    -- The address is cut to the width of the index, which is checked like a sum.
    let index ← .look fun _ => fits wordLimit address
    Machine.onward fun machine => { machine with index := UInt16.ofNat index }
  | .storeDecimal x => do store 3 (Machine.decimalDigits (← reg x))
  -- The registers are cut up to the last one that is meant.
  | .storeRegisters x => do
    let count ← .look fun _ => fits hostLimit (x + 1)
    let values ← .look fun machine => cut machine.registers 0 count
    store count values
  -- The bytes are read before the first register is written.
  | .loadRegisters x => do
    let count ← .look fun _ => fits hostLimit (x + 1)
    let values ← .look fun machine => slice machine.memory machine.index.toNat count
    let registers ← .look fun machine => copyInto machine.registers 0 count values
    Machine.onward fun machine => { machine with registers }
  | .unknown _ => return .next

/-- Where the program goes on after an instruction that began at an address; it never wraps. -/
def follow (address : UInt16) : Flow → Activity Exit Machine Unit
  | .next => return
  | .skip => do
    let next ← .look fun machine => fits wordLimit (machine.pc.toNat + 2)
    modify fun machine => { machine with pc := UInt16.ofNat next }
  | .jump target => modify fun machine => { machine with pc := target }
  | .again => modify fun machine => { machine with pc := address }

/-- The instruction of a word, from its record to where the program goes on. -/
def carryOut (offered : Offer) (word : UInt16) : Activity Exit Machine Unit := do
  let address := (← get).pc
  let next ← .look fun _ => fits wordLimit (address.toNat + 2)
  -- The program counter is past the word before anything else happens.
  modify fun machine =>
    { machine with lastWord := word, lastAddress := address, pc := UInt16.ofNat next }
  -- The registers are raw numbers from here on.
  follow address (← execute offered ((Instruction.decode word).map Fin.val))

/-- One instruction, given the answer that the random source has ready. -/
def cycle (machine : Machine) (offered : Offer) : Except Panic (Outcome Fault Machine) :=
  if machine.halted then .ok { state := machine }
  else
    -- A machine that has not halted has two bytes at its program counter.
    match fetch machine with
    | .error (.fault cause) => .ok { state := machine, failure := some cause }
    | .error (.panic cause) => .error cause
    | .ok word =>
      match carryOut offered word machine with
      | .ok _ after => .ok { state := after }
      -- The program counter goes back to an instruction that answers with a fault.
      | .error (.fault cause) after =>
        .ok { state := { after with pc := machine.pc }, failure := some cause }
      | .error (.panic cause) _ => .error cause

end Guarded

end ChipEight
