/-! The instructions of the console, over any way of naming registers. -/

namespace ChipEight

/--
An instruction. The type `R` names registers: decoding uses numbers below sixteen, while the text
of an instruction makes sense for every number.
-/
inductive Instruction (R : Type) where
  /-- Turns every pixel off. -/
  | clearScreen
  /-- Goes back to where the latest call came from. -/
  | ret
  /-- Goes on at an address. -/
  | jump (target : UInt16)
  /-- Goes on at an address until the matching return. -/
  | call (target : UInt16)
  /-- Skips the next instruction if a register holds a value. -/
  | skipIfValue (x : R) (value : UInt8)
  /-- Skips the next instruction unless a register holds a value. -/
  | skipUnlessValue (x : R) (value : UInt8)
  /-- Skips the next instruction if two registers hold the same. -/
  | skipIfSame (x y : R)
  /-- Skips the next instruction unless two registers hold the same. -/
  | skipUnlessSame (x y : R)
  /-- Puts a value into a register. -/
  | setValue (x : R) (value : UInt8)
  /-- Adds a value to a register without a word on overflow. -/
  | addValue (x : R) (value : UInt8)
  /-- Copies the second register into the first. -/
  | copy (x y : R)
  /-- Joins the bits of the second register to the first. -/
  | union (x y : R)
  /-- Keeps the bits of the first register that are set in the second as well. -/
  | intersect (x y : R)
  /-- Flips the bits of the first register that are set in the second. -/
  | difference (x y : R)
  /-- Adds the second register to the first and flags a carry. -/
  | add (x y : R)
  /-- Takes the second register from the first and flags a first one that was larger. -/
  | subtract (x y : R)
  /-- Takes the first register from the second and puts the rest into the first. -/
  | subtractFrom (x y : R)
  /-- Halves a register and flags the bit that fell out. -/
  | shiftRight (x : R)
  /-- Doubles a register and flags the bit that fell out. -/
  | shiftLeft (x : R)
  /-- Puts an address into the index. -/
  | setIndex (address : UInt16)
  /-- Goes on at an address plus register zero. -/
  | jumpIndexed (base : UInt16)
  /-- Puts a random byte, cut to the bits of a mask, into a register. -/
  | random (x : R) (mask : UInt8)
  /-- Draws the sprite of so many rows at the index, in the column and row that registers hold. -/
  | draw (x y : R) (height : UInt8)
  /-- Skips the next instruction if the key that a register names is held. -/
  | skipIfHeld (x : R)
  /-- Skips the next instruction unless the key that a register names is held. -/
  | skipUnlessHeld (x : R)
  /-- Puts the delay timer into a register. -/
  | readDelay (x : R)
  /-- Waits until a key is held and puts its number into a register. -/
  | awaitKey (x : R)
  /-- Sets the delay timer from a register. -/
  | setDelay (x : R)
  /-- Sets the sound timer from a register. -/
  | setSound (x : R)
  /-- Adds a register to the index. -/
  | addIndex (x : R)
  /-- Points the index at the picture of the digit in a register. -/
  | loadGlyph (x : R)
  /-- Writes the three decimal digits of a register at the index. -/
  | storeDecimal (x : R)
  /-- Writes the registers from zero to this one at the index. -/
  | storeRegisters (x : R)
  /-- Reads the registers from zero to this one at the index. -/
  | loadRegisters (x : R)
  /-- A word that stands for no instruction and is passed over. -/
  | unknown (word : UInt16)
deriving DecidableEq, Repr

namespace Instruction

/-- The same instruction with its registers named in another way. -/
def map {R S : Type} (rename : R → S) : Instruction R → Instruction S
  | clearScreen => clearScreen
  | ret => ret
  | jump target => jump target
  | call target => call target
  | skipIfValue x value => skipIfValue (rename x) value
  | skipUnlessValue x value => skipUnlessValue (rename x) value
  | skipIfSame x y => skipIfSame (rename x) (rename y)
  | skipUnlessSame x y => skipUnlessSame (rename x) (rename y)
  | setValue x value => setValue (rename x) value
  | addValue x value => addValue (rename x) value
  | copy x y => copy (rename x) (rename y)
  | union x y => union (rename x) (rename y)
  | intersect x y => intersect (rename x) (rename y)
  | difference x y => difference (rename x) (rename y)
  | add x y => add (rename x) (rename y)
  | subtract x y => subtract (rename x) (rename y)
  | subtractFrom x y => subtractFrom (rename x) (rename y)
  | shiftRight x => shiftRight (rename x)
  | shiftLeft x => shiftLeft (rename x)
  | setIndex address => setIndex address
  | jumpIndexed base => jumpIndexed base
  | random x mask => random (rename x) mask
  | draw x y height => draw (rename x) (rename y) height
  | skipIfHeld x => skipIfHeld (rename x)
  | skipUnlessHeld x => skipUnlessHeld (rename x)
  | readDelay x => readDelay (rename x)
  | awaitKey x => awaitKey (rename x)
  | setDelay x => setDelay (rename x)
  | setSound x => setSound (rename x)
  | addIndex x => addIndex (rename x)
  | loadGlyph x => loadGlyph (rename x)
  | storeDecimal x => storeDecimal (rename x)
  | storeRegisters x => storeRegisters (rename x)
  | loadRegisters x => loadRegisters (rename x)
  | unknown word => unknown word

/-- Whether carrying out the instruction takes a byte from the random source. -/
def drawsRandom {R : Type} : Instruction R → Bool
  | random _ _ => true
  | _ => false

end Instruction

end ChipEight
