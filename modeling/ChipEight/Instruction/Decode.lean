import ChipEight.Instruction.Basic

/-! Reading a sixteen-bit word as an instruction. -/

namespace ChipEight

/-- The four hexadecimal digits of a word, the highest first. -/
structure Nibbles where
  /-- The digit that tells families of instructions apart. -/
  family : Fin 16
  /-- The digit that usually names the first register. -/
  x : Fin 16
  /-- The digit that usually names the second register. -/
  y : Fin 16
  /-- The lowest digit. -/
  n : Fin 16
deriving DecidableEq, Repr

namespace Nibbles

/-- The lowest digit of a number. -/
def nibble (n : Nat) : Fin 16 := ⟨n % 16, Nat.mod_lt _ (by decide)⟩

/-- The digits of a word. -/
def ofWord (word : UInt16) : Nibbles where
  -- A quotient of a word can have more digits, of which the lowest is taken.
  family := nibble (word.toNat / 0x1000)
  x := nibble (word.toNat / 0x100)
  y := nibble (word.toNat / 0x10)
  n := nibble word.toNat

end Nibbles

namespace Instruction

/-- The low byte of a word. -/
def lowByte (word : UInt16) : UInt8 := UInt8.ofNat word.toNat

/-- The low twelve bits of a word. -/
def lowAddress (word : UInt16) : UInt16 := UInt16.ofNat (word.toNat % 0x1000)

/-- The arithmetic of family 8, which the lowest digit selects. -/
def decodeArithmetic (word : UInt16) (x y n : Fin 16) : Instruction (Fin 16) :=
  match n.val with
  | 0x0 => copy x y
  | 0x1 => union x y
  | 0x2 => intersect x y
  | 0x3 => difference x y
  | 0x4 => add x y
  | 0x5 => subtract x y
  | 0x6 => shiftRight x
  | 0x7 => subtractFrom x y
  | 0xE => shiftLeft x
  | _ => unknown word

/-- The work with timers, keys and memory of family F, which the low byte selects. -/
def decodeDevice (word : UInt16) (x : Fin 16) : Instruction (Fin 16) :=
  match (lowByte word).toNat with
  | 0x07 => readDelay x
  | 0x0A => awaitKey x
  | 0x15 => setDelay x
  | 0x18 => setSound x
  | 0x1E => addIndex x
  | 0x29 => loadGlyph x
  | 0x33 => storeDecimal x
  | 0x55 => storeRegisters x
  | 0x65 => loadRegisters x
  | _ => unknown word

/-- The instruction that a word stands for. -/
def decode (word : UInt16) : Instruction (Fin 16) :=
  -- The highest digit tells the families apart, and the rest depends on it.
  let ⟨family, x, y, n⟩ := Nibbles.ofWord word
  match family.val with
  | 0x0 =>
    -- Of family 0 only two whole words mean something.
    if word = 0x00E0 then clearScreen else if word = 0x00EE then ret else unknown word
  | 0x1 => jump (lowAddress word)
  | 0x2 => call (lowAddress word)
  | 0x3 => skipIfValue x (lowByte word)
  | 0x4 => skipUnlessValue x (lowByte word)
  -- The lowest digit of families 5 and 9 carries no meaning.
  | 0x5 => skipIfSame x y
  | 0x6 => setValue x (lowByte word)
  | 0x7 => addValue x (lowByte word)
  | 0x8 => decodeArithmetic word x y n
  | 0x9 => skipUnlessSame x y
  | 0xA => setIndex (lowAddress word)
  | 0xB => jumpIndexed (lowAddress word)
  | 0xC => random x (lowByte word)
  | 0xD => draw x y (UInt8.ofNat n)
  | 0xE =>
    match (lowByte word).toNat with
    | 0x9E => skipIfHeld x
    | 0xA1 => skipUnlessHeld x
    | _ => unknown word
  | _ => decodeDevice word x

end Instruction

end ChipEight
