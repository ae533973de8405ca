import ChipEight.Instruction.Decode

/-! The table of instruction words: decoding a word finds the row of the table that spells it. -/

namespace ChipEight

namespace Nibbles

/-- The word that four digits spell. -/
def toWord (digits : Nibbles) : UInt16 :=
  UInt16.ofNat (0x1000 * digits.family + 0x100 * digits.x + 0x10 * digits.y + digits.n)

/-- The address that the lower three digits spell. -/
def address (digits : Nibbles) : UInt16 :=
  UInt16.ofNat (0x100 * digits.x + 0x10 * digits.y + digits.n)

/-- The byte that the lower two digits spell. -/
def byte (digits : Nibbles) : UInt8 := UInt8.ofNat (0x10 * digits.y + digits.n)

/-- Four digits are too few for a word to overflow. -/
@[simp] theorem toNat_toWord (digits : Nibbles) :
    digits.toWord.toNat =
      0x1000 * digits.family + 0x100 * digits.x + 0x10 * digits.y + digits.n := by
  -- The largest digits spell 0xFFFF.
  have family := digits.family.isLt
  have x := digits.x.isLt
  have y := digits.y.isLt
  have n := digits.n.isLt
  simp only [toWord, UInt16.toNat_ofNat']
  omega

/-- The lower three digits spell at most 0xFFF. -/
@[simp] theorem toNat_address (digits : Nibbles) :
    digits.address.toNat = 0x100 * digits.x + 0x10 * digits.y + digits.n := by
  -- Three digits are fewer than a word has.
  have x := digits.x.isLt
  have y := digits.y.isLt
  have n := digits.n.isLt
  simp only [address, UInt16.toNat_ofNat']
  omega

/-- The lower two digits spell at most 0xFF. -/
@[simp] theorem toNat_byte (digits : Nibbles) :
    digits.byte.toNat = 0x10 * digits.y + digits.n := by
  -- Two digits are as many as a byte has.
  have y := digits.y.isLt
  have n := digits.n.isLt
  simp only [byte, UInt8.toNat_ofNat']
  omega

/-- A number less than sixteen is its own lowest digit. -/
theorem nibble_eq {number : Nat} {digit : Fin 16} (same : number % 16 = digit) :
    nibble number = digit := Fin.ext same

/-- The digits of a spelled word are those that spell it. -/
@[simp] theorem ofWord_toWord (digits : Nibbles) : ofWord digits.toWord = digits := by
  have x := digits.x.isLt
  have y := digits.y.isLt
  have n := digits.n.isLt
  have family := digits.family.isLt
  -- Each digit is divided down to the ones and cut off from those above it.
  have first : nibble (digits.toWord.toNat / 0x1000) = digits.family :=
    nibble_eq (by rw [toNat_toWord]; omega)
  have second : nibble (digits.toWord.toNat / 0x100) = digits.x :=
    nibble_eq (by rw [toNat_toWord]; omega)
  have third : nibble (digits.toWord.toNat / 0x10) = digits.y :=
    nibble_eq (by rw [toNat_toWord]; omega)
  have fourth : nibble digits.toWord.toNat = digits.n :=
    nibble_eq (by rw [toNat_toWord]; omega)
  simp only [ofWord, first, second, third, fourth]

/-- Every word is spelled by its digits. -/
@[simp] theorem toWord_ofWord (word : UInt16) : (ofWord word).toWord = word := by
  have small := word.toNat_lt
  -- As numbers, the four remainders put together make up a number below 0x10000.
  apply UInt16.toNat_inj.mp
  rw [toNat_toWord]
  simp only [ofWord, nibble]
  omega

/-- No two rows of digits spell the same word. -/
@[simp] theorem toWord_inj {digits other : Nibbles} :
    digits.toWord = other.toWord ↔ digits = other := by
  constructor
  · -- The digits can be taken back from the word.
    intro same
    rw [← ofWord_toWord digits, same, ofWord_toWord]
  · exact congrArg toWord

end Nibbles

namespace Instruction

open Nibbles

/-- The low byte of a spelled word. -/
@[simp] theorem lowByte_toWord (digits : Nibbles) : lowByte digits.toWord = digits.byte := by
  have y := digits.y.isLt
  have n := digits.n.isLt
  -- The digits above it are worth multiples of 0x100.
  apply UInt8.toNat_inj.mp
  rw [toNat_byte, lowByte, UInt8.toNat_ofNat', toNat_toWord]
  omega

/-- The low twelve bits of a spelled word. -/
@[simp] theorem lowAddress_toWord (digits : Nibbles) :
    lowAddress digits.toWord = digits.address := by
  have x := digits.x.isLt
  have y := digits.y.isLt
  have n := digits.n.isLt
  -- The digit above them is worth a multiple of 0x1000.
  apply UInt16.toNat_inj.mp
  rw [toNat_address, lowAddress, UInt16.toNat_ofNat', toNat_toWord]
  omega

/--
The instruction words and what they stand for. Digits that a row leaves open are the operands, and
the last digit of the two comparisons of registers means nothing.
-/
inductive Opcode : UInt16 → Instruction (Fin 16) → Prop where
  | clearScreen : Opcode 0x00E0 .clearScreen
  | ret : Opcode 0x00EE .ret
  | jump (x y n : Fin 16) : Opcode (toWord ⟨0x1, x, y, n⟩) (.jump (address ⟨0x1, x, y, n⟩))
  | call (x y n : Fin 16) : Opcode (toWord ⟨0x2, x, y, n⟩) (.call (address ⟨0x2, x, y, n⟩))
  | skipIfValue (x y n : Fin 16) :
    Opcode (toWord ⟨0x3, x, y, n⟩) (.skipIfValue x (byte ⟨0x3, x, y, n⟩))
  | skipUnlessValue (x y n : Fin 16) :
    Opcode (toWord ⟨0x4, x, y, n⟩) (.skipUnlessValue x (byte ⟨0x4, x, y, n⟩))
  | skipIfSame (x y n : Fin 16) : Opcode (toWord ⟨0x5, x, y, n⟩) (.skipIfSame x y)
  | setValue (x y n : Fin 16) :
    Opcode (toWord ⟨0x6, x, y, n⟩) (.setValue x (byte ⟨0x6, x, y, n⟩))
  | addValue (x y n : Fin 16) :
    Opcode (toWord ⟨0x7, x, y, n⟩) (.addValue x (byte ⟨0x7, x, y, n⟩))
  | copy (x y : Fin 16) : Opcode (toWord ⟨0x8, x, y, 0x0⟩) (.copy x y)
  | union (x y : Fin 16) : Opcode (toWord ⟨0x8, x, y, 0x1⟩) (.union x y)
  | intersect (x y : Fin 16) : Opcode (toWord ⟨0x8, x, y, 0x2⟩) (.intersect x y)
  | difference (x y : Fin 16) : Opcode (toWord ⟨0x8, x, y, 0x3⟩) (.difference x y)
  | add (x y : Fin 16) : Opcode (toWord ⟨0x8, x, y, 0x4⟩) (.add x y)
  | subtract (x y : Fin 16) : Opcode (toWord ⟨0x8, x, y, 0x5⟩) (.subtract x y)
  | shiftRight (x y : Fin 16) : Opcode (toWord ⟨0x8, x, y, 0x6⟩) (.shiftRight x)
  | subtractFrom (x y : Fin 16) : Opcode (toWord ⟨0x8, x, y, 0x7⟩) (.subtractFrom x y)
  | shiftLeft (x y : Fin 16) : Opcode (toWord ⟨0x8, x, y, 0xE⟩) (.shiftLeft x)
  | skipUnlessSame (x y n : Fin 16) : Opcode (toWord ⟨0x9, x, y, n⟩) (.skipUnlessSame x y)
  | setIndex (x y n : Fin 16) :
    Opcode (toWord ⟨0xA, x, y, n⟩) (.setIndex (address ⟨0xA, x, y, n⟩))
  | jumpIndexed (x y n : Fin 16) :
    Opcode (toWord ⟨0xB, x, y, n⟩) (.jumpIndexed (address ⟨0xB, x, y, n⟩))
  | random (x y n : Fin 16) :
    Opcode (toWord ⟨0xC, x, y, n⟩) (.random x (byte ⟨0xC, x, y, n⟩))
  | draw (x y n : Fin 16) : Opcode (toWord ⟨0xD, x, y, n⟩) (.draw x y (UInt8.ofNat n))
  | skipIfHeld (x : Fin 16) : Opcode (toWord ⟨0xE, x, 0x9, 0xE⟩) (.skipIfHeld x)
  | skipUnlessHeld (x : Fin 16) : Opcode (toWord ⟨0xE, x, 0xA, 0x1⟩) (.skipUnlessHeld x)
  | readDelay (x : Fin 16) : Opcode (toWord ⟨0xF, x, 0x0, 0x7⟩) (.readDelay x)
  | awaitKey (x : Fin 16) : Opcode (toWord ⟨0xF, x, 0x0, 0xA⟩) (.awaitKey x)
  | setDelay (x : Fin 16) : Opcode (toWord ⟨0xF, x, 0x1, 0x5⟩) (.setDelay x)
  | setSound (x : Fin 16) : Opcode (toWord ⟨0xF, x, 0x1, 0x8⟩) (.setSound x)
  | addIndex (x : Fin 16) : Opcode (toWord ⟨0xF, x, 0x1, 0xE⟩) (.addIndex x)
  | loadGlyph (x : Fin 16) : Opcode (toWord ⟨0xF, x, 0x2, 0x9⟩) (.loadGlyph x)
  | storeDecimal (x : Fin 16) : Opcode (toWord ⟨0xF, x, 0x3, 0x3⟩) (.storeDecimal x)
  | storeRegisters (x : Fin 16) : Opcode (toWord ⟨0xF, x, 0x5, 0x5⟩) (.storeRegisters x)
  | loadRegisters (x : Fin 16) : Opcode (toWord ⟨0xF, x, 0x6, 0x5⟩) (.loadRegisters x)

/-- A word of the table is decoded to the instruction in its row. -/
theorem Opcode.decode_eq {word : UInt16} {instruction : Instruction (Fin 16)}
    (row : Opcode word instruction) : decode word = instruction := by
  cases row with
  -- Two rows leave no digit open.
  | clearScreen | ret => decide
  | _ =>
    -- The family is a known digit, and so are the lower ones where they matter.
    simp only [decode, decodeArithmetic, decodeDevice, ofWord_toWord, lowByte_toWord,
      lowAddress_toWord, toNat_byte]
    rfl

/-- A word is found in the table or passed over as unknown. -/
def Listed (word : UInt16) : Prop := Opcode word (decode word) ∨ decode word = .unknown word

/-- A row of the table lists its word. -/
theorem Opcode.listed {word : UInt16} {instruction : Instruction (Fin 16)}
    (row : Opcode word instruction) : Listed word := by
  -- The word decodes to the instruction that its row names.
  refine Or.inl ?_
  rw [row.decode_eq]
  exact row

/-- A byte has one spelling in two digits. -/
theorem digits_unique (high low : Fin 16) {y n : Fin 16}
    (spelled : 0x10 * y.val + n.val = 0x10 * high.val + low.val) : y = high ∧ n = low :=
  ⟨Fin.ext (by omega), Fin.ext (by omega)⟩

/-- The words of family 0 stand for two instructions. -/
theorem listed_system (x y n : Fin 16) : Listed (toWord ⟨0x0, x, y, n⟩) := by
  -- Both words have a row of their own without open digits.
  by_cases clears : toWord ⟨0x0, x, y, n⟩ = 0x00E0
  · rw [clears]
    exact Opcode.clearScreen.listed
  · by_cases returns : toWord ⟨0x0, x, y, n⟩ = 0x00EE
    · rw [returns]
      exact Opcode.ret.listed
    · -- All other words of the family are passed over.
      refine Or.inr ?_
      simp only [decode, ofWord_toWord, if_neg clears, if_neg returns]
      rfl

/-- The lowest digit of a word of family 8 selects its row. -/
theorem listed_arithmetic (x y n : Fin 16) : Listed (toWord ⟨0x8, x, y, n⟩) := by
  -- Nine of the sixteen digits have a row.
  match n with
  | 0x0 => exact (Opcode.copy x y).listed
  | 0x1 => exact (Opcode.union x y).listed
  | 0x2 => exact (Opcode.intersect x y).listed
  | 0x3 => exact (Opcode.difference x y).listed
  | 0x4 => exact (Opcode.add x y).listed
  | 0x5 => exact (Opcode.subtract x y).listed
  | 0x6 => exact (Opcode.shiftRight x y).listed
  | 0x7 => exact (Opcode.subtractFrom x y).listed
  | 0xE => exact (Opcode.shiftLeft x y).listed
  | 0x8 | 0x9 | 0xA | 0xB | 0xC | 0xD | 0xF =>
    -- These digits select nothing.
    refine Or.inr ?_
    simp only [decode, ofWord_toWord]
    rfl
  | ⟨_ + 16, large⟩ => omega

/-- The low byte of a word of family E selects its row. -/
theorem listed_keys (x y n : Fin 16) : Listed (toWord ⟨0xE, x, y, n⟩) := by
  -- A byte that selects a row has its own two digits.
  by_cases held : 0x10 * y.val + n.val = 0x9E
  · obtain ⟨rfl, rfl⟩ := digits_unique 0x9 0xE held
    exact (Opcode.skipIfHeld x).listed
  · by_cases free : 0x10 * y.val + n.val = 0xA1
    · obtain ⟨rfl, rfl⟩ := digits_unique 0xA 0x1 free
      exact (Opcode.skipUnlessHeld x).listed
    · -- With both bytes excluded only the last branch is left.
      refine Or.inr ?_
      simp only [decode, ofWord_toWord, lowByte_toWord, toNat_byte]
      rfl

/-- The low byte of a word of family F selects its row. -/
theorem listed_device (x y n : Fin 16) : Listed (toWord ⟨0xF, x, y, n⟩) := by
  have decoded : decode (toWord ⟨0xF, x, y, n⟩) = decodeDevice (toWord ⟨0xF, x, y, n⟩) x := by
    simp only [decode, ofWord_toWord]
  simp only [decodeDevice, lowByte_toWord, toNat_byte] at decoded
  -- A byte that selects a row has its own two digits, and any other selects nothing.
  split at decoded
  case h_1 spelled =>
    obtain ⟨rfl, rfl⟩ := digits_unique 0x0 0x7 spelled
    exact (Opcode.readDelay x).listed
  case h_2 spelled =>
    obtain ⟨rfl, rfl⟩ := digits_unique 0x0 0xA spelled
    exact (Opcode.awaitKey x).listed
  case h_3 spelled =>
    obtain ⟨rfl, rfl⟩ := digits_unique 0x1 0x5 spelled
    exact (Opcode.setDelay x).listed
  case h_4 spelled =>
    obtain ⟨rfl, rfl⟩ := digits_unique 0x1 0x8 spelled
    exact (Opcode.setSound x).listed
  case h_5 spelled =>
    obtain ⟨rfl, rfl⟩ := digits_unique 0x1 0xE spelled
    exact (Opcode.addIndex x).listed
  case h_6 spelled =>
    obtain ⟨rfl, rfl⟩ := digits_unique 0x2 0x9 spelled
    exact (Opcode.loadGlyph x).listed
  case h_7 spelled =>
    obtain ⟨rfl, rfl⟩ := digits_unique 0x3 0x3 spelled
    exact (Opcode.storeDecimal x).listed
  case h_8 spelled =>
    obtain ⟨rfl, rfl⟩ := digits_unique 0x5 0x5 spelled
    exact (Opcode.storeRegisters x).listed
  case h_9 spelled =>
    obtain ⟨rfl, rfl⟩ := digits_unique 0x6 0x5 spelled
    exact (Opcode.loadRegisters x).listed
  case h_10 => exact Or.inr decoded

/-- Every word is in the table or passed over. -/
theorem listed (word : UInt16) : Listed word := by
  -- The family selects the row, sometimes with the help of the lower digits.
  rw [← toWord_ofWord word]
  obtain ⟨family, x, y, n⟩ := ofWord word
  match family with
  | 0x0 => exact listed_system x y n
  | 0x1 => exact (Opcode.jump x y n).listed
  | 0x2 => exact (Opcode.call x y n).listed
  | 0x3 => exact (Opcode.skipIfValue x y n).listed
  | 0x4 => exact (Opcode.skipUnlessValue x y n).listed
  | 0x5 => exact (Opcode.skipIfSame x y n).listed
  | 0x6 => exact (Opcode.setValue x y n).listed
  | 0x7 => exact (Opcode.addValue x y n).listed
  | 0x8 => exact listed_arithmetic x y n
  | 0x9 => exact (Opcode.skipUnlessSame x y n).listed
  | 0xA => exact (Opcode.setIndex x y n).listed
  | 0xB => exact (Opcode.jumpIndexed x y n).listed
  | 0xC => exact (Opcode.random x y n).listed
  | 0xD => exact (Opcode.draw x y n).listed
  | 0xE => exact listed_keys x y n
  | 0xF => exact listed_device x y n
  | ⟨_ + 16, large⟩ => omega

/-- The table has a row for each word that a known instruction is decoded from, and for no other. -/
theorem decode_eq_iff {word : UInt16} {instruction : Instruction (Fin 16)}
    (known : instruction ≠ .unknown word) :
    decode word = instruction ↔ Opcode word instruction := by
  constructor
  · intro decoded
    rcases listed word with row | passed
    · rw [decoded] at row
      exact row
    · -- A word that is passed over decodes to nothing known.
      exact absurd (decoded.symm.trans passed) known
  · intro row
    exact row.decode_eq

/-- The address in the program that an instruction names, if it does. -/
def destination? {R : Type} : Instruction R → Option UInt16
  | jump target => some target
  | call target => some target
  | jumpIndexed base => some base
  | _ => none

/-- An address that an instruction names has three digits. -/
theorem lt_of_destination? {word target : UInt16}
    (named : (decode word).destination? = some target) : target.toNat < 0x1000 := by
  rcases listed word with row | passed
  · generalize decode word = instruction at named row
    -- Only three rows hand an address on, each the lower digits of its word.
    cases row with
    | jump x y n | call x y n | jumpIndexed x y n =>
      cases named
      have high := x.isLt
      have middle := y.isLt
      have low := n.isLt
      rw [toNat_address]
      omega
    | _ => cases named
  · rw [passed] at named
    cases named

end Instruction

end ChipEight
