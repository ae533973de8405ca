import ChipEight.Instruction.Assembly
import ChipEight.Text.HexadecimalLaws

/-! Reading the text of an instruction undoes writing it, so the text tells which one it is. -/

namespace ChipEight

namespace Operand

open Hexadecimal

/-- The operand that is written in so many digits, where the longer ones are words or addresses. -/
def ofDigits? (wide : Bool) (digits : List Char) : Option Operand :=
  (Hexadecimal.read? digits).map fun number =>
    if digits.length = 2 then byte (UInt8.ofNat number)
    else if wide then word (UInt16.ofNat number)
    else address (UInt16.ofNat number)

/-- The operand of a text, where long numbers are words or addresses. -/
def read? (wide : Bool) : List Char → Option Operand
  | 'V' :: digits => (Hexadecimal.read? digits).map register
  | '0' :: 'x' :: digits => ofDigits? wide digits
  | ['I'] => some index
  | ['[', 'I', ']'] => some atIndex
  | ['D', 'T'] => some delay
  | ['S', 'T'] => some sound
  | ['K'] => some key
  | ['F'] => some glyph
  | ['B'] => some decimal
  -- Only a number of rows is written in decimal digits, with nothing in front.
  | digits => some (rows (UInt8.ofNat (Nat.ofDigitChars 10 digits 0)))

/-- Whether an operand is a word if those are meant, and no address otherwise. -/
def suits (wide : Bool) : Operand → Bool
  | word _ => wide
  | address _ => !wide
  | _ => true

/-- A number is read back from its text, where that is told apart from other numbers. -/
theorem read?_marked (wide : Bool) (width n : Nat) :
    read? wide (marked width n).toList =
      some (if max width (digits n).length = 2 then byte (UInt8.ofNat n)
        else if wide then word (UInt16.ofNat n) else address (UInt16.ofNat n)) := by
  -- The mark in front tells the reader that digits follow.
  have written : (marked width n).toList = '0' :: 'x' :: padded width n := by
    simp [marked]
  rw [written]
  show ofDigits? wide (padded width n) = _
  rw [ofDigits?, read?_padded, length_padded]
  rfl

/-- A number of rows is written in its decimal digits. -/
theorem toList_rows (value : UInt8) :
    (rows value).text.toList = Nat.toDigits 10 value.toNat := by
  -- This is the one operand that has no mark.
  show value.toNat.repr.toList = _
  rw [Nat.repr_eq_ofList_toDigits, String.toList_ofList]

/-- Decimal digits are read as a number of rows, since no other operand is written in them. -/
theorem read?_of_isDigit (wide : Bool) {digits : List Char}
    (decimal : ∀ c ∈ digits, c.isDigit = true) :
    read? wide digits = some (rows (UInt8.ofNat (Nat.ofDigitChars 10 digits 0))) := by
  unfold read?
  split
  -- All texts but the last hold a sign that is no decimal digit.
  all_goals first | rfl | simp at decimal

/-- An operand is read back from its text. -/
theorem read?_text {wide : Bool} {operand : Operand} (suit : operand.suits wide = true) :
    read? wide operand.text.toList = some operand := by
  -- Each text starts in its own way, and the reader looks at the start first.
  cases operand with
  | register number =>
    have written : (register number).text.toList = 'V' :: digits number := by simp [text]
    rw [written]
    show (Hexadecimal.read? (digits number)).map register = _
    rw [← padded_zero, read?_padded]
    rfl
  | byte value =>
    have two : max 2 (digits value.toNat).length = 2 :=
      Nat.max_eq_left (length_digits_byte value.toNat_lt)
    rw [text, read?_marked, if_pos two, UInt8.ofNat_toNat]
  -- Three digits and four are told apart from two, and from each other by the mnemonic.
  | address value =>
    have more : max 3 (digits value.toNat).length ≠ 2 := by omega
    have narrow : ¬ wide = true := by simpa [suits] using suit
    rw [text, read?_marked, if_neg more, if_neg narrow, UInt16.ofNat_toNat]
  | word value =>
    have more : max 4 (digits value.toNat).length ≠ 2 := by omega
    have meant : wide = true := suit
    rw [text, read?_marked, if_neg more, if_pos meant, UInt16.ofNat_toNat]
  | rows value =>
    have decimal : ∀ c ∈ Nat.toDigits 10 value.toNat, c.isDigit = true := fun _ =>
      Nat.isDigit_of_mem_toDigits (by decide) (by decide)
    rw [toList_rows, read?_of_isDigit wide decimal,
      Nat.ofDigitChars_toDigits (by decide) (by decide), UInt8.ofNat_toNat]
  | index | atIndex | delay | sound | key | glyph | decimal => rfl

/-- What stands between the words of a line is no part of an operand. -/
theorem text_solid (operand : Operand) {c : Char} (between : c = ' ' ∨ c = ',') :
    c ∉ operand.text.toList := by
  -- It is neither a hexadecimal digit nor one of the signs before those.
  have digit : ∀ value < 16, digit value ≠ c := by
    rcases between with rfl | rfl <;> decide
  have number : ∀ width n, c ∉ (marked width n).toList := by
    intro width n
    have padded : c ∉ padded width n := by
      intro written
      obtain ⟨value, small, same⟩ := mem_padded written
      exact digit value small same.symm
    rcases between with rfl | rfl <;> simpa [marked] using padded
  cases operand with
  -- All that is written is a sign and digits, which are neither of both.
  | register n =>
    have digits : c ∉ digits n := by
      intro written
      obtain ⟨value, small, same⟩ := mem_digits written
      exact digit value small same.symm
    rcases between with rfl | rfl <;> simpa [text] using digits
  | byte value | address value | word value => exact number _ _
  | rows value =>
    rw [toList_rows]
    intro written
    have digit : c.isDigit = true := Nat.isDigit_of_mem_toDigits (by decide) (by decide) written
    rcases between with rfl | rfl <;> cases digit
  | index | atIndex | delay | sound | key | glyph | decimal =>
    rcases between with rfl | rfl <;> simp [text]

end Operand

namespace Mnemonic

/-- The mnemonics. -/
def all : List Mnemonic :=
  [cls, ret, jp, call, se, sne, ld, add, or, and, xor, sub, shr, subn, shl, rnd, drw, skp, sknp, dw]

/-- The mnemonic of a text. -/
def read? (text : List Char) : Option Mnemonic :=
  all.find? fun mnemonic => mnemonic.text.toList == text

/-- A mnemonic is read back from its text. -/
theorem read?_text (mnemonic : Mnemonic) : read? mnemonic.text.toList = some mnemonic := by
  cases mnemonic <;> decide

/-- There is no blank in a mnemonic. -/
theorem text_solid (mnemonic : Mnemonic) : ' ' ∉ mnemonic.text.toList := by
  cases mnemonic <;> decide

end Mnemonic

namespace AssemblyLine

/-- The words that operands are written as, all but the last with a comma. -/
def operandWords : List Operand → List (List Char)
  | [] => []
  | [last] => [last.text.toList]
  | first :: second :: rest => (first.text.toList ++ [',']) :: operandWords (second :: rest)

/-- The words that a line is written as. -/
def words (line : AssemblyLine) : List (List Char) :=
  line.mnemonic.text.toList :: operandWords line.operands

/-- A word in front of operands is parted from their words by a blank. -/
theorem intercalate_operandWords (word : List Char) (first : Operand) (rest : List Operand) :
    [' '].intercalate (word :: operandWords (first :: rest)) =
      word ++ ' ' :: [' '].intercalate (operandWords (first :: rest)) := by
  -- There is at least one word, with or without a comma.
  cases rest <;> simp [operandWords, List.intercalate_cons_cons]

/-- Operands are their words with a blank between any two. -/
theorem toList_furtherText (first : Operand) (rest : List Operand) :
    first.text.toList ++ (furtherText rest).toList =
      [' '].intercalate (operandWords (first :: rest)) := by
  induction rest generalizing first with
  | nil => simp [furtherText, operandWords]
  | cons second rest ih =>
    -- The comma belongs to the first word, and the blank after it parts that from the second.
    rw [operandWords, intercalate_operandWords, ← ih second]
    simp [furtherText]

/-- A line is its words with a blank between any two. -/
theorem toList_text (line : AssemblyLine) : line.text.toList = [' '].intercalate line.words := by
  obtain ⟨mnemonic, operands⟩ := line
  -- Without operands the mnemonic is all there is.
  cases operands with
  | nil => simp [text, words, operandWords]
  | cons first rest =>
    rw [words, intercalate_operandWords, ← toList_furtherText]
    simp [text]

/-- There is no blank in the words of a line. -/
theorem words_solid (line : AssemblyLine) : ∀ word ∈ line.words, ' ' ∉ word := by
  have operands : ∀ operands, ∀ word ∈ operandWords operands, ' ' ∉ word := by
    intro operands
    -- The commas are no blanks either.
    induction operands using operandWords.induct with
    | case1 => simp [operandWords]
    | case2 last => simpa [operandWords] using last.text_solid (.inl rfl)
    | case3 first second rest ih =>
      have solid := first.text_solid (.inl rfl)
      simpa [operandWords, solid] using ih
  intro word written
  rcases List.mem_cons.mp written with rfl | written
  · exact line.mnemonic.text_solid
  · exact operands _ word written

/-- The line of a text, which may hold a word if its mnemonic is that for data. -/
def read? (text : List Char) : Option AssemblyLine :=
  match text.splitOn ' ' with
  | [] => none
  | name :: words => do
    let mnemonic ← Mnemonic.read? name
    let operands ← words.mapM fun word =>
      Operand.read? (mnemonic == .dw) (word.takeWhile (· != ','))
    some { mnemonic, operands }

/-- What stands before the first comma of a word is the operand. -/
theorem takeWhile_text (operand : Operand) {rest : List Char} (last : rest = [] ∨ rest = [',']) :
    (operand.text.toList ++ rest).takeWhile (· != ',') = operand.text.toList := by
  -- The comma that ends the word is the first one in it.
  have inside : ∀ c ∈ operand.text.toList, (c != ',') = true := by
    intro c written
    rw [bne_iff_ne]
    rintro rfl
    exact operand.text_solid (.inr rfl) written
  rw [List.takeWhile_append_of_pos inside]
  rcases last with rfl | rfl <;> simp

/-- Operands are read back from their words. -/
theorem mapM_operandWords {wide : Bool} (operands : List Operand)
    (suit : ∀ operand ∈ operands, operand.suits wide = true) :
    (operandWords operands).mapM (fun word => Operand.read? wide (word.takeWhile (· != ','))) =
      some operands := by
  -- The commas follow all words but the last, so the cases are those of the writer.
  induction operands using operandWords.induct with
  | case1 => rfl
  | case2 last =>
    have alone := takeWhile_text last (.inl rfl)
    rw [List.append_nil] at alone
    have read := Operand.read?_text (suit last List.mem_cons_self)
    simp [operandWords, alone, read]
  | case3 first second rest ih =>
    have others := ih fun operand listed => suit operand (List.mem_cons_of_mem _ listed)
    have read := Operand.read?_text (suit first List.mem_cons_self)
    simp [operandWords, takeWhile_text first (.inr rfl), read, others]

/-- A line is read back from its text. -/
theorem read?_text {line : AssemblyLine}
    (suit : ∀ operand ∈ line.operands, operand.suits (line.mnemonic == .dw) = true) :
    read? line.text.toList = some line := by
  have split : line.text.toList.splitOn ' ' = line.words := by
    rw [toList_text]
    exact List.splitOn_intercalate ' ' line.words_solid (List.cons_ne_nil _ _)
  rw [read?, split]
  simp only [words, Mnemonic.read?_text, mapM_operandWords line.operands suit,
    Option.bind_eq_bind, Option.bind_some]

end AssemblyLine

namespace Instruction

open Operand in
/-- The instruction of a line of assembly language. -/
def ofAssembly? : AssemblyLine → Option (Instruction Nat)
  | ⟨.cls, []⟩ => some clearScreen
  | ⟨.ret, []⟩ => some ret
  | ⟨.jp, [address target]⟩ => some (jump target)
  | ⟨.jp, [register 0, address base]⟩ => some (jumpIndexed base)
  | ⟨.call, [address target]⟩ => some (call target)
  | ⟨.se, [register x, byte value]⟩ => some (skipIfValue x value)
  | ⟨.se, [register x, register y]⟩ => some (skipIfSame x y)
  | ⟨.sne, [register x, byte value]⟩ => some (skipUnlessValue x value)
  | ⟨.sne, [register x, register y]⟩ => some (skipUnlessSame x y)
  | ⟨.ld, [register x, byte value]⟩ => some (setValue x value)
  | ⟨.ld, [register x, register y]⟩ => some (copy x y)
  | ⟨.ld, [register x, delay]⟩ => some (readDelay x)
  | ⟨.ld, [register x, key]⟩ => some (awaitKey x)
  | ⟨.ld, [register x, atIndex]⟩ => some (loadRegisters x)
  | ⟨.ld, [index, address target]⟩ => some (setIndex target)
  | ⟨.ld, [delay, register x]⟩ => some (setDelay x)
  | ⟨.ld, [sound, register x]⟩ => some (setSound x)
  | ⟨.ld, [glyph, register x]⟩ => some (loadGlyph x)
  | ⟨.ld, [decimal, register x]⟩ => some (storeDecimal x)
  | ⟨.ld, [atIndex, register x]⟩ => some (storeRegisters x)
  | ⟨.add, [register x, byte value]⟩ => some (addValue x value)
  | ⟨.add, [register x, register y]⟩ => some (add x y)
  | ⟨.add, [index, register x]⟩ => some (addIndex x)
  | ⟨.or, [register x, register y]⟩ => some (union x y)
  | ⟨.and, [register x, register y]⟩ => some (intersect x y)
  | ⟨.xor, [register x, register y]⟩ => some (difference x y)
  | ⟨.sub, [register x, register y]⟩ => some (subtract x y)
  | ⟨.subn, [register x, register y]⟩ => some (subtractFrom x y)
  | ⟨.shr, [register x]⟩ => some (shiftRight x)
  | ⟨.shl, [register x]⟩ => some (shiftLeft x)
  | ⟨.rnd, [register x, byte mask]⟩ => some (random x mask)
  | ⟨.drw, [register x, register y, rows height]⟩ => some (draw x y height)
  | ⟨.skp, [register x]⟩ => some (skipIfHeld x)
  | ⟨.sknp, [register x]⟩ => some (skipUnlessHeld x)
  | ⟨.dw, [word value]⟩ => some (unknown value)
  | _ => none

/-- An instruction is found again from its line. -/
theorem ofAssembly?_assembly (instruction : Instruction Nat) :
    ofAssembly? instruction.assembly = some instruction := by
  cases instruction <;> rfl

/-- A word of data is the only long number that is no address. -/
theorem assembly_suits (instruction : Instruction Nat) :
    ∀ operand ∈ instruction.assembly.operands,
      operand.suits (instruction.assembly.mnemonic == .dw) = true := by
  -- No other line has a word, and this one has no address.
  cases instruction <;> simp [assembly, Operand.suits]

/-- The instruction of a text. -/
def read? (text : String) : Option (Instruction Nat) :=
  (AssemblyLine.read? text.toList).bind ofAssembly?

/-- An instruction is read back from its text. -/
theorem read?_text (instruction : Instruction Nat) : read? instruction.text = some instruction := by
  rw [read?, text, AssemblyLine.read?_text instruction.assembly_suits]
  exact ofAssembly?_assembly instruction

/-- Two instructions with the same text are the same. -/
theorem text_inj {a b : Instruction Nat} : a.text = b.text ↔ a = b := by
  constructor
  · -- What is read back from one text is one instruction.
    intro same
    have read := congrArg read? same
    simpa only [read?_text, Option.some.injEq] using read
  · rintro rfl
    rfl

/-- Registers that were named in another way can be named as before if those names differ. -/
theorem map_map_cancel {R S : Type} {rename : R → S} {back : S → R}
    (undoes : ∀ x, back (rename x) = x) (instruction : Instruction R) :
    (instruction.map rename).map back = instruction := by
  cases instruction <;> simp [map, undoes]

/-- Two words with the same text stand for the same instruction. -/
theorem textOfWord_inj {word other : UInt16} :
    textOfWord word = textOfWord other ↔ decode word = decode other := by
  constructor
  · intro same
    -- The texts name registers by any numbers, and those are cut back to digits.
    have undoes : ∀ x : Fin 16, Nibbles.nibble x.val = x := fun x =>
      Fin.ext (Nat.mod_eq_of_lt x.isLt)
    have renamed := congrArg (map Nibbles.nibble) (text_inj.mp same)
    rwa [map_map_cancel undoes, map_map_cancel undoes] at renamed
  · intro same
    rw [textOfWord, same, textOfWord]

end Instruction

end ChipEight
