import ChipEight.Instruction.Decode
import ChipEight.Text.Hexadecimal

/-! Instructions in assembly language: a mnemonic and its operands. -/

namespace ChipEight

/-- What stands after a mnemonic. -/
inductive Operand where
  /-- A register. -/
  | register (number : Nat)
  /-- An address in at least three digits. -/
  | address (value : UInt16)
  /-- A byte in at least two digits. -/
  | byte (value : UInt8)
  /-- A word in at least four digits. -/
  | word (value : UInt16)
  /-- A number of rows, in decimal. -/
  | rows (value : UInt8)
  /-- The index. -/
  | index
  /-- The memory at the index. -/
  | atIndex
  /-- The delay timer. -/
  | delay
  /-- The sound timer. -/
  | sound
  /-- The next key. -/
  | key
  /-- The picture of a digit. -/
  | glyph
  /-- The decimal digits of a number. -/
  | decimal
deriving DecidableEq, Repr

/-- The text of an operand. -/
def Operand.text : Operand → String
  -- A register is written in as many digits as it has, all others in a fixed width.
  | register number => "V" ++ String.ofList (Hexadecimal.digits number)
  | address value => Hexadecimal.marked 3 value.toNat
  | byte value => Hexadecimal.marked 2 value.toNat
  | word value => Hexadecimal.marked 4 value.toNat
  | rows value => toString value.toNat
  | index => "I"
  | atIndex => "[I]"
  | delay => "DT"
  | sound => "ST"
  | key => "K"
  | glyph => "F"
  | decimal => "B"

/-- The words that name what an instruction does. -/
inductive Mnemonic where
  | cls | ret | jp | call | se | sne | ld | add | or | and | xor | sub | shr | subn | shl | rnd
  | drw | skp | sknp | dw
deriving DecidableEq, Repr

/-- The text of a mnemonic. -/
def Mnemonic.text : Mnemonic → String
  | cls => "CLS"
  | ret => "RET"
  | jp => "JP"
  | call => "CALL"
  | se => "SE"
  | sne => "SNE"
  | ld => "LD"
  | add => "ADD"
  | or => "OR"
  | and => "AND"
  | xor => "XOR"
  | sub => "SUB"
  | shr => "SHR"
  | subn => "SUBN"
  | shl => "SHL"
  | rnd => "RND"
  | drw => "DRW"
  | skp => "SKP"
  | sknp => "SKNP"
  | dw => "DW"

/-- A line of assembly language. -/
structure AssemblyLine where
  /-- What is done. -/
  mnemonic : Mnemonic
  /-- What it is done to, the receiver first. -/
  operands : List Operand := []
deriving DecidableEq, Repr

namespace AssemblyLine

/-- The text of operands, each after a comma, for all but the first on a line. -/
def furtherText : List Operand → String
  | [] => ""
  | operand :: rest => ", " ++ operand.text ++ furtherText rest

/-- The text of a line. -/
def text (line : AssemblyLine) : String :=
  match line.operands with
  | [] => line.mnemonic.text
  | first :: rest => line.mnemonic.text ++ " " ++ first.text ++ furtherText rest

end AssemblyLine

namespace Instruction

open Operand in
/-- The line of assembly language for an instruction. -/
def assembly : Instruction Nat → AssemblyLine
  | clearScreen => ⟨.cls, []⟩
  | ret => ⟨.ret, []⟩
  | jump target => ⟨.jp, [address target]⟩
  | call target => ⟨.call, [address target]⟩
  | skipIfValue x value => ⟨.se, [register x, byte value]⟩
  | skipUnlessValue x value => ⟨.sne, [register x, byte value]⟩
  | skipIfSame x y => ⟨.se, [register x, register y]⟩
  | skipUnlessSame x y => ⟨.sne, [register x, register y]⟩
  | setValue x value => ⟨.ld, [register x, byte value]⟩
  | addValue x value => ⟨.add, [register x, byte value]⟩
  | copy x y => ⟨.ld, [register x, register y]⟩
  | union x y => ⟨.or, [register x, register y]⟩
  | intersect x y => ⟨.and, [register x, register y]⟩
  | difference x y => ⟨.xor, [register x, register y]⟩
  | add x y => ⟨.add, [register x, register y]⟩
  | subtract x y => ⟨.sub, [register x, register y]⟩
  | subtractFrom x y => ⟨.subn, [register x, register y]⟩
  | shiftRight x => ⟨.shr, [register x]⟩
  | shiftLeft x => ⟨.shl, [register x]⟩
  | setIndex target => ⟨.ld, [index, address target]⟩
  -- The register that is added is always the first one.
  | jumpIndexed base => ⟨.jp, [register 0, address base]⟩
  | random x mask => ⟨.rnd, [register x, byte mask]⟩
  | draw x y height => ⟨.drw, [register x, register y, rows height]⟩
  | skipIfHeld x => ⟨.skp, [register x]⟩
  | skipUnlessHeld x => ⟨.sknp, [register x]⟩
  | readDelay x => ⟨.ld, [register x, delay]⟩
  | awaitKey x => ⟨.ld, [register x, key]⟩
  | setDelay x => ⟨.ld, [delay, register x]⟩
  | setSound x => ⟨.ld, [sound, register x]⟩
  | addIndex x => ⟨.add, [index, register x]⟩
  | loadGlyph x => ⟨.ld, [glyph, register x]⟩
  | storeDecimal x => ⟨.ld, [decimal, register x]⟩
  | storeRegisters x => ⟨.ld, [atIndex, register x]⟩
  | loadRegisters x => ⟨.ld, [register x, atIndex]⟩
  | unknown value => ⟨.dw, [word value]⟩

/-- The text of an instruction. -/
def text (instruction : Instruction Nat) : String := instruction.assembly.text

/-- The text of the instruction that a word stands for. -/
def textOfWord (word : UInt16) : String := ((decode word).map Fin.val).text

end Instruction

end ChipEight
