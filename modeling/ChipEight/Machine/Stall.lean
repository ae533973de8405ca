import ChipEight.Machine.Basic
import ChipEight.Instruction.Decode

/-! States from which a program gets no further unless someone helps it. -/

namespace ChipEight

/-- Why a program gets no further. -/
inductive Stall where
  /-- There is no next instruction. -/
  | ranOff
  /-- The next instruction is a jump to itself. -/
  | selfJump
  /-- The program waits for a key, and none is held. -/
  | keyWait
deriving DecidableEq, Repr

/-- The wording of a stall. -/
def Stall.reason : Stall → String
  | ranOff => "the program counter ran off the end of memory"
  | selfJump => "the program is jumping to itself"
  | keyWait => "the program is waiting for a key"

/-- Why the program gets no further, judged by the instruction that it carried out last. -/
def Machine.stall? (machine : Machine) : Option Stall :=
  if machine.halted then some .ranOff
  -- A program that moved on from its last instruction is not stuck at it.
  else if machine.pc ≠ machine.lastAddress then none
  else
    match Instruction.decode machine.lastWord with
    | .jump _ => some .selfJump
    | .awaitKey _ => if machine.keypad.lowestHeld?.isNone then some .keyWait else none
    | _ => none

end ChipEight
