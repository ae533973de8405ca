import ChipEight.CallStack
import ChipEight.Keypad.Basic
import ChipEight.Memory.HexText
import ChipEight.Screen.Basic
import ChipEight.Timers.Basic

/-! The whole state of the console, and what a host can do to it from outside. -/

namespace ChipEight

/-- The number of registers. -/
abbrev registerCount : Nat := 16

/-- The register that results are flagged in. -/
def flagRegister : Fin registerCount := ⟨15, by decide⟩

/-- The register that indexed jumps add. -/
def jumpRegister : Fin registerCount := ⟨0, by decide⟩

/-- The value that flags a condition. -/
def flag (condition : Bool) : UInt8 := if condition then 1 else 0

/-- The highest address at which a whole instruction word fits. -/
def lastWordAddress : UInt16 := 0x0FFE

/-- What a machine has to itself. -/
structure Core where
  /-- The registers, by number. -/
  registers : Vector UInt8 registerCount := Vector.replicate _ 0
  /-- The address that memory instructions work at. -/
  index : UInt16 := 0
  /-- The address of the next instruction. -/
  pc : UInt16 := 0x200
  /-- The calls under way. -/
  stack : CallStack := {}
  /-- The word that was carried out last. -/
  lastWord : UInt16 := 0
  /-- The address of the word that was carried out last. -/
  lastAddress : UInt16 := 0
  /-- The memory. -/
  memory : Memory := .fresh
  /-- The screen. -/
  screen : Screen := .blank
deriving DecidableEq, Inhabited

/-- Everything that an instruction can read or change. -/
structure Machine extends Core where
  /-- The keypad. -/
  keypad : Keypad := .released
  /-- The timers. -/
  timers : Timers := {}
deriving DecidableEq, Inhabited

namespace Machine

/-- The value of a register. -/
def reg (machine : Machine) (x : Fin registerCount) : UInt8 := machine.registers[x]

/-- The machine with a register set. -/
def setReg (machine : Machine) (x : Fin registerCount) (value : UInt8) : Machine :=
  { machine with registers := machine.registers.set x value }

/-- The value of the register of a number, if there is one. -/
def register (machine : Machine) (number : Nat) : Except Fault UInt8 :=
  if known : number < registerCount then .ok machine.registers[number]
  else .error (.outOfBounds .register number)

/-- The machine with registers set from zero on, one for each byte; bytes past the last are lost. -/
def setRegisters (machine : Machine) (bytes : List UInt8) : Machine :=
  { machine with
    registers := Vector.ofFn fun x => bytes.getD x machine.registers[x] }

/-- A program has run off the end when no whole word fits at its next address. -/
def halted (machine : Machine) : Bool := lastWordAddress < machine.pc

/-- The machine as it is when switched on at a moment. -/
def switchedOn (now : Nat) : Machine := { timers := .restart now }

/-- Puts a program into memory and leaves all else as it was. -/
def load (machine : Machine) (rom : Bytes) : Outcome Fault Machine :=
  (machine.memory.load rom).map fun memory => { machine with memory }

/-- Holds a key or lets it go. -/
def setKey (machine : Machine) (key : Nat) (held : Bool) : Outcome Fault Machine :=
  (machine.keypad.set key held).map fun keypad => { machine with keypad }

/-- The machine with a value in its sound timer. -/
def setSound (machine : Machine) (value : UInt8) : Machine :=
  { machine with timers := machine.timers.setSound value }

/-- The machine with a value in its delay timer. -/
def setDelay (machine : Machine) (value : UInt8) : Machine :=
  { machine with timers := machine.timers.setDelay value }

end Machine

end ChipEight
