import ChipEight.Bytes
import ChipEight.Fault
import ChipEight.Memory.Font
import ChipEight.Outcome

/-! The memory of the console: 4096 bytes, each access checked against its end. -/

namespace ChipEight

/-- The number of cells in memory. -/
abbrev memorySize : Nat := 0x1000

/-- The address at which programs are loaded and start to run. -/
def programStart : Nat := 0x200

/-- The largest position that a fault can report. -/
def maxPosition : Nat := 0xFFFFFFFFFFFFFFFF

/-- A byte for each address from 0 to 0xFFF. -/
structure Memory where
  /-- The byte at each address. -/
  cells : Vector UInt8 memorySize
deriving DecidableEq

namespace Memory

/-- Memory with the digit pictures at its start and zeros everywhere else. -/
def fresh : Memory :=
  ⟨Vector.ofFn fun address => Font.bytes.getD address 0⟩

instance : Inhabited Memory := ⟨fresh⟩

/-- A range of addresses lies in memory when its end does; an empty one may stand at the end. -/
def Fits (address length : Nat) : Prop := address + length ≤ memorySize

instance (address length : Nat) : Decidable (Fits address length) :=
  inferInstanceAs (Decidable (_ ≤ _))

/-- The last position of a range, as far as positions can be counted. -/
def lastPosition (address length : Nat) : Nat :=
  -- The end is cut to the largest position before one is taken off, and nothing is below zero.
  min (address + length) maxPosition - 1

/-- The failure of an access to a whole range, which names its last position. -/
def rangeFault (address length : Nat) : Fault :=
  .outOfBounds .memory (lastPosition address length)

/-- The byte at an address. -/
def read (memory : Memory) (address : Nat) : Except Fault UInt8 :=
  if inside : address < memorySize then .ok memory.cells[address]
  else .error (.outOfBounds .memory address)

/-- Writes one byte. -/
def write (memory : Memory) (address : Nat) (value : UInt8) : Outcome Fault Memory :=
  if inside : address < memorySize then { state := ⟨memory.cells.set address value⟩ }
  else { state := memory, failure := some (.outOfBounds .memory address) }

/-- The bytes of a range, lowest address first. -/
def slice (memory : Memory) (address length : Nat) : Except Fault (List UInt8) :=
  if Fits address length then .ok (memory.cells.extract address (address + length)).toList
  else .error (rangeFault address length)

/-- The cells with the bytes of a list laid over them from an address on. -/
def overlay (cells : Vector UInt8 memorySize) (address : Nat) :
    List UInt8 → Vector UInt8 memorySize
  | [] => cells
  | byte :: rest => overlay (cells.setIfInBounds address byte) (address + 1) rest

/-- Writes the bytes of a list from an address on. -/
def poke (memory : Memory) (address : Nat) (bytes : List UInt8) : Outcome Fault Memory :=
  -- The whole range is checked before the first byte is written.
  if Fits address bytes.length then { state := ⟨overlay memory.cells address bytes⟩ }
  else { state := memory, failure := some (rangeFault address bytes.length) }

/-- Writes a sequence of any length from an address on. -/
def writeAll (memory : Memory) (address : Nat) (bytes : Bytes) : Outcome Fault Memory :=
  -- The range is checked first, so no list is longer than memory.
  if Fits address bytes.size then { state := ⟨overlay memory.cells address bytes.toList⟩ }
  else { state := memory, failure := some (rangeFault address bytes.size) }

/-- Sets every byte of a range to one value. -/
def fill (memory : Memory) (address length : Nat) (value : UInt8) : Outcome Fault Memory :=
  memory.writeAll address (.replicate length value)

/-- The word of two bytes, the high one first. -/
def wordOf (high low : UInt8) : UInt16 := UInt16.ofNat (256 * high.toNat + low.toNat)

/-- The instruction word at an address, its first byte being the high one. -/
def fetch (memory : Memory) (address : Nat) : Except Fault UInt16 :=
  if fits : Fits address 2 then
    have within : address + 2 ≤ memorySize := fits
    .ok (wordOf memory.cells[address] memory.cells[address + 1])
  else .error (rangeFault address 2)

/--
The cells with a program in place of whatever stood from its start on. All that lies below the start
is kept, and all that the program does not reach becomes zero.
-/
def install (cells : Vector UInt8 memorySize) (rom : Bytes) : Vector UInt8 memorySize :=
  Vector.ofFn fun address =>
    if address < programStart then cells[address]
    else (rom.get? (address - programStart)).getD 0

/-- Puts a program into memory. -/
def load (memory : Memory) (rom : Bytes) : Outcome Fault Memory :=
  if rom.size ≤ maxRomSize then { state := ⟨install memory.cells rom⟩ }
  else { state := memory, failure := some (.romTooLarge rom.size) }

end Memory

end ChipEight
