/-! A value that an owner shares with whoever holds a handle: all refer to one cell. -/

namespace ChipEight

/--
Cells by their numbers, one of which is the owner's, and the handles that were given out. A handle
refers to a cell, and whoever holds it reads and writes what is in that cell, whosever it is.
-/
structure Shared (α : Type) where
  /-- The number of the owner's cell. -/
  own : Nat := 0
  /-- What is in the owner's cell. -/
  value : α
  /-- What is in each of the other cells. -/
  others : Nat → α
  /-- The number of the cell that each handle refers to. -/
  handles : List Nat := []

namespace Shared

variable {α : Type}

/-- A value of which no handle was given out. -/
def alone (value : α) : Shared α := { value, others := fun _ => value }

/-- The handles that were given out, by their numbers. -/
abbrev Handle (shared : Shared α) : Type := Fin shared.handles.length

/-- The cell that a handle refers to. -/
def cell (shared : Shared α) (handle : shared.Handle) : Nat := shared.handles.get handle

/-- What is in a cell. -/
def read (shared : Shared α) (address : Nat) : α :=
  if address = shared.own then shared.value else shared.others address

/-- The owner puts a value into its own cell. -/
def put (shared : Shared α) (value : α) : Shared α := { shared with value }

/-- A value is put into a cell. -/
def write (shared : Shared α) (address : Nat) (value : α) : Shared α :=
  if address = shared.own then shared.put value
  else
    { shared with others := fun other => if other = address then value else shared.others other }

/-- What is in the cell of a handle. -/
def readThrough (shared : Shared α) (handle : shared.Handle) : α := shared.read (shared.cell handle)

/-- A value is put into the cell of a handle. -/
def writeThrough (shared : Shared α) (handle : shared.Handle) (value : α) : Shared α :=
  shared.write (shared.cell handle) value

/-- One more handle is given out, which refers to a cell. -/
def refer (shared : Shared α) (address : Nat) : (later : Shared α) × later.Handle :=
  ⟨{ shared with handles := shared.handles ++ [address] }, ⟨shared.handles.length, by simp⟩⟩

/-- The owner gives out a handle on its own cell. -/
def connect (shared : Shared α) : (later : Shared α) × later.Handle := shared.refer shared.own

/-- A handle is given out that refers to the cell of another one. -/
def duplicate (shared : Shared α) (source : shared.Handle) : (later : Shared α) × later.Handle :=
  shared.refer (shared.cell source)

end Shared

end ChipEight
