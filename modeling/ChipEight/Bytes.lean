/-! Sequences of bytes, which can be long without taking room for each byte. -/

namespace ChipEight

/-- A sequence of bytes by its length and the byte at each place. -/
structure Bytes where
  /-- The number of bytes. -/
  size : Nat
  /-- The byte at a place; what it gives from the size on is not part of the sequence. -/
  byte : Nat → UInt8

namespace Bytes

/-- The bytes of an array. -/
def ofArray (bytes : Array UInt8) : Bytes :=
  -- A place that is not in the array is none of the sequence either.
  { size := bytes.size, byte := fun place => bytes.getD place 0 }

/-- The bytes of a list. -/
def ofList (bytes : List UInt8) : Bytes := ofArray bytes.toArray

/-- One byte over and over. -/
def replicate (size : Nat) (value : UInt8) : Bytes := { size, byte := fun _ => value }

/-- The byte at a place of the sequence, if the place is one. -/
def get? (bytes : Bytes) (place : Nat) : Option UInt8 :=
  if place < bytes.size then some (bytes.byte place) else none

/-- All bytes, the first one first. -/
def toList (bytes : Bytes) : List UInt8 := (List.range bytes.size).map bytes.byte

/-- The list of a sequence holds the byte at each of its places. -/
theorem getElem?_toList (bytes : Bytes) (place : Nat) :
    bytes.toList[place]? = bytes.get? place := by
  rw [toList, List.getElem?_map, get?]
  split
  · rename_i inside
    rw [List.getElem?_range inside]
    rfl
  · rename_i beyond
    rw [List.getElem?_eq_none (by simpa using beyond)]
    rfl

/-- The sequence of a list has the list again. -/
theorem toList_ofList (bytes : List UInt8) : (ofList bytes).toList = bytes := by
  apply List.ext_getElem?
  intro place
  rw [getElem?_toList, get?]
  split
  · rename_i inside
    have within : place < bytes.length := inside
    simp [ofList, ofArray, List.getElem?_eq_getElem within]
  · rename_i beyond
    exact (List.getElem?_eq_none (Nat.le_of_not_lt beyond)).symm

end Bytes

end ChipEight
