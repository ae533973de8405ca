import ChipEight.Fault
import ChipEight.Outcome

/-! The keypad: sixteen keys, each held or not. -/

namespace ChipEight

/-- The number of keys. -/
abbrev keyCount : Nat := 16

/-- Whether each key is held. -/
structure Keypad where
  /-- The state of each key, by its number. -/
  keys : Vector Bool keyCount
deriving DecidableEq

namespace Keypad

/-- The keypad with no key held. -/
def released : Keypad := ⟨Vector.replicate _ false⟩

instance : Inhabited Keypad := ⟨released⟩

/-- Whether a key is held. -/
def holds (keypad : Keypad) (key : Fin keyCount) : Bool := keypad.keys[key]

/-- The keypad with one of its keys held or let go. -/
def put (keypad : Keypad) (key : Fin keyCount) (held : Bool) : Keypad :=
  ⟨keypad.keys.set key held⟩

/-- Holds the key of a number or lets it go, if there is one. -/
def set (keypad : Keypad) (key : Nat) (held : Bool) : Outcome Fault Keypad :=
  if known : key < keyCount then { state := keypad.put ⟨key, known⟩ held }
  else { state := keypad, failure := some (.noSuchKey key) }

/-- The keypad with its keys let go, one after the other. -/
def releaseAll (keypad : Keypad) : Keypad :=
  (List.finRange keyCount).foldl (fun keypad key => keypad.put key false) keypad

/-- Whether the key of a number is held, if there is one. -/
def isHeld (keypad : Keypad) (key : Nat) : Except Fault Bool :=
  if known : key < keyCount then .ok (keypad.holds ⟨key, known⟩) else .error (.noSuchKey key)

/-- The key named by the low four bits of a byte. -/
def keyOfByte (byte : UInt8) : Fin keyCount := ⟨byte.toNat % keyCount, Nat.mod_lt _ (by decide)⟩

/-- Whether the key named by the low four bits of a byte is held. -/
def nibbleHeld (keypad : Keypad) (byte : UInt8) : Bool := keypad.holds (keyOfByte byte)

/-- The lowest key that is held. -/
def lowestHeld? (keypad : Keypad) : Option (Fin keyCount) :=
  (List.finRange keyCount).find? keypad.holds

end Keypad

end ChipEight
