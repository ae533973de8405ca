import ChipEight.Keypad.Basic

/-! What is seen of a key after keys were held and let go. -/

namespace ChipEight.Keypad

/-- A key that was set is seen as it was set, and the others as they were. -/
theorem holds_put (keypad : Keypad) (key other : Fin keyCount) (held : Bool) :
    (keypad.put key held).holds other = if other = key then held else keypad.holds other := by
  by_cases same : other = key
  · subst same
    simp [put, holds]
  · -- A key has its own place among the sixteen.
    have apart : key.val ≠ other.val := fun equal => same (Fin.ext equal.symm)
    simp [put, holds, same, Vector.getElem_set_ne _ _ apart]

/-- Two keypads on which the same keys are held are the same. -/
theorem eq_of_holds {keypad other : Keypad} (same : ∀ key, keypad.holds key = other.holds key) :
    keypad = other :=
  congrArg Keypad.mk (Vector.ext fun key known => same ⟨key, known⟩)

/-- Letting go of keys one after the other leaves those held that are not among them. -/
theorem holds_foldl_put (keys : List (Fin keyCount)) (keypad : Keypad) (key : Fin keyCount) :
    (keys.foldl (fun keypad key => keypad.put key false) keypad).holds key = true ↔
      keypad.holds key = true ∧ key ∉ keys := by
  induction keys generalizing keypad with
  | nil => simp
  | cons first keys ih =>
    rw [List.foldl_cons, ih, holds_put, List.mem_cons]
    -- The first key is not held when the others are let go.
    by_cases same : key = first
    · simp [same]
    · simp [same]

/-- A keypad whose keys were all let go is one on which no key was ever held. -/
theorem releaseAll_eq (keypad : Keypad) : keypad.releaseAll = released := by
  apply eq_of_holds
  intro key
  have free : ¬ keypad.releaseAll.holds key = true := by
    rw [releaseAll, holds_foldl_put]
    -- Every key is among those that are let go.
    exact fun held => held.2 (List.mem_finRange key)
  rw [Bool.not_eq_true] at free
  rw [free]
  simp [released, holds]

/-- A key of a known number is set. -/
theorem set_of_lt (keypad : Keypad) {key : Nat} (known : key < keyCount) (held : Bool) :
    keypad.set key held = { state := keypad.put ⟨key, known⟩ held } := dif_pos known

/-- A key of any other number is refused before a key is written. -/
theorem set_of_ge (keypad : Keypad) {key : Nat} (unknown : keyCount ≤ key) (held : Bool) :
    keypad.set key held = { state := keypad, failure := some (.noSuchKey key) } :=
  dif_neg (Nat.not_lt_of_le unknown)

/-- The lowest held key is held, and none below it is. -/
theorem lowestHeld?_eq_some_iff (keypad : Keypad) (key : Fin keyCount) :
    keypad.lowestHeld? = some key ↔
      keypad.holds key = true ∧ ∀ lower < key, keypad.holds lower = false := by
  unfold lowestHeld?
  rw [List.find?_eq_some_iff_getElem]
  constructor
  · rintro ⟨held, place, inside, found, none_before⟩
    -- The search goes by the numbers of the keys, so places are numbers.
    simp only [List.getElem_finRange] at found none_before
    refine ⟨held, fun lower below => ?_⟩
    have position : place = key.val := by simpa using congrArg Fin.val found
    have before : lower.val < place := by
      rw [position]
      exact below
    simpa using none_before lower.val before
  · rintro ⟨held, none_lower⟩
    refine ⟨held, key.val, by simp, by simp, fun place before => ?_⟩
    -- A place before that of the key is the number of a lower key.
    have below : place < keyCount := Nat.lt_trans before key.isLt
    simpa using none_lower ⟨place, below⟩ before

/-- No key is held when the search for the lowest one comes to nothing. -/
theorem lowestHeld?_eq_none_iff (keypad : Keypad) :
    keypad.lowestHeld? = none ↔ ∀ key, keypad.holds key = false := by
  -- The search goes over all keys.
  rw [lowestHeld?, List.find?_eq_none]
  simp [List.mem_finRange]

end ChipEight.Keypad
