import Mathlib.Data.Nat.Digits.Defs
import ChipEight.Options.Value
import ChipEight.Proofs.Memory.HexText
import ChipEight.Text.HexadecimalLaws

/-! Which pieces of text name a key, and which key that is. -/

namespace ChipEight

namespace Hexadecimal

/-- Digits spell a number in base sixteen, the first being worth most. No digits spell none. -/
def SpellsNumber (text : List Char) (number : Nat) : Prop :=
  -- Zeros in front add nothing, so there may be as many as the writer likes.
  text ≠ [] ∧ ∃ values, List.Forall₂ Spells text values ∧ number = Nat.ofDigits 16 values.reverse

/-- Digits are read by their values, each of which makes what was read before it worth more. -/
theorem readFrom_eq_some_iff {soFar number : Nat} {text : List Char} :
    readFrom soFar text = some number ↔ ∃ values, List.Forall₂ Spells text values ∧
      number = values.foldl (fun front value => 16 * front + value) soFar := by
  -- The number in front changes with each digit, so it stays quantified over.
  induction text generalizing soFar with
  | nil => simp [readFrom, eq_comm]
  | cons c rest ih =>
    simp only [readFrom, Option.bind_eq_bind, Option.bind_eq_some_iff, value?_eq_some_iff, ih,
      List.forall₂_cons_left_iff]
    constructor
    · rintro ⟨value, spelled, values, others, rfl⟩
      exact ⟨value :: values, ⟨value, values, spelled, others, rfl⟩, rfl⟩
    · rintro ⟨_, ⟨value, values, spelled, others, rfl⟩, rfl⟩
      exact ⟨value, spelled, values, others, rfl⟩

/-- Digits are read as the number that they spell. -/
theorem read?_eq_some_iff {text : List Char} {number : Nat} :
    read? text = some number ↔ SpellsNumber text number := by
  -- Adding up from the last digit comes to the same as going on from the first.
  have same : ∀ values : List Nat, Nat.ofDigits 16 values.reverse =
      values.foldl (fun front value => 16 * front + value) 0 := by
    intro values
    rw [Nat.ofDigits_eq_foldr, List.foldr_reverse]
    simp [Nat.add_comm]
  cases text with
  | nil => simp [read?, SpellsNumber]
  | cons c rest => simp [read?, SpellsNumber, readFrom_eq_some_iff, same]

/-- A plus sign is no digit, so no number starts with it. -/
theorem not_spellsNumber_plus (rest : List Char) (number : Nat) :
    ¬ SpellsNumber ('+' :: rest) number := by
  rintro ⟨_, _, spelled, _⟩
  obtain ⟨_, _, plus, _⟩ := List.forall₂_cons_left_iff.mp spelled
  exact plus.all (P := fun c _ => c ≠ '+') (by decide) (by decide) rfl

end Hexadecimal

open Hexadecimal

/-- A piece of text names a number: a plus sign or none, and then digits that spell it. -/
def NamesNumber (piece : String) (number : Nat) : Prop :=
  ∃ digits, (piece.toList = digits ∨ piece.toList = '+' :: digits) ∧ SpellsNumber digits number

/-- Only a plus sign may come before the digits. -/
theorem namesNumber_iff {piece : String} {number : Nat} :
    NamesNumber piece number ↔ SpellsNumber (withoutPlus piece.toList) number := by
  unfold NamesNumber withoutPlus
  split
  · rename_i rest signed
    constructor
    · rintro ⟨digits, whole | split, spelled⟩
      · -- The sign cannot be one of the digits.
        rw [← whole, signed] at spelled
        exact absurd spelled (not_spellsNumber_plus rest number)
      · rw [signed] at split
        cases split
        exact spelled
    · intro spelled
      -- The digits are what stands behind the sign.
      exact ⟨rest, .inr signed, spelled⟩
  · rename_i unsigned
    constructor
    · rintro ⟨digits, whole | split, spelled⟩
      · rw [whole]
        exact spelled
      · exact absurd split (unsigned digits)
    · intro spelled
      -- Without a sign the whole piece has to be digits.
      exact ⟨_, .inl rfl, spelled⟩

/-- A piece is read as the key whose number it names, and there are no larger keys. -/
theorem readKey?_eq_some_iff {piece : String} {key : Fin keyCount} :
    readKey? piece = some key ↔ NamesNumber piece key.val := by
  have reading : readKey? piece = some key ↔
      readWithin? maxNatural (withoutPlus piece.toList) = some key.val := by
    unfold readKey?
    cases readWithin? maxNatural (withoutPlus piece.toList) with
    | none => simp
    | some number =>
      by_cases known : number < keyCount
      · simp [known, Fin.ext_iff]
      · -- A number that is too large is the number of no key.
        have other : number ≠ key.val := fun same => known (same ▸ key.isLt)
        simp [known, other]
  -- Every key is far below the limit up to which numbers are read.
  have below : key.val ≤ maxNatural := Nat.le_trans (Nat.le_of_lt key.isLt) (by decide)
  rw [reading, readWithin?_eq_some_iff, and_iff_left below, read?_eq_some_iff, namesNumber_iff]

/-- A piece that is read as no key names no number below sixteen. -/
theorem readKey?_eq_none_iff {piece : String} :
    readKey? piece = none ↔ ∀ number < 16, ¬ NamesNumber piece number := by
  -- To be read as nothing is to be read as none of the keys.
  rw [Option.eq_none_iff_forall_not_mem]
  constructor
  · intro unread number small named
    exact unread ⟨number, small⟩ (readKey?_eq_some_iff.mpr named)
  · intro unnamed key read
    exact unnamed key.val key.isLt (readKey?_eq_some_iff.mp read)

/-- Pieces are read as keys when each of them names one, in order and as often as they come. -/
theorem readKeys_eq_ok_iff {pieces : List String} {keys : List (Fin keyCount)} :
    readKeys pieces = .ok keys ↔
      List.Forall₂ (fun piece key => NamesNumber piece key.val) pieces keys := by
  induction pieces generalizing keys with
  | nil => simp [readKeys, eq_comm]
  | cons piece rest ih =>
    rw [List.forall₂_cons_left_iff]
    cases first : readKey? piece with
    | none =>
      -- The first piece stops the reading.
      simp only [readKeys, first]
      refine iff_of_false nofun ?_
      rintro ⟨key, _, named, _⟩
      exact readKey?_eq_none_iff.mp first key.val key.isLt named
    | some key =>
      simp only [readKeys, first, map_eq_ok_iff, ih]
      constructor
      · -- The first piece names the first key, and the rest go by induction.
        rintro ⟨others, named, rfl⟩
        exact ⟨key, others, readKey?_eq_some_iff.mp first, named, rfl⟩
      · rintro ⟨other, others, named, rest, rfl⟩
        -- A piece cannot name two keys.
        rw [← readKey?_eq_some_iff, first] at named
        cases named
        exact ⟨others, rest, rfl⟩

/-- Reading stops at a piece that names no key. -/
theorem unread_of_readKeys {pieces : List String} {piece : String}
    (stopped : readKeys pieces = .error piece) : piece ∈ pieces ∧ readKey? piece = none := by
  induction pieces with
  | nil => cases stopped
  | cons first rest ih =>
    cases read : readKey? first with
    | none =>
      simp only [readKeys, read, Except.error.injEq] at stopped
      subst stopped
      exact ⟨List.mem_cons_self, read⟩
    | some key =>
      simp only [readKeys, read, map_eq_error_iff] at stopped
      obtain ⟨listed, unread⟩ := ih stopped
      exact ⟨List.mem_cons_of_mem _ listed, unread⟩

/-- Pieces are read when all of them name a number below sixteen. -/
theorem exists_readKeys_iff {pieces : List String} :
    (∃ keys, readKeys pieces = .ok keys) ↔
      ∀ piece ∈ pieces, ∃ number < 16, NamesNumber piece number := by
  constructor
  · rintro ⟨keys, read⟩
    -- Piece and key go side by side, and every key is below sixteen.
    replace read := readKeys_eq_ok_iff.mp read
    induction read with
    | nil => exact nofun
    | cons named _ ih => exact List.forall_mem_cons.mpr ⟨⟨_, Fin.isLt _, named⟩, ih⟩
  · intro named
    cases read : readKeys pieces with
    | ok keys => exact ⟨keys, rfl⟩
    | error piece =>
      -- The piece that stopped the reading is one of those that name a number.
      obtain ⟨listed, unread⟩ := unread_of_readKeys read
      obtain ⟨number, small, spelled⟩ := named piece listed
      exact absurd spelled (readKey?_eq_none_iff.mp unread number small)

/-- Pieces that are read after others are read as the keys that come after theirs. -/
theorem readKeys_append {first second : List String} {keys more : List (Fin keyCount)}
    (read : readKeys first = .ok keys) (next : readKeys second = .ok more) :
    readKeys (first ++ second) = .ok (keys ++ more) := by
  rw [readKeys_eq_ok_iff] at read next ⊢
  exact List.rel_append read next

end ChipEight
