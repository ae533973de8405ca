import Mathlib.Data.List.Forall2
import ChipEight.Memory.HexText
import ChipEight.Memory.Laws
import ChipEight.Proofs.Except
import ChipEight.Proofs.Fault.Message

/-!
A program written as text is the bytes that its digits spell, and every other text is refused.
-/

namespace ChipEight

namespace Hexadecimal

/-- The digits with letters in upper case, each at the place of its value. -/
def upperCase : List Char := "0123456789ABCDEF".toList

/-- The digits with letters in lower case, each at the place of its value. -/
def lowerCase : List Char := "0123456789abcdef".toList

/-- A character is the digit of a value, in either case. -/
def Spells (c : Char) (value : Nat) : Prop :=
  upperCase[value]? = some c ∨ lowerCase[value]? = some c

instance (c : Char) (value : Nat) : Decidable (Spells c value) :=
  inferInstanceAs (Decidable (_ ∨ _))

/-- A character is a digit. -/
def IsDigit (c : Char) : Prop := ∃ value, Spells c value

/-- What is so for the sixteen digits of each case is so for every digit. -/
theorem Spells.all {P : Char → Nat → Prop} {c : Char} {value : Nat} (spelled : Spells c value)
    (upper : ∀ place : Fin 16, P (upperCase.getD place '?') place)
    (lower : ∀ place : Fin 16, P (lowerCase.getD place '?') place) : P c value := by
  have long : upperCase.length = 16 ∧ lowerCase.length = 16 := by decide
  rcases spelled with found | found
  · -- A place at which there is a digit is one of the first sixteen.
    have inside := (List.getElem?_eq_some_iff.mp found).1
    rw [long.1] at inside
    simpa [List.getD, found] using upper ⟨value, inside⟩
  · have inside := (List.getElem?_eq_some_iff.mp found).1
    rw [long.2] at inside
    simpa [List.getD, found] using lower ⟨value, inside⟩

/-- A character of a range has its digit as far on in the stretch of digits for that range. -/
theorem getElem?_of_between {alphabet : List Char} (low high : Char) {c : Char} {place : Nat}
    (stretch : ∀ offset < high.toNat + 1 - low.toNat,
      alphabet[place + offset]? = some (Char.ofNat (low.toNat + offset)))
    (range : low ≤ c ∧ c ≤ high) : alphabet[place + (c.toNat - low.toNat)]? = some c := by
  have above : low.toNat ≤ c.toNat := range.1
  have below : c.toNat ≤ high.toNat := range.2
  -- The codes of the characters in a range count up as their places do.
  have found := stretch (c.toNat - low.toNat) (by omega)
  rw [Nat.add_sub_cancel' above, Char.ofNat_toNat] at found
  exact found

/-- The characters that are read as a value are its digits. -/
theorem value?_eq_some_iff {c : Char} {value : Nat} :
    value? c = some value ↔ Spells c value := by
  constructor
  · intro read
    unfold value? at read
    -- Each of the three ranges of characters is a stretch of one alphabet.
    split at read
    · rename_i range
      have found : upperCase[0 + (c.toNat - 48)]? = some c :=
        getElem?_of_between '0' '9' (by decide) range
      cases read
      rw [Nat.zero_add] at found
      exact Or.inl found
    · split at read
      · rename_i range
        have found : upperCase[10 + (c.toNat - 65)]? = some c :=
          getElem?_of_between 'A' 'F' (by decide) range
        have above : 65 ≤ c.toNat := range.1
        cases read
        rw [show 10 + (c.toNat - 65) = c.toNat - 55 by omega] at found
        exact Or.inl found
      · split at read
        · rename_i range
          have found : lowerCase[10 + (c.toNat - 97)]? = some c :=
            getElem?_of_between 'a' 'f' (by decide) range
          have above : 97 ≤ c.toNat := range.1
          cases read
          rw [show 10 + (c.toNat - 97) = c.toNat - 87 by omega] at found
          exact Or.inr found
        · cases read
  · -- In the other direction there are sixteen digits of each case to be read.
    intro spelled
    exact spelled.all (P := fun c value => value? c = some value) (by decide) (by decide)

/-- Values of digits are below sixteen. -/
theorem Spells.lt {c : Char} {value : Nat} (spelled : Spells c value) : value < 16 :=
  spelled.all (P := fun _ value => value < 16) (by decide) (by decide)

/-- No digit separates words. -/
theorem Spells.not_blank {c : Char} {value : Nat} (spelled : Spells c value) :
    CharClass.blank.contains c = false :=
  spelled.all (P := fun c _ => CharClass.blank.contains c = false) (by decide) (by decide)

end Hexadecimal

namespace HexText

open Hexadecimal

/-- The values of the digits that spell bytes, two for each byte and the high one first. -/
def halves : List UInt8 → List Nat
  | [] => []
  | byte :: rest => byte.toNat / 16 :: byte.toNat % 16 :: halves rest

/-- A text of digits in either case, with blanks between them wherever the writer likes. -/
inductive Spelling : List Char → List Nat → Prop where
  /-- Nothing is spelled by no text. -/
  | nil : Spelling [] []
  /-- A blank counts for nothing. -/
  | blank {c : Char} {text : List Char} {values : List Nat}
      (blank : CharClass.blank.contains c = true) (rest : Spelling text values) :
    Spelling (c :: text) values
  /-- A digit is good for its value. -/
  | digit {c : Char} {value : Nat} {text : List Char} {values : List Nat}
      (spelled : Spells c value) (rest : Spelling text values) :
    Spelling (c :: text) (value :: values)

/-- What is left of a spelling without its blanks is a digit for each value. -/
theorem Spelling.digits {text : List Char} {values : List Nat} (spelling : Spelling text values) :
    List.Forall₂ Spells (text.filter fun c => !CharClass.blank.contains c) values := by
  -- A blank is left out on both sides, and a digit is none.
  induction spelling with
  | nil => exact .nil
  | blank blank rest ih =>
    simp only [List.filter_cons, blank]
    exact ih
  | digit spelled rest ih =>
    simp only [List.filter_cons, spelled.not_blank]
    exact .cons spelled ih

/-- A character that is no digit is complained of. -/
theorem nibble_of_not_digit {c : Char} (other : ¬ IsDigit c) : nibble c = .error (.badDigit c) := by
  -- What can be read is a digit.
  have unread : value? c = none := by
    cases read : value? c with
    | none => rfl
    | some value => exact absurd ⟨value, value?_eq_some_iff.mp read⟩ other
  rw [nibble, unread]

/-- A digit is read as its value. -/
theorem nibble_of_spells {c : Char} {value : Nat} (spelled : Spells c value) :
    nibble c = .ok value := by
  rw [nibble, value?_eq_some_iff.mpr spelled]

/-- Digits are read as their values, in order. -/
theorem nibbles_of_spells {text : List Char} {values : List Nat}
    (spelled : List.Forall₂ Spells text values) : nibbles text = .ok values := by
  -- One digit is read after the other.
  induction spelled with
  | nil => rfl
  | cons first rest ih =>
    unfold nibbles at ih ⊢
    rw [List.mapM_cons, nibble_of_spells first, ih]
    rfl

/-- The first character that is no digit is the one that is complained of, whatever follows it. -/
theorem nibbles_of_first_bad {before after : List Char} {c : Char}
    (good : ∀ d ∈ before, IsDigit d) (bad : ¬ IsDigit c) :
    nibbles (before ++ c :: after) = .error (.badDigit c) := by
  induction before with
  | nil =>
    -- Reading stops here, before anything that follows.
    rw [List.nil_append, nibbles, List.mapM_cons, nibble_of_not_digit bad]
    rfl
  | cons d before ih =>
    -- The digits in front are read, and then the complaint is that of the rest.
    obtain ⟨value, spelled⟩ := good d (List.mem_cons_self ..)
    have rest := ih fun d member => good d (List.mem_cons_of_mem _ member)
    unfold nibbles at rest ⊢
    rw [List.cons_append, List.mapM_cons, nibble_of_spells spelled, rest]
    rfl

/-- Characters that are all digits spell one value below sixteen each. -/
theorem exists_values {text : List Char} (good : ∀ c ∈ text, IsDigit c) :
    ∃ values, List.Forall₂ Spells text values ∧ ∀ value ∈ values, value < 16 := by
  -- Each character brings the value that it is the digit of.
  induction text with
  | nil => exact ⟨[], .nil, nofun⟩
  | cons c text ih =>
    obtain ⟨value, spelled⟩ := good c (List.mem_cons_self ..)
    obtain ⟨values, rest, small⟩ := ih fun d member => good d (List.mem_cons_of_mem _ member)
    exact ⟨value :: values, .cons spelled rest, List.forall_mem_cons.mpr ⟨spelled.lt, small⟩⟩

/-- The halves of bytes make up the bytes. -/
theorem pairs_halves (bytes : List UInt8) : pairs (halves bytes) = bytes := by
  -- Sixteen times the quotient and the remainder are the byte.
  induction bytes with
  | nil => rfl
  | cons byte rest ih =>
    rw [halves, pairs, ih, Nat.div_add_mod, UInt8.ofNat_toNat]

/-- Bytes have two halves each. -/
theorem length_halves (bytes : List UInt8) : (halves bytes).length = 2 * bytes.length := by
  induction bytes with
  | nil => rfl
  | cons byte rest ih =>
    -- One more byte is two more halves.
    simp only [halves, List.length_cons, ih]
    omega

/-- An even number of values below sixteen are the halves of bytes. -/
theorem exists_halves {values : List Nat} (small : ∀ value ∈ values, value < 16)
    (even : values.length % 2 = 0) : ∃ bytes, values = halves bytes := by
  -- The values are taken two at a time, as they are when they are paired.
  induction values using pairs.induct with
  | case1 high low rest ih =>
    have first := small high (by simp)
    have second := small low (by simp)
    obtain ⟨bytes, rfl⟩ := ih (fun value member => small value (by simp [member]))
      (by simp only [List.length_cons] at even; omega)
    refine ⟨UInt8.ofNat (16 * high + low) :: bytes, ?_⟩
    -- Two values below sixteen stay below two hundred and fifty-six together.
    have whole : (UInt8.ofNat (16 * high + low)).toNat = 16 * high + low := by
      rw [UInt8.toNat_ofNat']
      omega
    rw [halves, whole, show (16 * high + low) / 16 = high by omega,
      show (16 * high + low) % 16 = low by omega]
  | case2 values alone =>
    cases values with
    | nil => exact ⟨[], rfl⟩
    | cons value rest =>
      cases rest with
      -- A single value has no partner.
      | nil => simp at even
      | cons low rest => exact absurd rfl (alone value low rest)

/-- A text whose digits spell bytes is decoded to them. -/
theorem decode_of_spells {text : String} {bytes : List UInt8}
    (spelled : List.Forall₂ Spells (significant text) (halves bytes)) :
    decode text = .ok (.ofList bytes) := by
  -- Halves come in pairs, so none is left over.
  have even : (halves bytes).length % 2 = 0 := by rw [length_halves]; omega
  simp only [decode, nibbles_of_spells spelled, Bind.bind, Except.bind, if_pos even, pairs_halves]

/-- A text with an odd number of digits is refused for it. -/
theorem decode_of_odd {text : String} (good : ∀ c ∈ significant text, IsDigit c)
    (odd : (significant text).length % 2 = 1) :
    decode text = .error (.oddDigits (significant text).length) := by
  -- The digits are read before they are counted, and none of them is bad.
  obtain ⟨values, spelled, _⟩ := exists_values good
  have uneven : ¬ values.length % 2 = 0 := by
    rw [← spelled.length_eq]
    omega
  simp only [decode, nibbles_of_spells spelled, Bind.bind, Except.bind, if_neg uneven,
    spelled.length_eq]

/-- A text with a character that is neither blank nor a digit is refused for the first of them. -/
theorem decode_of_first_bad {text : String} {before after : List Char} {c : Char}
    (split : significant text = before ++ c :: after) (good : ∀ d ∈ before, IsDigit d)
    (bad : ¬ IsDigit c) : decode text = .error (.badDigit c) := by
  -- The digits are not counted once one of them is bad.
  rw [decode, split, nibbles_of_first_bad good bad]
  rfl

end HexText

namespace Memory

open Hexadecimal HexText

/-- A list of bytes is loaded when there are not more of them than fit. -/
theorem load_ofList (memory : Memory) (bytes : List UInt8) :
    memory.load (.ofList bytes) =
      if bytes.length ≤ 0xE00 then { state := ⟨install memory.cells (.ofList bytes)⟩ }
      else { state := memory, failure := some (.romTooLarge bytes.length) } := by
  -- A list has as many bytes as the sequence that is made of it.
  have size : (Bytes.ofList bytes).size = bytes.length := List.size_toArray
  rw [load, size]
  rfl

/-- A text that spells no bytes is refused before memory is touched, and for its own fault. -/
theorem loadHex_of_error (memory : Memory) {text : String} {fault : Fault}
    (refused : decode text = .error fault) :
    memory.loadHex text = { state := memory, failure := some fault } := by
  rw [loadHex, refused]

/-- A text whose digits spell bytes is as good as the bytes. -/
theorem loadHex_of_spells (memory : Memory) {text : String} {bytes : List UInt8}
    (spelled : List.Forall₂ Spells (significant text) (halves bytes)) :
    memory.loadHex text = memory.load (.ofList bytes) := by
  rw [loadHex, decode_of_spells spelled]

/-- An even number of digits spell bytes, half as many. -/
theorem exists_bytes {text : String} (good : ∀ c ∈ significant text, IsDigit c)
    (even : (significant text).length % 2 = 0) :
    ∃ bytes, List.Forall₂ Spells (significant text) (halves bytes) ∧
      bytes.length = (significant text).length / 2 := by
  -- Values below sixteen are paired to bytes.
  obtain ⟨values, spelled, small⟩ := exists_values good
  obtain ⟨bytes, rfl⟩ := exists_halves small (by rw [← spelled.length_eq, even])
  refine ⟨bytes, spelled, ?_⟩
  rw [spelled.length_eq, length_halves]
  omega

/-- A program that was refused with a message, and that left memory as it was. -/
structure RefusedWith (memory : Memory) (outcome : Outcome Fault Memory) (message : String) :
    Prop where
  kept : outcome.state = memory
  told : outcome.failure.map Fault.message = some message
  /-- The message is that of this fault alone. -/
  alone : ∀ fault : Fault, fault.message = message → outcome.failure = some fault

/-- A refusal for a fault is one with the message of that fault. -/
theorem refusedWith_of_fault {memory : Memory} {outcome : Outcome Fault Memory} {fault : Fault}
    (refused : outcome = { state := memory, failure := some fault }) :
    memory.RefusedWith outcome fault.message := by
  subst refused
  exact ⟨rfl, rfl, fun _ same => congrArg some (Fault.message_inj.mp same).symm⟩

/--
A program written as text is refused for the first of its characters that is neither blank nor a
digit, else for an odd number of digits, else for its size, and then memory stays as it was. The
message of such a refusal is that of no other fault. Every other text puts in place the bytes that
its digits spell, and every spelling of bytes that fit is as good as the bytes.
-/
theorem hex_text_loads_as_bytes (memory : Memory) (text : String) :
    (∀ before c after, significant text = before ++ c :: after → (∀ d ∈ before, IsDigit d) →
      ¬ IsDigit c →
        memory.loadHex text = { state := memory, failure := some (.badDigit c) } ∧
        memory.RefusedWith (memory.loadHex text)
          ("invalid hex ROM encoding: non-hex character " ++ Quoted.char c)) ∧
    ((∀ c ∈ significant text, IsDigit c) →
      ((significant text).length % 2 = 1 →
        memory.loadHex text =
          { state := memory, failure := some (.oddDigits (significant text).length) } ∧
        memory.RefusedWith (memory.loadHex text)
          ("invalid hex ROM encoding: odd number of hex digits (" ++
            toString (significant text).length ++ ")")) ∧
      ((significant text).length % 2 = 0 → 0xE00 < (significant text).length / 2 →
        memory.loadHex text =
          { state := memory, failure := some (.romTooLarge ((significant text).length / 2)) }) ∧
      ((significant text).length % 2 = 0 → (significant text).length / 2 ≤ 0xE00 →
        ∃ bytes loaded, List.Forall₂ Spells (significant text) (halves bytes) ∧
          memory.load (.ofList bytes) = { state := loaded } ∧
          memory.loadHex text = { state := loaded })) ∧
    ∀ bytes : List UInt8, bytes.length ≤ 0xE00 → Spelling text.toList (halves bytes) →
      ∃ loaded, memory.load (.ofList bytes) = { state := loaded } ∧
        memory.loadHex text = { state := loaded } := by
  refine ⟨?_, ?_, ?_⟩
  · intro before c after split good bad
    -- Whatever comes after the first bad character is not looked at.
    have refused := memory.loadHex_of_error (decode_of_first_bad split good bad)
    exact ⟨refused, refusedWith_of_fault refused⟩
  · intro good
    refine ⟨fun odd => ?_, ?_, ?_⟩
    · have refused := memory.loadHex_of_error (decode_of_odd good odd)
      exact ⟨refused, refusedWith_of_fault refused⟩
    · intro even large
      -- Only now, with all digits paired, is the size looked at.
      obtain ⟨bytes, spelled, half⟩ := exists_bytes good even
      rw [memory.loadHex_of_spells spelled, load_ofList, if_neg (by omega), half]
    · intro even fits
      obtain ⟨bytes, spelled, half⟩ := exists_bytes good even
      have placed := memory.load_ofList bytes
      rw [if_pos (by omega)] at placed
      exact ⟨bytes, _, spelled, placed, (memory.loadHex_of_spells spelled).trans placed⟩
  · intro bytes fits spelling
    have placed := memory.load_ofList bytes
    rw [if_pos fits] at placed
    exact ⟨_, placed, (memory.loadHex_of_spells spelling.digits).trans placed⟩

/-- Blanks inside a pair do no harm, and of two bad characters the first is the one named. -/
theorem hex_text_loads_as_bytes_spaced :
    (∃ loaded, fresh.load (.ofList [0x6A, 0x04]) = { state := loaded } ∧
      fresh.loadHex "6a\n0 \u20034" = { state := loaded }) ∧
      fresh.loadHex "6 g4x" = { state := fresh, failure := some (.badDigit 'g') } ∧
      fresh.RefusedWith (fresh.loadHex "6 g4x")
        ("invalid hex ROM encoding: non-hex character " ++ Quoted.char 'g') := by
  obtain ⟨_, _, spellings⟩ := hex_text_loads_as_bytes fresh "6a\n0 \u20034"
  obtain ⟨refusals, _⟩ := hex_text_loads_as_bytes fresh "6 g4x"
  constructor
  · apply spellings [0x6A, 0x04] (by decide)
    have characters : "6a\n0 \u20034".toList = ['6', 'a', '\n', '0', ' ', '\u2003', '4'] := rfl
    rw [characters]
    -- The line end, the space and the em space are blanks.
    exact .digit (by decide) (.digit (by decide) (.blank (by decide) (.digit (by decide)
      (.blank (by decide) (.blank (by decide) (.digit (by decide) .nil))))))
  · have six : ∀ d ∈ ['6'], IsDigit d := List.forall_mem_singleton.mpr ⟨6, by decide⟩
    have other : ¬ IsDigit 'g' := by
      rintro ⟨value, spelled⟩
      exact spelled.all (P := fun c _ => c ≠ 'g') (by decide) (by decide) rfl
    exact refusals ['6'] 'g' ['4', 'x'] (by decide) six other

end Memory

end ChipEight
