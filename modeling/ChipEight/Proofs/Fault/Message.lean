import ChipEight.Fault
import ChipEight.Text.HexadecimalLaws

/-! No two faults are worded alike, so whoever reads a message knows which fault it was. -/

namespace ChipEight

namespace Hexadecimal

/-- Numbers are told apart by their texts. -/
theorem marked_inj {width n other : Nat} : marked width n = marked width other ↔ n = other := by
  refine ⟨fun same => ?_, congrArg (marked width)⟩
  -- The digits behind the mark are read as the number that they were written for.
  have digits : padded width n = padded width other := by
    simpa [marked] using congrArg String.toList same
  have read := read?_padded width n
  rw [digits, read?_padded] at read
  exact (Option.some.inj read).symm

/-- There is no blank in the text of a number. -/
theorem blank_notMem_marked (width n : Nat) : ' ' ∉ (marked width n).toList := by
  have digits : ∀ value < 16, digit value ≠ ' ' := by decide
  intro blank
  simp only [marked, String.toList_append, String.toList_ofList, List.mem_append] at blank
  rcases blank with mark | written
  · exact absurd mark (by decide)
  · obtain ⟨value, below, same⟩ := mem_padded written
    exact digits value below same.symm

/-- A number and what follows it are told apart by a blank between them. -/
theorem eq_of_marked_append {width n other : Nat} {rest more : String}
    (same : marked width n ++ " " ++ rest = marked width other ++ " " ++ more) :
    n = other ∧ rest = more := by
  -- Up to the first blank there is the number and nothing else.
  have cut (n : Nat) (rest : String) :
      (marked width n ++ " " ++ rest).toList.takeWhile (· ≠ ' ') = (marked width n).toList := by
    have written : ∀ c ∈ (marked width n).toList, (c ≠ ' ' : Bool) = true := by
      intro c listed
      have apart : c ≠ ' ' := fun blank => blank_notMem_marked width n (blank ▸ listed)
      simp [apart]
    rw [String.toList_append, String.toList_append, List.append_assoc,
      List.takeWhile_append_of_pos written]
    simp
  have number : marked width n = marked width other := by
    rw [← String.toList_inj, ← cut n rest, same, cut]
  rw [number, String.append_right_inj] at same
  exact ⟨marked_inj.mp number, same⟩

/-- Digits in small letters are read like those in capitals. -/
theorem readFrom_toLower {text : List Char} (digits : ∀ c ∈ text, ∃ value < 16, c = digit value)
    (soFar : Nat) : readFrom soFar (text.map Char.toLower) = readFrom soFar text := by
  have every : ∀ value < 16, value? (digit value).toLower = value? (digit value) := by decide
  induction text generalizing soFar with
  | nil => rfl
  | cons c rest ih =>
    obtain ⟨value, below, rfl⟩ := digits c List.mem_cons_self
    have others := ih fun other listed => digits other (List.mem_cons_of_mem _ listed)
    simp only [List.map_cons, readFrom, every value below, others]

end Hexadecimal

namespace Quoted

/-- The character that a backslash and this mark stand for. -/
def ofMark? : Char → Option Char
  | '0' => some '\x00'
  | 't' => some '\t'
  | 'n' => some '\n'
  | 'r' => some '\r'
  | '\'' => some '\''
  | '\\' => some '\\'
  | _ => none

/-- The character that stands between quotes in this way, which its length tells. -/
def read? : List Char → Option Char
  | [] => none
  | [c] => some c
  | [_, mark] => ofMark? mark
  -- The digits come after a backslash, a letter and a brace, and before another brace.
  | _ :: _ :: _ :: digits => (Hexadecimal.read? digits.dropLast).map Char.ofNat

/-- The number of a character is written in small letters between braces. -/
theorem toList_codePoint (c : Char) : (codePoint c).toList =
    '\\' :: 'u' :: '\x7b' :: ((Hexadecimal.digits c.toNat).map Char.toLower ++ ['\x7d']) := by
  have opening : "\\u\x7b".toList = ['\\', 'u', '\x7b'] := by decide
  have closing : "\x7d".toList = ['\x7d'] := by decide
  rw [codePoint, String.toList_append, String.toList_append, opening, closing,
    String.toList_ofList]
  rfl

/-- The number of a character is read as that character. -/
theorem read?_codePoint (c : Char) : read? (codePoint c).toList = some c := by
  have lower : Hexadecimal.read? ((Hexadecimal.digits c.toNat).map Char.toLower) =
      some c.toNat := by
    rw [Hexadecimal.read?, Hexadecimal.readFrom_toLower (fun _ => Hexadecimal.mem_digits),
      Hexadecimal.readFrom_digits]
    simp [Hexadecimal.digits_ne_nil]
  rw [toList_codePoint, read?, List.dropLast_concat, lower, Option.map_some, Char.ofNat_toNat]

/-- The escape of a character is read as that character. -/
theorem read?_shortEscape {c : Char} {escape : String} (short : shortEscape? c = some escape) :
    read? escape.toList = some c := by
  unfold shortEscape? at short
  split at short <;> cases short
  -- Each of the six is known by its number.
  all_goals
    rename_i number
    rw [← Char.ofNat_toNat c, number]
    rfl

/-- A character is read as itself, whether it was written so, as an escape or by its number. -/
theorem read?_body (c : Char) : read? (body c).toList = some c := by
  cases short : shortEscape? c with
  | some escape =>
    simp only [body, short]
    exact read?_shortEscape short
  | none =>
    have cases : body c = codePoint c ∨ body c = c.toString := by
      simp only [body, short]
      split
      · exact Or.inl rfl
      · exact Or.inr rfl
    rcases cases with number | itself
    · rw [number]
      exact read?_codePoint c
    · -- A character that stands for itself stands alone.
      rw [itself, Char.toString_eq_singleton, String.toList_singleton, read?]

/-- Characters are told apart between their quotes. -/
theorem char_inj {c other : Char} : char c = char other ↔ c = other := by
  refine ⟨fun same => ?_, congrArg char⟩
  -- The quotes are the same, so what is between them is.
  have bodies : body c = body other := by
    simpa [char] using same
  have read := read?_body c
  rw [bodies, read?_body] at read
  exact (Option.some.inj read).symm

end Quoted

/-- What a message is about, as its first words say. -/
inductive Topic where
  | romSize
  | digit
  | digitCount
  | stack
  | key
  | bounds (space : Space)
  | randomByte

namespace Topic

/-- The words that a message about a topic begins with. -/
def opening : Topic → String
  | romSize => "ROM is too large ("
  | digit => "invalid hex ROM encoding: non-hex character "
  | digitCount => "invalid hex ROM encoding: odd number of hex digits ("
  | stack => "stack underflow: return with empty call stack"
  | key => "invalid key index "
  | bounds space => space.name ++ " out of bounds: "
  | randomByte => "failed to get random byte: "

/-- The words that it ends with. -/
def closing : Topic → String
  | romSize => " bytes), max size is " ++ toString maxRomSize ++ " bytes"
  | digitCount => ")"
  | key => ", expected 0x0..=0xF"
  | bounds space => " (limit " ++ Hexadecimal.marked 1 space.limit ++ ")"
  | digit | stack | randomByte => ""

/-- No text begins with the opening words of two topics. -/
theorem eq_of_opening {topic other : Topic}
    (begins : topic.opening.toList <+: other.opening.toList) : topic = other := by
  -- The openings come apart before any of them ends.
  rcases topic with _ | _ | _ | _ | _ | ⟨_ | _ | _ | _⟩ | _ <;>
    rcases other with _ | _ | _ | _ | _ | ⟨_ | _ | _ | _⟩ | _ <;>
      first | rfl | exact absurd begins (by decide)

end Topic

namespace Fault

/-- What a fault is about. -/
def topic : Fault → Topic
  | romTooLarge _ => .romSize
  | badDigit _ => .digit
  | oddDigits _ => .digitCount
  | stackUnderflow => .stack
  | noSuchKey _ => .key
  | outOfBounds space _ => .bounds space
  | noRandomByte _ => .randomByte

/-- What its message says that is not the same for all faults about the same. -/
def detail : Fault → String
  | romTooLarge size => toString size
  | badDigit c => Quoted.char c
  | oddDigits count => toString count
  | stackUnderflow => ""
  | noSuchKey key => Hexadecimal.marked 1 key
  | outOfBounds _ position => Hexadecimal.marked 1 position
  | noRandomByte reason => reason

variable {fault other : Fault}

/-- The detail stands between the words that belong to the topic. -/
theorem message_eq (fault : Fault) :
    fault.message = fault.topic.opening ++ fault.detail ++ fault.topic.closing := by
  have joined (first second third fourth fifth : String) :
      first ++ second ++ third ++ fourth ++ fifth =
        first ++ second ++ (third ++ fourth ++ fifth) := by
    simp only [String.append_assoc]
  cases fault with
  | romTooLarge | outOfBounds => exact joined _ _ _ _ _
  | oddDigits | noSuchKey => rfl
  -- These end with the detail.
  | badDigit | stackUnderflow | noRandomByte => exact String.append_empty.symm

/-- A fault is known by what it is about and by the detail. -/
theorem eq_of_detail (about : fault.topic = other.topic) (details : fault.detail = other.detail) :
    fault = other := by
  -- Decimal digits are read as the number that they were written for.
  have decimal {n m : Nat} (same : toString n = toString m) : n = m := by
    rw [Nat.toString_eq_ofList_toDigits, Nat.toString_eq_ofList_toDigits] at same
    have read := congrArg (Nat.ofDigitChars 10 · 0) (String.ofList_injective same)
    simpa using read
  cases fault <;> cases other <;> cases about
  case romTooLarge | oddDigits => exact congrArg _ (decimal details)
  case badDigit => exact congrArg _ (Quoted.char_inj.mp details)
  case stackUnderflow => rfl
  case noSuchKey | outOfBounds => exact congrArg _ (Hexadecimal.marked_inj.mp details)
  case noRandomByte => exact congrArg _ details

/-- Texts that begin like the messages of two faults are about the same if they are the same. -/
theorem topic_eq_of_append {rest more : String}
    (same : fault.message ++ rest = other.message ++ more) : fault.topic = other.topic := by
  have begins (fault : Fault) (rest : String) :
      fault.topic.opening.toList <+: (fault.message ++ rest).toList := by
    rw [message_eq]
    simp only [String.toList_append, List.append_assoc]
    exact List.prefix_append _ _
  -- Of two beginnings of one text one is a beginning of the other.
  have first := begins fault rest
  rw [same] at first
  rcases List.prefix_or_prefix_of_prefix first (begins other more) with before | after
  · exact Topic.eq_of_opening before
  · exact (Topic.eq_of_opening after).symm

/-- No two faults have the same message. -/
theorem message_inj : fault.message = other.message ↔ fault = other := by
  refine ⟨fun same => ?_, congrArg message⟩
  have about : fault.topic = other.topic := topic_eq_of_append (congrArg (· ++ "") same)
  -- What is said besides the detail is then the same as well.
  rw [message_eq, message_eq, about, String.append_left_inj, String.append_right_inj] at same
  exact eq_of_detail about same

/-- A text that is told twice with something in between is known from that. -/
theorem eq_of_twice {text another link : String}
    (same : text ++ (link ++ text) = another ++ (link ++ another)) : text = another := by
  have characters := congrArg String.toList same
  simp only [String.toList_append] at characters
  -- Both come twice, so they are as long as each other.
  have long : text.toList.length = another.toList.length := by
    have lengths := congrArg List.length characters
    simp only [List.length_append] at lengths
    omega
  exact String.toList_inj.mp (List.append_inj_left characters long)

/-- Nor are two faults reported alike, together with what lies behind them. -/
theorem report_inj : fault.report = other.report ↔ fault = other := by
  -- A report begins with the message.
  have begins (fault : Fault) : ∃ rest, fault.report = fault.message ++ rest := by
    unfold report
    cases fault.cause? with
    | some cause => exact ⟨": " ++ cause, String.append_assoc⟩
    | none => exact ⟨"", String.append_empty.symm⟩
  refine ⟨fun same => ?_, congrArg report⟩
  obtain ⟨rest, first⟩ := begins fault
  obtain ⟨more, second⟩ := begins other
  have about := topic_eq_of_append (first.symm.trans (same.trans second))
  cases fault <;> cases other <;> cases about
  case noRandomByte reason another =>
    have twice : "failed to get random byte: " ++ reason ++ ": " ++ reason =
        "failed to get random byte: " ++ another ++ ": " ++ another := same
    simp only [String.append_assoc, String.append_right_inj] at twice
    exact congrArg _ (eq_of_twice twice)
  -- The others have nothing behind them.
  all_goals exact message_inj.mp same

end Fault

end ChipEight
