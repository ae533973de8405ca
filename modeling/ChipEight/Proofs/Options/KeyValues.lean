import ChipEight.Options.Parse
import ChipEight.Proofs.Options.KeyText

/-! The keys that a command line chooses: those that the pieces of its values for them name. -/

namespace ChipEight

/-- The values that arguments give to the option for keys, in order and as often as it comes. -/
def keyValues : List String → List String
  | [] => []
  | text :: rest =>
    match Argument.ofText text with
    -- What comes after two dashes alone is no option.
    | .divider => []
    | .long name value =>
      -- Without an equals sign the next argument is the value.
      if name = Setting.keys.name then (value.or rest.head?).toList ++ keyValues rest
      else keyValues rest
    | .short _ | .plain => keyValues rest

/-- The pieces that a command line gives for keys, in order over all values. -/
def keyPieces (arguments : List String) : List String := (keyValues arguments).flatMap commaPieces

/-- What a value of a setting adds to those of the option for keys. -/
def Setting.keyValues (setting : Setting) (value : String) : List String :=
  if setting = .keys then [value] else []

/-- A value for anything but the keys adds nothing. -/
theorem Setting.keyValues_other {setting : Setting} (other : setting ≠ .keys) (value : String) :
    setting.keyValues value = [] :=
  if_neg other

/-- What an option with its value, or else the argument after it, adds to those values. -/
def NamedOption.keyValues (value : Option String) (rest : List String) :
    NamedOption → List String
  | switch _ => []
  | setting which => (value.or rest.head?).toList.flatMap which.keyValues

/-- No other option adds anything. -/
theorem NamedOption.keyValues_other {option : NamedOption} (other : option ≠ .setting .keys)
    (value : Option String) (rest : List String) : option.keyValues value rest = [] := by
  cases option with
  | switch which => rfl
  | setting which =>
    have apart : which ≠ .keys := fun same => other (same ▸ rfl)
    simp [keyValues, Setting.keyValues_other apart]

/-- What is still to be looked at of those values when some arguments are left. -/
def Pending.keyValues (rest : List String) : Pending → List String
  | named setting => rest.head?.toList.flatMap setting.keyValues
  | valued setting value => setting.keyValues value
  | nothing | path _ => []

/-- The option for keys is known by its name alone. -/
theorem NamedOption.find?_keys_iff {name : String} :
    find? name = some (.setting .keys) ↔ name = Setting.keys.name := by
  constructor
  · intro found
    unfold find? at found
    split at found
    · cases found
    · -- The option that was found has the name that was looked for.
      obtain ⟨setting, first, same⟩ := Option.map_eq_some_iff.mp found
      cases same
      have named := List.find?_some first
      exact (beq_iff_eq.mp named).symm
  · rintro rfl
    decide

/-- An option that is given by its name adds its value when it is the one for keys. -/
theorem keyValues_cons_long {text name : String} {value : Option String}
    (shape : Argument.ofText text = .long name value) (rest : List String) :
    keyValues (text :: rest) =
      (NamedOption.find? name).toList.flatMap (·.keyValues value rest) ++ keyValues rest := by
  rw [keyValues, shape]
  dsimp only
  split
  · rename_i named
    rw [NamedOption.find?_keys_iff.mpr named]
    -- Each value for keys counts as it is.
    have every : (value.or rest.head?).toList.flatMap Setting.keys.keyValues =
        (value.or rest.head?).toList := List.flatMap_singleton' _
    simp [NamedOption.keyValues, every]
  · rename_i unnamed
    cases found : NamedOption.find? name with
    | none => rfl
    | some option =>
      -- Whichever option the name stands for, it is not that for keys.
      have other : option ≠ .setting .keys := fun same =>
        unnamed (NamedOption.find?_keys_iff.mp (same ▸ found))
      simp [NamedOption.keyValues_other other]

namespace Draft

/--
What comes of values for keys. Either the keys that their pieces name come after those of the draft,
or a piece that names none is complained of. Problems with anything else are not looked into.
-/
structure Takes (draft : Draft) (values : List String) (attempt : Except Problem Draft) : Prop where
  taken : ∀ {later}, attempt = .ok later → ∃ keys,
    readKeys (values.flatMap commaPieces) = .ok keys ∧
      later.options.keys = draft.options.keys ++ keys
  refused : ∀ {piece fault}, attempt = .error (.badValue .keys piece fault) →
    piece ∈ values.flatMap commaPieces ∧ fault = .key piece ∧ readKey? piece = none

variable {draft later : Draft} {values more : List String}

/-- Without values the draft keeps its keys. -/
theorem takes_of_same (same : later.options.keys = draft.options.keys) :
    draft.Takes [] (.ok later) where
  taken done := by
    -- No values have no pieces, and no pieces are read as no keys.
    cases done
    exact ⟨[], rfl, by rw [same, List.append_nil]⟩
  refused := nofun

/-- Whatever the values are, problems with anything else may come before them. -/
theorem takes_of_problem {problem : Problem}
    (other : ∀ value fault, problem ≠ .badValue .keys value fault) :
    draft.Takes values (.error problem) where
  taken := nofun
  refused done := by
    cases done
    exact absurd rfl (other _ _)

/-- What is read after other arguments has its keys after theirs. -/
theorem Takes.bind {attempt : Except Problem Draft} {next : Draft → Except Problem Draft}
    (first : draft.Takes values attempt) (onward : ∀ later : Draft, later.Takes more (next later)) :
    draft.Takes (values ++ more) (attempt >>= next) := by
  have split : (values ++ more).flatMap commaPieces =
      values.flatMap commaPieces ++ more.flatMap commaPieces := List.flatMap_append
  cases attempt with
  | error problem =>
    -- The rest is not read, and its values are not looked at.
    refine ⟨nofun, fun done => ?_⟩
    cases done
    obtain ⟨listed, unread⟩ := first.refused rfl
    exact ⟨split ▸ List.mem_append_left _ listed, unread⟩
  | ok later =>
    obtain ⟨keys, read, same⟩ := first.taken rfl
    refine ⟨fun done => ?_, fun done => ?_⟩
    · -- The keys of both come in the order of the arguments.
      obtain ⟨others, next, last⟩ := (onward later).taken done
      refine ⟨keys ++ others, split ▸ readKeys_append read next, ?_⟩
      rw [last, same, List.append_assoc]
    · -- The piece that was complained of is one of the later ones.
      obtain ⟨listed, unread⟩ := (onward later).refused done
      exact ⟨split ▸ List.mem_append_right _ listed, unread⟩

/-- The values of all settings but the keys leave those as they are. -/
theorem assign_other (options : Options) {setting : Setting} (other : setting ≠ .keys)
    (value : String) :
    (∀ later, assign options value setting = .ok later → later.keys = options.keys) ∧
      ∀ given fault, assign options value setting ≠ .error (.badValue .keys given fault) := by
  cases setting with
  | keys => exact absurd rfl other
  | stepsPerTick | tickRate | ticks =>
    -- A number is complained of under the name of its own setting.
    simp only [assign, count]
    cases readCount _ value <;> simp [Except.map, Except.mapError]
  | logLevel =>
    simp only [assign]
    cases readLevel? value <;> simp

/-- A value is read if it is for keys, piece by piece. -/
theorem takes_accept (draft : Draft) (setting : Setting) (value : String) :
    draft.Takes (setting.keyValues value) (draft.accept setting value) := by
  unfold accept
  split
  · -- An option that is given twice is complained of before its value is read.
    exact takes_of_problem nofun
  · by_cases named : setting = .keys
    · subst named
      -- The value is one more of those for keys, and its pieces are the ones to read.
      have single : (Setting.keys.keyValues value).flatMap commaPieces = commaPieces value := by
        simp [Setting.keyValues]
      simp only [assign]
      cases read : readKeys (commaPieces value) with
      | ok keys =>
        refine ⟨fun done => ?_, nofun⟩
        cases done
        exact ⟨keys, single ▸ read, rfl⟩
      | error piece =>
        refine ⟨nofun, fun done => ?_⟩
        cases done
        obtain ⟨listed, unread⟩ := unread_of_readKeys read
        exact ⟨single ▸ listed, rfl, unread⟩
    · -- For any other setting the keys stay, and no complaint is about them.
      obtain ⟨kept, apart⟩ := assign_other draft.options named value
      rw [Setting.keyValues_other named]
      cases assigned : assign draft.options value setting with
      | error problem =>
        exact takes_of_problem fun given fault same => apart given fault (same ▸ assigned)
      | ok options => exact takes_of_same (kept options assigned)

/-- What was pending is read when it is a value. -/
theorem takes_settle (draft : Draft) (pending : Pending) (rest : List String) :
    draft.Takes (pending.keyValues rest) (draft.settle pending) := by
  cases pending with
  | nothing => exact takes_of_same rfl
  -- An option whose value is missing is complained of before any value is.
  | named setting => exact takes_of_problem nofun
  | valued setting value => exact draft.takes_accept setting value
  | path path =>
    simp only [settle]
    split
    · exact takes_of_problem nofun
    · exact takes_of_same rfl

/-- A switch is none of the keys. -/
theorem takes_turnOn (draft : Draft) (switch : Switch) :
    draft.Takes [] (draft.turnOn switch) := by
  cases switch with
  | help | version => exact takes_of_problem nofun
  | hex =>
    simp only [turnOn]
    split
    · exact takes_of_problem nofun
    · exact takes_of_same rfl

/-- A path is none of the keys, and what was pending before it is read first. -/
theorem takes_takePath (draft : Draft) (pending : Pending) (text : String) (rest : List String)
    {next : Draft × Pending → Except Problem Draft}
    (onward : ∀ later : Draft, later.Takes more (next (later, .path text))) :
    draft.Takes (pending.keyValues rest ++ more) (draft.takePath pending text >>= next) := by
  unfold takePath
  split
  · -- A second path is complained of at once.
    exact takes_of_problem nofun
  · rw [map_bind]
    exact (draft.takes_settle pending rest).bind onward

/-- An option is read after what was pending before it, and its value is read or left pending. -/
theorem takes_takeOption (draft : Draft) (pending : Pending) (value : Option String)
    (option : NamedOption) (texts rest : List String)
    {next : Draft × Pending → Except Problem Draft}
    (onward : ∀ (later : Draft) (pending : Pending),
      later.Takes (pending.keyValues rest ++ more) (next (later, pending))) :
    draft.Takes (pending.keyValues texts ++ (option.keyValues value rest ++ more))
      (draft.takeOption pending value option >>= next) := by
  cases option with
  | switch which =>
    cases value with
    -- A switch takes no value.
    | some value => exact takes_of_problem nofun
    | none =>
      simp only [takeOption, bind_assoc, map_bind]
      refine (draft.takes_settle pending texts).bind fun settled => ?_
      exact (settled.takes_turnOn which).bind fun later => onward later .nothing
  | setting which =>
    simp only [takeOption, bind_assoc]
    refine (draft.takes_settle pending texts).bind fun settled => ?_
    cases value with
    -- The value is the next argument, so it is still pending.
    | none => exact onward settled (.named which)
    | some value =>
      simp only [map_bind]
      -- The value is at hand, and the argument after it counts for itself.
      have single : NamedOption.keyValues (some value) rest (.setting which) =
          which.keyValues value := by
        simp [NamedOption.keyValues]
      rw [single]
      exact (settled.takes_accept which value).bind fun later => onward later .nothing

/-- An argument before any divider is read as what its shape says. -/
theorem takes_take (draft : Draft) (pending : Pending) {text : String} (rest : List String)
    (undivided : Argument.ofText text ≠ .divider)
    {next : Draft × Pending → Except Problem Draft}
    (onward : ∀ (later : Draft) (pending : Pending),
      later.Takes (pending.keyValues rest ++ keyValues rest) (next (later, pending))) :
    draft.Takes (pending.keyValues (text :: rest) ++ keyValues (text :: rest))
      (draft.take pending text (Argument.ofText text) >>= next) := by
  cases shape : Argument.ofText text with
  | divider => exact absurd shape undivided
  | plain =>
    rw [show keyValues (text :: rest) = keyValues rest by rw [keyValues, shape]]
    cases pending with
    | named setting =>
      -- The argument is the value that the option before it waited for.
      have waited : Pending.keyValues (text :: rest) (.named setting) =
          Pending.keyValues rest (.valued setting text) := by
        simp [Pending.keyValues]
      rw [waited]
      exact onward draft (.valued setting text)
    | nothing | valued | path =>
      exact draft.takes_takePath _ text _ fun later => onward later (.path text)
  | short letter =>
    rw [show keyValues (text :: rest) = keyValues rest by rw [keyValues, shape]]
    -- The letters of switches are read like their names.
    have switched (which : Switch) := draft.takes_takeOption pending none (.switch which)
      (text :: rest) rest onward
    by_cases help : letter = 'h'
    · subst help
      exact switched .help
    · by_cases version : letter = 'V'
      · subst version
        exact switched .version
      · -- Every other letter is refused.
        have unknown : draft.take pending text (.short letter) =
            .error (.unknownArgument ("-" ++ letter.toString)) := by
          rw [take]
          · exact help
          · exact version
        rw [unknown]
        exact takes_of_problem nofun
  | long name value =>
    rw [keyValues_cons_long shape, take]
    cases found : NamedOption.find? name with
    -- A name that no option has is refused.
    | none => exact takes_of_problem nofun
    | some option => simpa using draft.takes_takeOption pending value option _ rest onward

/-- After a divider there are no options, so only what was pending before it is read. -/
theorem takes_takeVerbatim (draft : Draft) (pending : Pending) (texts rest : List String) :
    draft.Takes (pending.keyValues rest) (draft.takeVerbatim pending texts) := by
  induction texts generalizing draft pending with
  | nil => exact draft.takes_settle pending rest
  | cons text texts ih =>
    -- A path adds nothing to the values that were pending.
    rw [takeVerbatim, ← List.append_nil (pending.keyValues rest)]
    exact draft.takes_takePath pending text rest fun later => ih later (.path text)

/-- All arguments are read, and none of the values for keys is left out or read twice. -/
theorem takes_takeAll (draft : Draft) (pending : Pending) (arguments : List String) :
    draft.Takes (pending.keyValues arguments ++ keyValues arguments)
      (draft.takeAll pending arguments) := by
  -- What one argument leaves pending is read with the next, so both stay quantified over.
  induction arguments generalizing draft pending with
  | nil =>
    rw [keyValues, List.append_nil]
    exact draft.takes_settle pending []
  | cons text rest ih =>
    rw [takeAll]
    split
    · -- From a divider on nothing is an option.
      rename_i divider
      rw [show keyValues (text :: rest) = [] by rw [keyValues, divider], List.append_nil]
      exact draft.takes_takeVerbatim pending rest (text :: rest)
    · rename_i undivided
      exact draft.takes_take pending rest undivided ih

end Draft

/--
A command line that is read chooses the keys that its pieces name. If it is refused for its keys,
then for one of those pieces, which names none.
-/
theorem takes_parse (arguments : List String) :
    (∀ options, Options.parse arguments = .ok options →
      readKeys (keyPieces arguments) = .ok options.keys) ∧
    ∀ piece fault, Options.parse arguments = .error (.badValue .keys piece fault) →
      piece ∈ keyPieces arguments ∧ fault = .key piece ∧ readKey? piece = none := by
  have read := Draft.takes_takeAll {} .nothing arguments
  constructor
  · intro options parsed
    obtain ⟨draft, done, parsed⟩ := bind_eq_ok_iff.mp parsed
    -- Nothing was pending before the first argument, and no keys had been read.
    obtain ⟨keys, named, last⟩ := read.taken done
    cases path : draft.rom with
    | none =>
      rw [path] at parsed
      cases parsed
    | some rom =>
      rw [path] at parsed
      cases parsed
      exact last ▸ named
  · intro piece fault refused
    have stopped : Draft.takeAll {} .nothing arguments =
        .error (.badValue .keys piece fault) := by
      unfold Options.parse at refused
      cases done : Draft.takeAll {} .nothing arguments with
      | error problem =>
        rw [done] at refused
        cases refused
        rfl
      | ok draft =>
        -- All that can be missing then is the path.
        rw [done] at refused
        cases path : draft.rom <;> simp [path, Bind.bind, Except.bind] at refused
    exact read.refused stopped

end ChipEight
