import ChipEight.Proofs.Console.Usage
import ChipEight.Proofs.Machine.Footprint

/-! The start of memory stays as it is under programs that store behind it, and the font with it. -/

namespace ChipEight

namespace Memory

/-- Two memories have the same bytes below a limit. -/
def AgreesBelow (limit : Nat) (memory other : Memory) : Prop :=
  ∀ (address : Nat) (inside : address < memorySize), address < limit →
    memory.cells[address] = other.cells[address]

/-- Memory starts with the pictures of the digits. -/
def HasFont (memory : Memory) : Prop :=
  ∀ address < 0x50, memory.cells[address]? = Font.bytes[address]?

variable {limit : Nat} {memory middle other : Memory}

/-- Memory agrees with itself. -/
theorem agreesBelow_refl (limit : Nat) (memory : Memory) : memory.AgreesBelow limit memory :=
  fun _ _ _ => rfl

/-- Agreement is handed on. -/
theorem AgreesBelow.trans (first : memory.AgreesBelow limit middle)
    (second : middle.AgreesBelow limit other) : memory.AgreesBelow limit other :=
  fun address inside below => (first address inside below).trans (second address inside below)

/-- A program is put in place behind the start of memory. -/
theorem agreesBelow_install (small : limit ≤ programStart) (memory : Memory) (rom : Bytes) :
    AgreesBelow limit ⟨install memory.cells rom⟩ memory := by
  intro address inside below
  -- What lies below the start of programs is kept.
  rw [getElem_install, if_pos (Nat.lt_of_lt_of_le below small)]

/-- Bytes that are laid over memory behind the limit are not seen below it. -/
theorem agreesBelow_overlay {address : Nat} (above : limit ≤ address) (memory : Memory)
    (bytes : List UInt8) : AgreesBelow limit ⟨overlay memory.cells address bytes⟩ memory := by
  intro place inside below
  exact getElem_overlay_outside bytes memory.cells inside (Or.inl (Nat.lt_of_lt_of_le below above))

/-- Memory has the font when its first bytes are those of fresh memory. -/
theorem hasFont_iff : memory.HasFont ↔ memory.AgreesBelow 0x50 fresh := by
  -- The pictures take up as many bytes as are compared, so none of them is the zero behind them.
  have pictures : ∀ (address : Nat) (inside : address < memorySize), address < 0x50 →
      Font.bytes[address]? = some fresh.cells[address] := by
    intro address inside below
    have many : address < Font.bytes.length := below
    simp [fresh, List.getElem?_eq_getElem many]
  constructor
  · intro font address inside below
    -- The font tells what is found here, and fresh memory has the same.
    have here := font address below
    rw [pictures address inside below, Vector.getElem?_eq_getElem inside] at here
    exact Option.some.inj here
  · intro agrees address below
    have inside : address < memorySize := Nat.lt_trans below (by decide)
    rw [pictures address inside below, Vector.getElem?_eq_getElem inside,
      agrees address inside below]

end Memory

namespace Machine

open Nibbles

variable {machine : Machine} {limit : Nat}

/-- The words that store bytes at the index. -/
inductive Storing : UInt16 → Prop where
  | decimal (x : Fin 16) : Storing (toWord ⟨0xF, x, 0x3, 0x3⟩)
  | registers (x : Fin 16) : Storing (toWord ⟨0xF, x, 0x5, 0x5⟩)

/-- A word that changes a byte stores it, and at the index or behind it. -/
theorem MayChange.storing {index word : UInt16} {address : Fin memorySize}
    (may : MayChange index word (.byte address)) : Storing word ∧ index.toNat ≤ address := by
  -- Two rows of the table have a byte as their part.
  cases may with
  | storeDecimal x _ above => exact ⟨.decimal x, above⟩
  | storeRegisters x _ above => exact ⟨.registers x, above⟩

/-- A step keeps the start of memory unless it stores there. -/
theorem agreesBelow_step (machine : Machine) (offered : Offer) (now : Nat)
    (above : machine.halted = false → (machine.step offered now).failure = none →
      Storing machine.nextWord → limit ≤ machine.index.toNat) :
    (machine.step offered now).state.memory.AgreesBelow limit machine.memory := by
  have outcome := machine.stepped offered now
  generalize machine.step offered now = result at above outcome ⊢
  cases outcome with
  | halted => exact Memory.agreesBelow_refl limit machine.memory
  -- A word that fails changes the record alone.
  | failed => exact Memory.agreesBelow_refl limit machine.memory
  | @done effect running done =>
    intro address inside below
    show Part.Same (.byte ⟨address, inside⟩) machine effect.machine
    refine same_of_attempt done fun may => ?_
    -- A word that has a row for the byte would store behind the limit.
    obtain ⟨storing, reached⟩ := may.storing
    have behind := above running rfl storing
    exact absurd below (Nat.not_lt_of_le (Nat.le_trans behind reached))

end Machine

/-- Where a use writes to memory, as a program or as a host, it does so from a limit on. -/
structure Use.StoresFrom (limit : Nat) (console : Console) (use : Use console) : Prop where
  step : ∀ now, use = .step now → console.machine.halted = false → use.outcome.failure = none →
    Machine.Storing console.machine.nextWord → limit ≤ console.machine.index.toNat
  write : ∀ address, use.target? = some address → use.outcome.failure = none → limit ≤ address

namespace Console

open Nibbles

variable {limit : Nat} {start later : Console}

/-- A step of a machine whose index is not below a limit stores from that limit on. -/
theorem storesFrom_step {console : Console} (above : limit ≤ console.machine.index.toNat)
    (now : Nat) : (Use.step now : Use console).StoresFrom limit where
  -- Whether the word stores or not, the index says where it would.
  step _ _ _ _ _ := above
  write _ target := by cases target

/-- A use that is neither a step nor a write, such as the loading of a program, stores nothing. -/
theorem storesFrom_of_untargeted {console : Console} {use : Use console}
    (steps : ∀ now, use ≠ .step now) (untargeted : use.target? = none) :
    use.StoresFrom limit where
  step now same := absurd same (steps now)
  write address target := by
    rw [untargeted] at target
    cases target

/-- No use that stores from a limit on is seen below it, nor is the loading of a program. -/
theorem agreesBelow_use (small : limit ≤ programStart) (console : Console) (use : Use console)
    (from_limit : use.StoresFrom limit)
    (agrees : console.machine.memory.AgreesBelow limit Memory.fresh) :
    use.outcome.state.machine.memory.AgreesBelow limit Memory.fresh := by
  have handled := use.handled
  generalize result : use.outcome.state.machine = machine at handled ⊢
  cases handled with
  -- Neither the keys nor the sound timer are in memory.
  | kept | keyed | sounded => exact agrees
  | stepped now =>
    have above := from_limit.step now rfl
    exact (console.machine.agreesBelow_step console.entropy.next now above).trans agrees
  | loaded _ rom => exact (Memory.agreesBelow_install small _ rom).trans agrees
  | written bytes target succeeded =>
    -- The host writes from the limit on as well.
    have above := from_limit.write _ target succeeded
    exact (Memory.agreesBelow_overlay above _ bytes).trans agrees
  | restarted => exact Memory.agreesBelow_refl limit Memory.fresh
  | booted _ now rom => exact Memory.agreesBelow_install small Memory.fresh rom

/-- What stands in memory below a limit from which on all is stored is what stood there at first. -/
theorem agreesBelow_usage (small : limit ≤ programStart) (usage : Usage start later)
    (from_limit : usage.All (Use.StoresFrom limit))
    (agrees : start.machine.memory.AgreesBelow limit Memory.fresh) :
    later.machine.memory.AgreesBelow limit Memory.fresh := by
  -- Each use is compared with fresh memory and not with the one before it.
  induction usage with
  | nothing => exact agrees
  | andThen before use ih => exact agreesBelow_use small _ use from_limit.2 (ih from_limit.1)

/--
A cycle changes no part of the machine that its word has no row for, so a program that stores behind
the font never damages it, however often other programs are loaded and whether or not they fit.
-/
theorem cycle_confined_font_kept :
    (∀ (machine : Machine) (offered : Offer), machine.pc ≤ 0x0FFE →
      (machine.cycle offered).failure = none →
      machine.Confined (machine.cycle offered).state) ∧
    ∀ {start later : Console} (usage : Usage start later), start.machine.memory.HasFont →
      usage.All (Use.StoresFrom 0x50) → later.machine.memory.HasFont := by
  constructor
  · intro machine offered inside succeeded
    -- The program counter is not past the last whole word.
    have running : machine.halted = false :=
      Machine.halted_eq_false_iff.mpr (UInt16.le_iff_toNat_le.mp inside)
    exact Machine.confined_of_cycle running succeeded
  · intro start later usage font from_limit
    -- To have the font is to agree with fresh memory below its end.
    rw [Memory.hasFont_iff] at font ⊢
    exact agreesBelow_usage (by decide) usage from_limit font

/-- A program stores a number behind the font, and then one is refused and another one loaded. -/
theorem cycle_confined_font_kept_digits :
    let machine : Machine :=
      { Machine.booted 0 (.ofList [0xF0, 0x33]) .released with index := 0x50 }
    let stored := ((around machine).step 0).state
    let refused := (Use.load (.replicate 0xE01 7) : Use stored).outcome.state
    let loaded := (Use.loadHex "12 00" : Use refused).outcome.state
    machine.nextWord = toWord ⟨0xF, 0x0, 0x3, 0x3⟩ ∧
      (machine.cycle (.ok 0)).state.screen = machine.screen ∧
      loaded.machine.memory.HasFont := by
  intro machine stored refused loaded
  have word : machine.nextWord = toWord ⟨0xF, 0x0, 0x3, 0x3⟩ := by
    -- The word is found by the program counter and not by the index.
    have found (loaded : Machine) (index : UInt16) :
      { loaded with index }.nextWord = loaded.nextWord := rfl
    exact (found _ 0x50).trans (Machine.nextWord_booted 0 (.ofList [0xF0, 0x33]) .released)
  obtain ⟨cycles, runs⟩ := cycle_confined_font_kept
  have succeeded : (machine.cycle (.ok 0)).failure = none := by
    cases done : machine.attempt (.ok 0) with
    | ok effect => rw [Machine.cycle_of_ok rfl done]
    | error fault =>
      -- There is room for three digits behind the font.
      rw [Machine.attempt, word] at done
      cases done
  have parts := (cycles machine (.ok 0) (by decide) succeeded).parts
  rw [word] at parts
  -- The program that does not fit changes nothing, and the one after it is read from text.
  let usage : Usage (around machine) loaded :=
    .andThen (.andThen (.andThen .nothing (.step 0)) (.load (.replicate 0xE01 7)))
      (.loadHex "12 00")
  have behind : usage.All (Use.StoresFrom 0x50) :=
    ⟨⟨⟨True.intro, storesFrom_step (by decide) 0⟩,
      storesFrom_of_untargeted (fun _ same => by cases same) rfl⟩,
      storesFrom_of_untargeted (fun _ same => by cases same) rfl⟩
  have font : (around machine).machine.memory.HasFont := by
    rw [machine_around, Memory.hasFont_iff]
    exact Memory.agreesBelow_install (by decide) Memory.fresh (.ofList [0xF0, 0x33])
  -- The screen has two rows, and neither is that of the word.
  have apart : ¬ Machine.MayChange machine.index (toWord ⟨0xF, 0x0, 0x3, 0x3⟩) .screen := by
    generalize spelled : toWord ⟨0xF, 0x0, 0x3, 0x3⟩ = other
    intro may
    cases may with
    | clearScreen => exact absurd spelled (by decide)
    | draw x y n => exact absurd (toWord_inj.mp spelled) (by simp)
  exact ⟨word, parts .screen apart, runs usage font behind⟩

end Console

end ChipEight
