import ChipEight.Proofs.Console.Font
import ChipEight.Proofs.Memory.Access

/-! A program is loaded as a whole or not at all, and hides whatever was in its part of memory. -/

namespace ChipEight

/-- What can be done to memory. -/
inductive MemoryUse where
  /-- A program is put into it. -/
  | load (rom : Bytes)
  /-- The program that a text spells is put into it. -/
  | loadHex (text : String)
  /-- A byte is written to it. -/
  | write (address : Nat) (value : UInt8)
  /-- A range of it is written over. -/
  | writeAll (address : Nat) (bytes : Bytes)
  /-- It is filled anew. -/
  | reset
  /-- A machine, whatever its other parts are, takes a step with it. -/
  | step (machine : Machine) (offered : Offer) (now : Nat)

namespace Memory

/-- The memory after something was done to it, whether or not it failed. -/
def use (memory : Memory) : MemoryUse → Memory
  | .load rom => (memory.load rom).state
  | .loadHex text => (memory.loadHex text).state
  | .write address value => (memory.write address value).state
  | .writeAll address bytes => (memory.writeAll address bytes).state
  | .reset => fresh
  | .step machine offered now => ({ machine with memory }.step offered now).state.memory

/-- The memory after a number of things were done to it, one after the other. -/
def useAll (memory : Memory) (uses : List MemoryUse) : Memory := uses.foldl use memory

/-- A use does not write below a limit, be it a host that writes or a program that stores. -/
def Spares (limit : Nat) (memory : Memory) : MemoryUse → Prop
  -- A load goes to the part of memory that is for programs.
  | .load _ | .loadHex _ | .reset => True
  | .write address _ => address < memorySize → limit ≤ address
  -- Without a byte nothing is written, wherever that is.
  | .writeAll address bytes => Fits address bytes.size → bytes.size ≠ 0 → limit ≤ address
  | .step machine offered now =>
    -- A word stores at the index when it is carried out and does not fail.
    let machine := { machine with memory }
    machine.halted = false → (machine.step offered now).failure = none →
      Machine.Storing machine.nextWord → limit ≤ machine.index.toNat

/-- None of the things done to memory writes below a limit. -/
def SparesAll (limit : Nat) (memory : Memory) : List MemoryUse → Prop
  | [] => True
  | next :: later => memory.Spares limit next ∧ (memory.use next).SparesAll limit later

/-- What comes of an attempt to put a program into memory. -/
structure Loads (memory : Memory) (rom : Bytes) (outcome : Outcome Fault Memory) : Prop where
  /-- It is done when the program has at most as many bytes as there are from its start on. -/
  succeeds : outcome.failure = none ↔ rom.size ≤ 0xE00
  /-- Below the start of programs all stays as it was. -/
  kept : outcome.failure = none → ∀ address < 0x200,
    outcome.state.read address = memory.read address
  /-- From there on the program is read. -/
  placed : outcome.failure = none → ∀ place < rom.size,
    outcome.state.read (0x200 + place) = .ok (rom.byte place)
  /-- All behind the program is zero. -/
  cleared : outcome.failure = none → ∀ address, 0x200 + rom.size ≤ address → address ≤ 0xFFF →
    outcome.state.read address = .ok 0
  /-- It is done as if program memory was filled with zeros and then written over. -/
  staged : outcome.failure = none → ∃ blank,
    memory.fill programStart maxRomSize 0 = { state := blank } ∧
      blank.writeAll programStart rom = { state := outcome.state }
  /-- If it is not done, then not even in part. -/
  refused : ∀ fault, outcome.failure = some fault →
    fault = .romTooLarge rom.size ∧ outcome.state = memory

variable {limit : Nat} {memory other : Memory} {rom : Bytes}

/-- The byte at each address once a program is in place. -/
theorem read_install (memory : Memory) (rom : Bytes) {address : Nat}
    (inside : address < memorySize) :
    (Memory.mk (install memory.cells rom)).read address =
      if address < programStart then memory.read address
      else .ok ((rom.get? (address - programStart)).getD 0) := by
  simp only [read, dif_pos inside, getElem_install]
  -- Both sides ask first whether the place is below the start.
  split <;> rfl

/-- A program in place is what is seen of it when it is laid over zeros. -/
theorem install_eq_overlay (cells : Vector UInt8 memorySize) (rom : Bytes) :
    install cells rom = overlay (overlay cells programStart (Bytes.replicate maxRomSize 0).toList)
      programStart rom.toList := by
  -- The two layers are told apart at each address.
  apply Vector.ext
  intro address inside
  rw [getElem_install, getElem_overlay, getElem_overlay, Bytes.getElem?_toList,
    Bytes.getElem?_toList]
  by_cases below : address < programStart
  · rw [if_pos below, if_neg (Nat.not_le.mpr below), if_neg (Nat.not_le.mpr below)]
  · have behind : programStart ≤ address := Nat.not_lt.mp below
    -- Where the program has no byte the zeros are seen, which go on to the end of memory.
    have near : address - programStart < maxRomSize := by
      simp only [memorySize, programStart, maxRomSize] at inside behind ⊢
      omega
    have zero : (Bytes.replicate maxRomSize 0).get? (address - programStart) = some 0 := if_pos near
    rw [if_neg below, if_pos behind, if_pos behind, zero, Option.getD_some]

/-- Program memory is filled with zeros from its start to the end of memory. -/
theorem fill_program (memory : Memory) : memory.fill programStart maxRomSize 0 =
    { state := ⟨overlay memory.cells programStart (Bytes.replicate maxRomSize 0).toList⟩ } := by
  -- The program's part of memory goes on to its last address.
  have whole : Fits programStart (Bytes.replicate maxRomSize 0).size := by decide
  rw [fill, writeAll_of_fits _ whole]

/-- A program that fits is put in place over zeros. -/
theorem loads_of_fits (memory : Memory) (fits : rom.size ≤ 0xE00) :
    memory.Loads rom { state := ⟨install memory.cells rom⟩ } where
  succeeds := iff_of_true rfl fits
  kept _ address below := by
    -- What is below the start was found without a look at the program.
    rw [read_install memory rom (Nat.lt_trans below (by decide))]
    exact if_pos below
  placed _ place inside := by
    -- This far in, the byte is the program's own.
    have beyond : ¬ 0x200 + place < programStart := by
      simp only [programStart]
      omega
    rw [read_install memory rom (by simp only [memorySize]; omega), if_neg beyond]
    simp [programStart, Bytes.get?, inside]
  cleared _ address behind near := by
    have beyond : ¬ address < programStart := by
      simp only [programStart]
      omega
    rw [read_install memory rom (Nat.lt_succ_of_le near), if_neg beyond]
    -- The place is past the last byte of the program.
    have past : ¬ address - 0x200 < rom.size := by omega
    simp [programStart, Bytes.get?, past]
  staged _ := by
    have room : Fits programStart rom.size := Nat.add_le_add_left fits programStart
    refine ⟨_, fill_program memory, ?_⟩
    rw [writeAll_of_fits _ room, install_eq_overlay]
  refused _ failed := by cases failed

/-- A program that does not fit is refused before anything is written. -/
theorem loads_of_large (memory : Memory) (large : 0xE00 < rom.size) :
    memory.Loads rom { state := memory, failure := some (.romTooLarge rom.size) } where
  -- As the load is refused, all that is said of its success is void.
  succeeds := iff_of_false nofun (Nat.not_le.mpr large)
  kept done := by cases done
  placed done := by cases done
  cleared done := by cases done
  staged done := by cases done
  refused fault failed := by
    cases failed
    exact ⟨rfl, rfl⟩

/-- An attempt to load a program does it as a whole or not at all. -/
theorem loads_load (memory : Memory) (rom : Bytes) :
    memory.Loads rom (memory.load rom) := by
  rcases Nat.lt_or_ge 0xE00 rom.size with large | fits
  · rw [load_of_large memory large]
    exact memory.loads_of_large large
  · rw [load_of_fits memory fits]
    exact memory.loads_of_fits fits

/-- What is below the start of programs is all that a load leaves of memory. -/
theorem load_congr (agrees : memory.AgreesBelow 0x200 other) (rom : Bytes) :
    (memory.load rom).result = (other.load rom).result := by
  have same : install memory.cells rom = install other.cells rom := by
    -- At each address the program decides, or the byte that both memories share.
    apply Vector.ext
    intro address inside
    rw [getElem_install, getElem_install]
    by_cases below : address < programStart
    · rw [if_pos below, if_pos below]
      exact agrees address inside below
    · rw [if_neg below, if_neg below]
  -- A program that is too large is so for both.
  rcases Nat.lt_or_ge maxRomSize rom.size with large | fits
  · rw [load_of_large memory large, load_of_large other large]
    rfl
  · rw [load_of_fits memory fits, load_of_fits other fits, same]

/-- A program that is loaded, or is too large, is not seen below its start. -/
theorem agreesBelow_load (small : limit ≤ programStart) (memory : Memory) (rom : Bytes) :
    AgreesBelow limit (memory.load rom).state memory := by
  rcases Nat.lt_or_ge maxRomSize rom.size with large | fits
  · rw [load_of_large memory large]
    exact agreesBelow_refl limit memory
  · rw [load_of_fits memory fits]
    exact agreesBelow_install small memory rom

/-- Nothing that spares memory below a limit is seen there. -/
theorem agreesBelow_spared (small : limit ≤ programStart) {next : MemoryUse}
    (spares : memory.Spares limit next) (agrees : memory.AgreesBelow limit fresh) :
    (memory.use next).AgreesBelow limit fresh := by
  cases next with
  | load rom => exact (agreesBelow_load small memory rom).trans agrees
  | loadHex text =>
    rw [use, loadHex]
    -- A text that spells no bytes is refused before there is anything to load.
    cases HexText.decode text with
    | error fault => exact agrees
    | ok rom => exact (agreesBelow_load small memory rom).trans agrees
  | write address value =>
    rw [use]
    rcases Nat.lt_or_ge address memorySize with inside | outside
    · -- The byte is not written below the limit.
      rw [write_of_lt memory inside]
      exact (agreesBelow_overlay (spares inside) memory [value]).trans agrees
    · -- A write outside of memory is refused, so nothing is said of its place.
      rw [write_of_ge memory outside]
      exact agrees
  | writeAll address bytes =>
    rw [use]
    by_cases fits : Fits address bytes.size
    · rw [writeAll_of_fits memory fits]
      by_cases empty : bytes.size = 0
      · -- No bytes leave memory as it is.
        rw [Bytes.toList, empty]
        exact agrees
      · exact (agreesBelow_overlay (spares fits empty) memory bytes.toList).trans agrees
    · rw [writeAll_of_beyond memory fits]
      exact agrees
  | reset => exact agreesBelow_refl limit fresh
  | step machine offered now =>
    exact (Machine.agreesBelow_step { machine with memory } offered now spares).trans agrees

/-- What stands below a limit that all uses spare is what stood there at first. -/
theorem agreesBelow_useAll (small : limit ≤ programStart) {uses : List MemoryUse}
    (spares : memory.SparesAll limit uses) (agrees : memory.AgreesBelow limit fresh) :
    (memory.useAll uses).AgreesBelow limit fresh := by
  -- The first use leaves memory in agreement for the others.
  induction uses generalizing memory with
  | nil => exact agrees
  | cons next later ih => exact ih spares.2 (agreesBelow_spared small spares.1 agrees)

/--
A program is loaded as a whole or not at all, and leaves no trace of what was there. If it fits, the
bytes below its start are kept, its own follow, and zeros go on to the end, so memories that agree
below the start of programs are the same after it. Whatever was done to fresh memory before, with
programs loaded or refused, hosts writing and machines taking steps, a program that is loaded at
last finds itself in the same memory as if nothing had been done, if nothing was written below its
start.
-/
theorem load_leaves_no_trace :
    (∀ (memory : Memory) (rom : Bytes), memory.Loads rom (memory.load rom)) ∧
    (∀ (memory other : Memory) (rom : Bytes), memory.AgreesBelow 0x200 other →
      (memory.load rom).result = (other.load rom).result) ∧
    ∀ (uses : List MemoryUse) (rom : Bytes), fresh.SparesAll 0x200 uses →
      ((fresh.useAll uses).load rom).result = (fresh.load rom).result := by
  refine ⟨loads_load, fun memory other rom agrees => load_congr agrees rom, ?_⟩
  intro uses rom spares
  -- Fresh memory and the used one need to agree below the start of programs only.
  apply load_congr
  exact agreesBelow_useAll (Nat.le_refl _) spares (agreesBelow_refl _ fresh)

/-- A load that was refused, a program that stored and a host that wrote leave no trace. -/
theorem load_leaves_no_trace_stored :
    let program := Bytes.ofList [0xF0, 0x55]
    let uses : List MemoryUse := [.load (.replicate 0xE01 7), .load program,
      .step { index := 0x400 } (.ok 0) 0, .loadHex "12 0", .write 0x300 9]
    (fresh.useAll uses).read 0x300 = .ok 9 ∧
      ((fresh.useAll uses).load program).result = (fresh.load program).result ∧
      ((Memory.mk (overlay fresh.cells 0x300 [9])).load program).result =
        (fresh.load program).result := by
  intro program uses
  -- The write comes last, so it is seen whatever was there.
  have written : ∀ memory : Memory, (memory.use (.write 0x300 9)).read 0x300 = .ok 9 := by
    intro memory
    have put := memory.overwrites_write 0x300 9
    exact put.seen (put.succeeds.mpr (by decide)) 0x300
  have spares : fresh.SparesAll 0x200 uses := by
    refine ⟨True.intro, True.intro, ?_, True.intro, ?_, True.intro⟩
    · -- The program stores at the index, whatever its words are.
      intro _ _ _
      decide
    · intro _
      decide
  have behind : AgreesBelow 0x200 ⟨overlay fresh.cells 0x300 [9]⟩ fresh :=
    agreesBelow_overlay (by decide) fresh [9]
  obtain ⟨_, alike, traceless⟩ := load_leaves_no_trace
  exact ⟨written _, traceless uses program spares, alike _ _ program behind⟩

end Memory

end ChipEight
