import ChipEight.Keypad.Laws
import ChipEight.Proofs.Instruction.Opcode
import ChipEight.Proofs.Machine.Guarded
import ChipEight.Proofs.Machine.Step
import ChipEight.Screen.Laws

/-! No check of the cycle on raw numbers ever fails, so it does what the cycle does. -/

namespace ChipEight

namespace Guarded

/-- An activity that came to something is followed by the next. -/
@[simp] theorem ok_bind {ε α β : Type} (value : α) (next : α → Except ε β) :
    (Except.ok value >>= next) = next value := rfl

/-- What comes to something comes to it without breaking down. -/
@[simp] theorem sound_ok {α : Type} (value : α) : sound (.ok value) = .ok value := rfl

/-- A number of sixteen bits fits in a word. -/
theorem fits_word {number : Nat} (small : number < 0x10000) :
    fits wordLimit number = .ok number := if_pos small

/-- A number of sixty-four bits fits in a position on the host. -/
theorem fits_host {number : Nat} (small : number < 0x10000000000000000) :
    fits hostLimit number = .ok number := if_pos small

section Cells

variable {α : Type} {size : Nat}

/-- A number below the size of the cells is a place. -/
theorem readAt_of_lt (cells : Vector α size) {place : Nat} (inside : place < size) :
    readAt cells place = .ok cells[place] := by
  rw [readAt, Vector.getElem?_eq_getElem inside, present]

/-- A value can be put into every place. -/
theorem writeAt_of_lt (cells : Vector α size) {place : Nat} (inside : place < size) (value : α) :
    writeAt cells place value = .ok (cells.set place value) := dif_pos inside

/-- Values are cut out of the cells in order. -/
theorem cut_of_le (cells : Vector α size) {start stop : Nat} (forward : start ≤ stop)
    (inside : stop ≤ size) :
    cut cells start stop = .ok (cells.extract start stop).toList := if_pos ⟨forward, inside⟩

end Cells

/-- The end of a range can be computed from an address and a length of few bits. -/
theorem checkedEnd_eq {address length : Nat} (low : address < 0x10000) (short : length ≤ 0x10000) :
    checkedEnd address length = if Memory.Fits address length then .ok (address + length)
      else .error (.fault (Memory.rangeFault address length)) := by
  -- Seventeen bits are far from the limit of the host.
  rw [checkedEnd, fits_host (by omega), ok_bind]
  rfl

/-- A range is read as a whole, or the fault names its last address. -/
theorem slice_eq (memory : Memory) {address length : Nat} (low : address < 0x10000)
    (short : length ≤ 0x10000) :
    slice memory address length = sound (memory.slice address length) := by
  rw [slice, checkedEnd_eq low short, Memory.slice]
  split
  · -- A range that ends in memory runs forward and can be cut out.
    rename_i inside
    exact cut_of_le memory.cells (Nat.le_add_right _ _) inside
  · rfl

/-- Bytes are copied to as many places, or the fault names the last of them. -/
theorem poke_eq (memory : Memory) {address length : Nat} {bytes : List UInt8}
    (low : address < 0x10000) (short : length ≤ 0x10000) (many : bytes.length = length) :
    poke memory address length bytes =
      if Memory.Fits address bytes.length then .ok ⟨Memory.overlay memory.cells address bytes⟩
      else .error (.fault (Memory.rangeFault address bytes.length)) := by
  rw [poke, checkedEnd_eq low short, many]
  split
  · -- There are as many places as bytes, and each place gets the byte that is laid over it.
    rename_i inside
    have forward : address ≤ address + length ∧ address + length ≤ memorySize :=
      ⟨Nat.le_add_right _ _, inside⟩
    have room : bytes.length = address + length - address := by omega
    rw [ok_bind, copyInto, if_pos forward, if_pos room, ok_bind]
    refine congrArg (fun cells => Except.ok (Memory.mk cells)) (Vector.ext fun place placed => ?_)
    rw [Vector.getElem_ofFn, Memory.getElem_overlay]
    simp only [Fin.getElem_fin]
  · rfl

/-- A word is fetched as a whole, or the fault names the address of its second byte. -/
theorem fetch_eq (machine : Machine) : fetch machine = sound machine.fetch := by
  rw [fetch, slice_eq machine.memory machine.pc.toNat_lt (by decide), Machine.fetch]
  by_cases inside : Memory.Fits machine.pc.toNat 2
  · have within : machine.pc.toNat + 2 ≤ memorySize := inside
    have sliced : machine.memory.slice machine.pc.toNat 2 = .ok _ := if_pos inside
    -- Both bytes are there to be read.
    have first := Memory.getElem?_slice sliced 0
    have second := Memory.getElem?_slice sliced 1
    rw [if_pos (by decide), Vector.getElem?_eq_getElem (by omega)] at first second
    rw [sliced, sound_ok, ok_bind, first, second, Memory.fetch, dif_pos inside]
    rfl
  · -- Both ways the fault is that of a range of two bytes.
    rw [Memory.slice, if_neg inside, Memory.fetch, dif_neg inside]
    rfl

variable (machine : Machine) (x y : Fin registerCount)

/-- A register number is one of a register. -/
@[simp] theorem reg_val : reg x machine = .ok (machine.reg x) machine := by
  rw [reg, Activity.look_apply, readAt_of_lt machine.registers x.isLt]
  rfl

/-- A register number is one of a register that can be set. -/
@[simp] theorem setReg_val (value : UInt8) :
    setReg x value machine = .ok () (machine.setReg x value) := by
  rw [setReg, Activity.bind_apply, Activity.look_apply, writeAt_of_lt machine.registers x.isLt]
  rfl

/-- The flag has a register number. -/
@[simp] theorem setReg_flag (value : UInt8) :
    setReg 0xF value machine = .ok () (machine.setReg flagRegister value) :=
  setReg_val machine flagRegister value

/-- The register that indexed jumps add has a number. -/
@[simp] theorem reg_jump : reg 0 machine = .ok (machine.reg jumpRegister) machine :=
  reg_val machine jumpRegister

/-- Two registers can be combined in the first. -/
@[simp] theorem combine_val (result : UInt8 → UInt8 → UInt8) :
    combine x y result machine =
      .ok .next (machine.setReg x (result (machine.reg x) (machine.reg y))) := by
  simp only [combine, Activity.bind_apply, reg_val, setReg_val, Activity.pure_apply]

/-- Two registers can be combined in the first after the flag was set. -/
@[simp] theorem combineFlagged_val (flagged result : UInt8 → UInt8 → UInt8) :
    combineFlagged x y flagged result machine =
      let between := machine.setReg flagRegister (flagged (machine.reg x) (machine.reg y))
      .ok .next (between.setReg x (result (between.reg x) (between.reg y))) := by
  simp only [combineFlagged, Activity.bind_apply, reg_val, setReg_flag, combine_val]

section Drawing

variable {left top : Nat}

/-- The pixels that some columns of a sprite row cover. -/
def pixels (left top : Nat) (data : UInt8) (columns : List Nat) :
    List (Fin (screenWidth * screenHeight)) :=
  (columns.filter fun column => data.toNat.testBit (7 - column)).map fun column =>
    Screen.position (left + column) top

/-- A column adds its pixel when its bit is set. -/
theorem pixels_cons (left top : Nat) (data : UInt8) (column : Nat) (rest : List Nat) :
    pixels left top data (column :: rest) =
      if data.toNat.testBit (7 - column) then
        Screen.position (left + column) top :: pixels left top data rest
      else pixels left top data rest := by
  rw [pixels, List.filter_cons]
  -- The columns are filtered before their pixels are found.
  split <;> rfl

/-- The place of a pixel is computed from its row and its column, and there is a pixel. -/
theorem drawColumns_cons (near : left + 7 < hostLimit) (data : UInt8) {column : Nat}
    (within : column < 8) (rest : List Nat) (screen : Screen) (erased : Bool) :
    drawColumns left (top % screenHeight * screenWidth) data (column :: rest) screen erased =
      if data.toNat.testBit (7 - column) then
        drawColumns left (top % screenHeight * screenWidth) data rest
          (screen.flip (Screen.position (left + column) top))
          (erased || screen.lit (Screen.position (left + column) top))
      else drawColumns left (top % screenHeight * screenWidth) data rest screen erased := by
  have place : top % screenHeight * screenWidth + (left + column) % screenWidth <
      screenWidth * screenHeight := (Screen.position (left + column) top).isLt
  rw [drawColumns]
  split
  · -- The row and the column were both cut to the screen, so the sum is a place on it.
    have across : left + column < 0x10000000000000000 := by
      simp only [hostLimit] at near
      omega
    rw [fits_host across, ok_bind, fits_host (Nat.lt_trans place (by decide)), ok_bind,
      readAt_of_lt screen.pixels place, ok_bind, writeAt_of_lt screen.pixels place, ok_bind]
    rfl
  · rfl

/-- A sprite row is drawn pixel by pixel, each of which is read before it or another is flipped. -/
theorem drawColumns_eq (near : left + 7 < hostLimit) (data : UInt8) (columns : List Nat)
    (few : ∀ column ∈ columns, column < 8) (screen : Screen) (erased : Bool)
    (distinct : (pixels left top data columns).Nodup) :
    drawColumns left (top % screenHeight * screenWidth) data columns screen erased =
      .ok ((pixels left top data columns).foldl Screen.flip screen,
        erased || (pixels left top data columns).any screen.lit) := by
  induction columns generalizing screen erased with
  | nil => simp [drawColumns, pixels]
  | cons column rest ih =>
    -- The pixels are found by what was lit before the first flip, so the screen stays open.
    replace ih := ih fun other listed => few other (List.mem_cons_of_mem column listed)
    rw [pixels_cons] at distinct ⊢
    rw [drawColumns_cons near data (few column List.mem_cons_self)]
    split
    · -- The pixels that are still to come are different from this one.
      rename_i covers
      rw [if_pos covers, List.nodup_cons] at distinct
      rw [ih _ _ distinct.2, Screen.any_lit_flip screen distinct.1, List.foldl_cons, List.any_cons,
        Bool.or_assoc]
    · -- A column whose bit is clear is passed over.
      rename_i free
      rw [if_neg free] at distinct
      exact ih _ _ distinct

/-- A sprite row is drawn without a breakdown. -/
theorem drawByte_eq (near : left + 7 < hostLimit) (screen : Screen) (top : Nat) (data : UInt8) :
    drawByte screen left top data = .ok (screen.drawByte left top data) := by
  have down : top % 32 < 32 := Nat.mod_lt _ (by decide)
  have row : top % screenHeight * screenWidth < 0x10000000000000000 := by
    simp only [screenHeight, screenWidth]
    omega
  -- Eight columns in a row cover eight pixels, around the edge as well.
  rw [drawByte, fits_host row, ok_bind, drawColumns_eq near data (List.range 8)
    (fun column => List.mem_range.mp) screen false (Screen.nodup_covered left top data)]
  rfl

/-- The rows of a sprite are drawn below each other without a breakdown. -/
theorem drawRows_eq (near : left + 7 < hostLimit) (high : top < 0x10000) (sprite : List UInt8)
    (row : Nat) (few : row + sprite.length ≤ 0x10000) (machine : Machine) :
    drawRows left top row sprite machine = .ok () (machine.drawRows left (top + row) sprite) := by
  induction sprite generalizing row machine with
  -- Without rows neither screen nor flag is touched.
  | nil => rfl
  -- The machine stays open, since each row is drawn on what the rows above it left.
  | cons data rest ih =>
    rw [List.length_cons] at few
    have down : fits hostLimit (top + row) = .ok (top + row) := fits_host (by omega)
    have drawn := drawByte_eq near machine.screen (top + row) data
    simp only [Machine.drawRows, drawRows, Activity.bind_apply, Activity.look_apply, down, drawn,
      Activity.modify_apply]
    -- A row that puts out a pixel sets the flag, and one that does not leaves it alone.
    cases (machine.screen.drawByte left (top + row) data).2 with
    | true =>
      simp only [if_true]
      exact ih (row + 1) (by omega) _
    | false =>
      simp only [Bool.false_eq_true, if_false]
      exact ih (row + 1) (by omega) _

end Drawing

/-- A sprite is drawn as a whole, or the fault names the last of its bytes. -/
theorem draw_eq (machine : Machine) (x y : Fin registerCount) (height : UInt8) :
    draw x y height machine = sturdy (Machine.draw x y height) machine := by
  -- Corner and length are bytes, and the sums of the rows stay far from the limit.
  have across := (machine.reg x).toNat_lt
  have down := (machine.reg y).toNat_lt
  have rows := height.toNat_lt
  have near : (machine.reg x).toNat + 7 < hostLimit := by
    simp only [hostLimit]
    omega
  have short : height.toNat ≤ 0x10000 := by omega
  have read := slice_eq machine.memory machine.index.toNat_lt short
  simp only [draw, sturdy, Machine.draw, Activity.bind_apply, Activity.get_apply, reg_val,
    Activity.look_apply, read]
  cases sliced : machine.memory.slice machine.index.toNat height.toNat with
  -- A sprite that does not lie in memory is refused before the flag is cleared.
  | error fault => rfl
  | ok sprite =>
    have many := Memory.length_slice sliced
    simp only [sound_ok, setReg_flag, Activity.modify_apply]
    exact drawRows_eq near (by omega) sprite 0 (by omega) _

variable (keypad : Keypad)

/-- The low four bits of a byte are one of sixteen keys. -/
theorem nibbleHeld_eq (byte : UInt8) : nibbleHeld keypad byte = .ok (keypad.nibbleHeld byte) := by
  -- The mask leaves the remainder by sixteen.
  have number : (byte &&& 0xF).toNat = byte.toNat % keyCount :=
    (UInt8.toNat_and byte 0xF).trans (Nat.and_two_pow_sub_one_eq_mod byte.toNat 4)
  rw [nibbleHeld, number, readAt_of_lt keypad.keys (Nat.mod_lt _ (by decide))]
  rfl

/-- The keys are looked at in order, and there is one of every number. -/
theorem firstHeld_map (keys : List (Fin keyCount)) :
    firstHeld keypad (keys.map Fin.val) = .ok ((keys.find? keypad.holds).map Fin.val) := by
  -- The search goes on as long as the keys are free.
  induction keys with
  | nil => rfl
  | cons key rest ih =>
    rw [List.map_cons, firstHeld, readAt_of_lt keypad.keys key.isLt, ok_bind, List.find?_cons, ih]
    show (if keypad.holds key then _ else _) = _
    split <;> simp_all

/-- The lowest held key is the first of all keys that is held. -/
theorem firstHeld_eq :
    firstHeld keypad (List.range keyCount) = .ok (keypad.lowestHeld?.map Fin.val) := by
  -- The sixteen numbers are those of the keys.
  have all : List.range keyCount = (List.finRange keyCount).map Fin.val := by decide
  rw [all, firstHeld_map]
  rfl

/-- Bytes are stored at the index as a whole, or the fault names the last address. -/
theorem store_eq {machine : Machine} (offered : Offer) {count : Nat} {bytes : List UInt8}
    {instruction : Instruction (Fin registerCount)} (short : count ≤ 0x10000)
    (stores : machine.stores? instruction = some bytes) (many : bytes.length = count) :
    store count bytes machine = sturdy (Machine.execute offered instruction) machine := by
  rw [sturdy, Machine.execute_stores offered stores, store, Activity.bind_apply,
    Activity.look_apply, poke_eq machine.memory machine.index.toNat_lt short many]
  -- Both ways the bytes are written as a whole or not at all.
  by_cases fits : Memory.Fits machine.index.toNat bytes.length
  · simp [fits]
  · simp [fits]

/-- The registers up to one of them can be cut out, and there are as many as its number says. -/
theorem cut_registers (machine : Machine) (x : Fin registerCount) :
    cut machine.registers 0 (x + 1) = .ok (machine.registers.toList.take (x + 1)) := by
  -- There is a register behind every number, so one more than it is a length.
  rw [cut_of_le machine.registers (Nat.zero_le _) x.isLt, Vector.toList_extract]
  rfl

/-- Bytes can be copied into the registers up to one of them if there is one for each. -/
theorem copyInto_registers (machine : Machine) (x : Fin registerCount) {bytes : List UInt8}
    (many : bytes.length = x + 1) :
    copyInto machine.registers 0 (x + 1) bytes = .ok (machine.setRegisters bytes).registers := by
  -- The copy starts at the first register.
  have room : bytes.length = x + 1 - 0 := many
  rw [copyInto, if_pos ⟨Nat.zero_le _, x.isLt⟩, if_pos room]
  simp [Machine.setRegisters]

/-- What an instruction does cannot break down if its numbers are those of a decoded word. -/
theorem execute_eq (machine : Machine) (offered : Offer)
    {instruction : Instruction (Fin registerCount)}
    (near : ∀ base, instruction = .jumpIndexed base → base.toNat < 0x1000) :
    execute offered (instruction.map Fin.val) machine =
      sturdy (Machine.execute offered instruction) machine := by
  -- Sums, cuts and copies are what could break down, and few instructions have any.
  cases instruction with
  -- The stack is no cells, and its end is a fault.
  | ret =>
    simp only [Instruction.map, execute, sturdy, Machine.execute, Activity.bind_apply]
    cases Machine.popCall machine <;> rfl
  | jumpIndexed base =>
    -- A byte is added to an address of three digits.
    have low := near base rfl
    have byte := (machine.reg jumpRegister).toNat_lt
    have sum : UInt16.ofNat (base.toNat + (machine.reg jumpRegister).toNat) =
        base + (machine.reg jumpRegister).toUInt16 := by simp
    have fitting : base.toNat + (machine.reg jumpRegister).toNat < 0x10000 := by omega
    simp only [Instruction.map, execute, Activity.bind_apply, reg_jump, Activity.look_apply,
      fits_word fitting, sum]
    rfl
  | add x y =>
    -- Two bytes add up to less than nine bits.
    have first := (machine.reg x).toNat_lt
    have second := (machine.reg y).toNat_lt
    have fitting : (machine.reg x).toNat + (machine.reg y).toNat < 0x10000 := by omega
    simp only [Instruction.map, execute, Activity.bind_apply, reg_val, Activity.look_apply,
      fits_word fitting, setReg_flag, setReg_val]
    rfl
  | loadGlyph x =>
    -- Five times a byte is below the limit of words, although it is multiplied as a position.
    have byte := (machine.reg x).toNat_lt
    have offset : fits hostLimit (Font.glyphSize * (machine.reg x).toNat) = .ok _ :=
      fits_host (by simp only [Font.glyphSize]; omega)
    have address : fits hostLimit (Font.start + Font.glyphSize * (machine.reg x).toNat) = .ok _ :=
      fits_host (by simp only [Font.glyphSize, Font.start]; omega)
    have index : fits wordLimit (Font.start + Font.glyphSize * (machine.reg x).toNat) = .ok _ :=
      fits_word (by simp only [Font.glyphSize, Font.start]; omega)
    simp only [Instruction.map, execute, Activity.bind_apply, reg_val, Activity.look_apply, offset,
      address, index]
    rfl
  -- The answer of the source is passed on as it is.
  | random x mask =>
    simp only [Instruction.map, execute, Activity.bind_apply, Activity.look_apply]
    cases offered with
    | error reason => rfl
    | ok byte =>
      have given : Except.mapError Fault.noRandomByte (.ok byte : Offer) = .ok byte := rfl
      simp [given, sturdy, Machine.execute_random]
  | draw x y height =>
    simp only [Instruction.map, execute, Activity.bind_apply, draw_eq, sturdy, Machine.execute]
    cases Machine.draw x y height machine <;> rfl
  | awaitKey x =>
    -- With or without a held key, all sixteen are there to be looked at.
    simp only [Instruction.map, execute, Activity.bind_apply, Activity.look_apply, firstHeld_eq,
      sturdy, Machine.execute_awaitKey]
    cases machine.keypad.lowestHeld? <;> simp
  -- There are three digits for three places.
  | storeDecimal x =>
    simp only [Instruction.map, execute, Activity.bind_apply, reg_val]
    exact store_eq offered (by decide) rfl rfl
  | storeRegisters x =>
    -- The registers that are cut out are as many as the places that they go to.
    have number : x.val < 16 := x.isLt
    have fitting : x.val + 1 < 0x10000000000000000 := by omega
    simp only [Instruction.map, execute, Activity.bind_apply, Activity.look_apply,
      fits_host fitting, cut_registers]
    exact store_eq offered (by omega) rfl (Machine.length_take_registers machine x)
  | loadRegisters x =>
    have number : x.val < 16 := x.isLt
    have fitting : x.val + 1 < 0x10000000000000000 := by omega
    have short : x.val + 1 ≤ 0x10000 := by omega
    simp only [Instruction.map, execute, Activity.bind_apply, Activity.look_apply,
      fits_host fitting, slice_eq machine.memory machine.index.toNat_lt short, sturdy,
      Machine.execute_loadRegisters]
    cases sliced : machine.memory.slice machine.index.toNat (x + 1) with
    | error fault => rfl
    | ok bytes =>
      -- As many bytes were read as there are registers to be loaded.
      simp only [sound_ok, copyInto_registers machine x (Memory.length_slice sliced)]
      rfl
  | skipIfHeld x | skipUnlessHeld x =>
    simp only [Instruction.map, execute, Activity.bind_apply, reg_val, Activity.look_apply,
      nibbleHeld_eq]
    rfl
  -- The others read or set registers and compute nothing that could overflow.
  | _ =>
    simp only [Instruction.map, execute, Activity.bind_apply, Activity.get_apply, reg_val,
      setReg_val, combine_val, combineFlagged_val]
    rfl

/-- A program that has not run off the end goes on without wrapping around. -/
theorem follow_eq {machine : Machine} (address : UInt16) (inside : machine.pc.toNat ≤ 0x1000)
    (flow : Flow) : follow address flow machine = .ok () (machine.follow address flow) := by
  cases flow with
  | skip =>
    -- From the end of memory it is far to the end of words.
    have fitting : machine.pc.toNat + 2 < 0x10000 := by omega
    have onward : UInt16.ofNat (machine.pc.toNat + 2) = machine.pc + 2 := by simp
    simp only [follow, Activity.bind_apply, Activity.look_apply, fits_word fitting, onward]
    rfl
  | next | jump _ | again => rfl

/-- The instruction of a word is carried out without a breakdown, and the program goes on. -/
theorem carryOut_eq {machine : Machine} (offered : Offer) (word : UInt16)
    (inside : machine.pc.toNat ≤ 0x0FFE) :
    carryOut offered word machine =
      match Machine.execute offered (Instruction.decode word) (machine.begin word) with
      | .ok flow after => .ok () (after.follow machine.pc flow)
      | .error fault after => .error (.fault fault) after := by
  have fitting : machine.pc.toNat + 2 < 0x10000 := by omega
  have behind : UInt16.ofNat (machine.pc.toNat + 2) = machine.pc + 2 := by simp
  -- A word names addresses of three digits, so that a byte can be added to them.
  have near : ∀ base, Instruction.decode word = .jumpIndexed base → base.toNat < 0x1000 :=
    fun base decoded => Instruction.lt_of_destination? (congrArg Instruction.destination? decoded)
  simp only [carryOut, Activity.bind_apply, Activity.get_apply, Activity.look_apply,
    fits_word fitting, behind, Activity.modify_apply, execute_eq _ offered near, sturdy]
  rw [show { machine with lastWord := word, lastAddress := machine.pc, pc := machine.pc + 2 } =
    machine.begin word from rfl]
  cases done : Machine.execute offered (Instruction.decode word) (machine.begin word) with
  | error fault after => rfl
  | ok flow after =>
    -- The program counter is still just behind the word, and that is at most the end of memory.
    have effect : (machine.begin word).effect offered (Instruction.decode word) =
        .ok { machine := after, flow } := by
      rw [Machine.effect, done]
    have still : after.pc = machine.pc + 2 := (Machine.effect_keeps effect).2.2.1
    apply follow_eq
    rw [still, UInt16.toNat_add]
    simp only [UInt16.reduceToNat]
    omega

/-- Whatever the machine looks like, a cycle never breaks down, and its checks change nothing. -/
theorem cycle_eq (machine : Machine) (offered : Offer) :
    cycle machine offered = .ok (machine.cycle offered) := by
  -- A machine that has halted is not looked at any further.
  cases running : machine.halted with
  | true => rw [cycle, Machine.cycle, if_pos running, if_pos running]
  | false =>
    have onward : ¬ machine.halted = true := Bool.not_eq_true _ ▸ running
    have carried := carryOut_eq offered machine.nextWord (Machine.halted_eq_false_iff.mp running)
    rw [cycle, Machine.cycle, if_neg onward, if_neg onward, fetch_eq,
      Machine.fetch_of_running running, sound_ok]
    simp only [carried]
    -- What goes wrong is a fault, from which both go back to the word.
    cases Machine.execute offered (Instruction.decode machine.nextWord)
      (machine.begin machine.nextWord) <;> rfl

end Guarded

end ChipEight
