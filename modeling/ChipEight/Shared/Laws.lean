import ChipEight.Shared.Basic

/-! What holders of handles see of each other's writes, and what becomes of the handles. -/

namespace ChipEight.Shared

variable {α : Type}

/-- A cell that was written is read as it was written, and every other as it was. -/
theorem read_write (shared : Shared α) (address other : Nat) (value : α) :
    (shared.write address value).read other =
      if other = address then value else shared.read other := by
  -- The owner's cell and the others are kept apart, and each is written in its place.
  unfold write
  by_cases own : address = shared.own
  · rw [if_pos own, own]
    by_cases same : other = shared.own <;> simp [read, put, same]
  · rw [if_neg own]
    by_cases same : other = address
    · simp [read, same, own]
    · simp [read, same]

/-- What is in a cell can be put into it again without any change. -/
@[simp] theorem write_read (shared : Shared α) (address : Nat) :
    shared.write address (shared.read address) = shared := by
  unfold write read
  split
  · rfl
  · -- The other cells are told apart by their numbers.
    congr 1
    funext other
    split
    · rename_i same
      rw [same]
    · rfl

/-- What is written to the owner's cell is put there. -/
@[simp] theorem write_own (shared : Shared α) (value : α) :
    shared.write shared.own value = shared.put value := if_pos rfl

/-- What is in the owner's cell is the shared value. -/
@[simp] theorem read_own (shared : Shared α) : shared.read shared.own = shared.value := if_pos rfl

/-- What stays of a sharing through everything that can be done to it. -/
structure Keeps (shared later : Shared α) : Prop where
  /-- The owner has the same cell. -/
  own : later.own = shared.own
  /-- Handles are given out and not taken back, and each still refers to its cell. -/
  handles : shared.handles <+: later.handles
  /-- A new handle refers to the owner's cell or to that of an earlier one. -/
  cells : ∀ address ∈ later.handles, address = shared.own ∨ address ∈ shared.handles

/-- Every handle refers to the owner's cell. -/
def Joined (shared : Shared α) : Prop := ∀ address ∈ shared.handles, address = shared.own

variable {shared middle later : Shared α}

/-- As long as nothing happens to the handles all of them stay. -/
theorem keeps_of_handles (own : later.own = shared.own) (handles : later.handles = shared.handles) :
    shared.Keeps later where
  own := own
  -- A list is a beginning of itself.
  handles := handles ▸ List.prefix_rfl
  cells _ listed := Or.inr (handles ▸ listed)

/-- What is kept twice in a row is kept. -/
theorem Keeps.trans (first : shared.Keeps middle) (second : middle.Keeps later) :
    shared.Keeps later where
  own := second.own.trans first.own
  handles := first.handles.trans second.handles
  cells address listed := by
    -- A handle of the last is on the owner's cell, or it was there before.
    rcases second.cells address listed with own | earlier
    · exact Or.inl (own.trans first.own)
    · exact first.cells address earlier

/-- A handle goes on as a handle of the same number on the same cell. -/
theorem Keeps.handle (keeps : shared.Keeps later) (handle : shared.Handle) :
    ∃ kept : later.Handle, kept.val = handle.val ∧ later.cell kept = shared.cell handle := by
  have more : handle.val < later.handles.length :=
    Nat.lt_of_lt_of_le handle.isLt keeps.handles.length_le
  refine ⟨⟨handle.val, more⟩, rfl, ?_⟩
  -- The handles of before are the first ones of now.
  exact (keeps.handles.getElem handle.isLt).symm

/-- A value that the owner puts into its cell leaves the handles alone. -/
theorem keeps_put (shared : Shared α) (value : α) : shared.Keeps (shared.put value) :=
  keeps_of_handles rfl rfl

/-- A write through a handle turns no handle to another cell. -/
theorem keeps_writeThrough (shared : Shared α) (handle : shared.Handle) (value : α) :
    shared.Keeps (shared.writeThrough handle value) := by
  -- One of the cells is written, and the handles are no cells.
  unfold writeThrough write
  split <;> exact keeps_of_handles rfl rfl

/-- One more handle on a cell that was referred to before leaves the earlier ones as they were. -/
theorem keeps_refer (shared : Shared α) {address : Nat}
    (known : address = shared.own ∨ address ∈ shared.handles) :
    shared.Keeps (shared.refer address).1 where
  own := rfl
  handles := List.prefix_append _ _
  cells other listed := by
    -- The new one is the last.
    rcases List.mem_append.mp listed with earlier | new
    · exact Or.inr earlier
    · rw [List.mem_singleton.mp new]
      exact known

/-- A new handle is on the cell that it was made for. -/
theorem cell_refer (shared : Shared α) (address : Nat) :
    (shared.refer address).1.cell (shared.refer address).2 = address := by
  simp [refer, cell]

/-- A handle that the owner gives out leaves the others as they were. -/
theorem keeps_connect (shared : Shared α) : shared.Keeps shared.connect.1 :=
  keeps_refer shared (Or.inl rfl)

/-- A handle on the cell of another one leaves all as they were. -/
theorem keeps_duplicate (shared : Shared α) (source : shared.Handle) :
    shared.Keeps (shared.duplicate source).1 :=
  keeps_refer shared (Or.inr (List.get_mem shared.handles source))

/-- Without handles there is none that refers elsewhere. -/
theorem joined_of_nil (none : shared.handles = []) : shared.Joined := by
  rw [Joined, none]
  exact nofun

/-- Handles that were all on the owner's cell are so for good. -/
theorem Joined.keeps (joined : shared.Joined) (keeps : shared.Keeps later) : later.Joined := by
  intro address listed
  -- A handle on the cell of another one is on the owner's as well.
  rcases keeps.cells address listed with own | earlier
  · exact own.trans keeps.own.symm
  · exact (joined address earlier).trans keeps.own.symm

/-- A handle of joined ones refers to the owner's cell. -/
theorem Joined.cell (joined : shared.Joined) (handle : shared.Handle) :
    shared.cell handle = shared.own :=
  joined _ (List.get_mem shared.handles handle)

/-- What joined handles show is the owner's value. -/
theorem Joined.readThrough (joined : shared.Joined) (handle : shared.Handle) :
    shared.readThrough handle = shared.value := by
  rw [Shared.readThrough, joined.cell, read_own]

/-- What is written through one of joined handles is put into the owner's cell. -/
theorem Joined.writeThrough (joined : shared.Joined) (handle : shared.Handle) (value : α) :
    shared.writeThrough handle value = shared.put value := by
  rw [Shared.writeThrough, joined.cell, write_own]

end ChipEight.Shared
