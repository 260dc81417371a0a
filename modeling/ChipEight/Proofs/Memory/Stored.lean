import ChipEight.State

/-!
# Stored runs of bytes

A run of bytes that is no longer than memory takes a cell for each of its bytes, also
where its addresses wrap, so that each of them is read back from its own place.
Every other cell keeps its byte.
-/

namespace ChipEight

namespace Memory

theorem ext_cells
    {first second : Memory}
    (same : ∀ place, first.cells.get place = second.cells.get place) :
    first = second := by
  obtain ⟨cells⟩ := first
  obtain ⟨others⟩ := second
  exact congrArg Memory.mk
    (Vector.ext fun place inMemory => same ⟨place, inMemory⟩)

theorem val_cell_add (address : UInt16) (offset : Nat) :
    (cell (address + UInt16.ofNat offset)).val =
      (address.toNat + offset) % memorySize := by
  have size : memorySize = 4096 := rfl
  simp only [cell, Fin.val_ofNat, UInt16.toNat_add, UInt16.toNat_ofNat', size]
  omega

/-- The cell that lies a number of bytes behind an address. -/
def cellBehind (address : UInt16) (offset : Nat) : Fin memorySize :=
  ⟨(address.toNat + offset) % memorySize, Nat.mod_lt _ (by decide)⟩

theorem cell_add (address : UInt16) (offset : Nat) :
    cell (address + UInt16.ofNat offset) = cellBehind address offset :=
  Fin.ext (val_cell_add address offset)

theorem add_ofNat_succ (address : UInt16) (offset : Nat) :
    address + UInt16.ofNat (offset + 1) =
      address + 1 + UInt16.ofNat offset := by
  rw [UInt16.ofNat_add, UInt16.ofNat_one, UInt16.add_assoc,
    UInt16.add_comm 1]

theorem read_store_of_apart
    (memory : Memory) (address other : UInt16) {bytes : List UInt8}
    (apart : ∀ offset < bytes.length,
      cell (address + UInt16.ofNat offset) ≠ cell other) :
    (memory.store address bytes).read other = memory.read other := by
  induction bytes generalizing memory address with
  | nil => rfl
  | cons byte rest inductionHypothesis =>
      have apartFirst : cell address ≠ cell other := by
        have first := apart 0 (by simp)
        simpa using first
      have apartRest : ∀ offset < rest.length,
          cell (address + 1 + UInt16.ofNat offset) ≠ cell other := by
        intro offset inRange
        have later := apart (offset + 1) (by simpa using inRange)
        rw [← add_ofNat_succ]
        exact later
      rw [store, inductionHypothesis _ _ apartRest, read_write,
        if_neg apartFirst]

theorem read_store
    (memory : Memory) (address : UInt16) {bytes : List UInt8}
    (fits : bytes.length ≤ memorySize)
    {offset : Nat} (inRange : offset < bytes.length) :
    (memory.store address bytes).read (address + UInt16.ofNat offset) =
      bytes[offset] := by
  induction bytes generalizing memory address offset with
  | nil => cases inRange
  | cons byte rest inductionHypothesis =>
      rw [List.length_cons] at fits inRange
      cases offset with
      | zero =>
          have apart : ∀ offset < rest.length,
              cell (address + 1 + UInt16.ofNat offset) ≠ cell address := by
            intro offset inRest same
            have sameValue := congrArg Fin.val same
            have atFirst :
                (cell address).val = (address.toNat + 0) % memorySize := rfl
            have size : memorySize = 4096 := rfl
            rw [← add_ofNat_succ, val_cell_add, atFirst] at sameValue
            simp only [size] at sameValue fits
            omega
          have unmoved : address + UInt16.ofNat 0 = address := by simp
          rw [unmoved, store, read_store_of_apart _ _ _ apart, read_write,
            if_pos rfl]
          rfl
      | succ offset =>
          rw [add_ofNat_succ, store]
          exact inductionHypothesis _ _ (by omega) (by omega)

/-- Whether a memory is another one with a run of bytes on the cells from an address on,
and no other cell changed. -/
structure Overwritten
    (before after : Memory) (address : UInt16) (bytes : List UInt8) :
    Prop where
  inside : ∀ offset (inRange : offset < bytes.length),
    after.cells.get (cellBehind address offset) = bytes[offset]
  outside : ∀ place,
    (∀ offset < bytes.length, cellBehind address offset ≠ place) →
      after.cells.get place = before.cells.get place

theorem overwritten_store
    (memory : Memory) (address : UInt16) {bytes : List UInt8}
    (fits : bytes.length ≤ memorySize) :
    memory.Overwritten (memory.store address bytes) address bytes where
  inside offset inRange := by
    rw [← cell_add]
    exact memory.read_store address fits inRange
  outside place apart := by
    have named : cell (UInt16.ofNat place.val) = place := by
      have inMemory : place.val < 4096 := place.isLt
      apply Fin.ext
      simp only [cell, Fin.val_ofNat, UInt16.toNat_ofNat', memorySize]
      omega
    have apartCells : ∀ offset < bytes.length,
        cell (address + UInt16.ofNat offset) ≠
          cell (UInt16.ofNat place.val) := by
      intro offset inRange
      rw [cell_add, named]
      exact apart offset inRange
    rw [← named]
    exact memory.read_store_of_apart address _ apartCells

theorem getElem?_run
    (memory : Memory) (address : UInt16)
    {count offset : Nat} (inRange : offset < count) :
    (memory.run address count)[offset]? =
      some (memory.read (address + UInt16.ofNat offset)) := by
  induction count generalizing address offset with
  | zero => cases inRange
  | succ count inductionHypothesis =>
      cases offset with
      | zero => simp [run]
      | succ offset =>
          rw [run, List.getElem?_cons_succ, add_ofNat_succ]
          exact inductionHypothesis (address + 1) (by omega)

end Memory

namespace State

/-- The bytes of a program lie behind one another from the program start on. -/
theorem read_ofProgram
    {program : List UInt8} {offset : Nat}
    (inRange : offset < program.length)
    (fits : offset < programCapacity) :
    (ofProgram program).memory.read
        (programStart + UInt16.ofNat offset) =
      program[offset] := by
  have capacity : programCapacity ≤ memorySize := Nat.sub_le _ _
  have short : (program.take programCapacity).length ≤ memorySize := by
    rw [List.length_take]
    omega
  have inTaken : offset < (program.take programCapacity).length := by
    rw [List.length_take]
    omega
  have stored :=
    fresh.memory.read_store programStart short inTaken
  rw [List.getElem_take] at stored
  exact stored

end State

end ChipEight
