import ChipEight.Dimensions

/-!
# Memory

A ring of bytes.  Every sixteen-bit address names a cell, since addresses wrap
at the end of the ring, so reading and writing never fail.  A run of bytes is
stored, or read, one cell after the other from its first address on.
-/

namespace ChipEight

/-- The contents of the addressable memory. -/
structure Memory where
  cells : Vector UInt8 memorySize
  deriving DecidableEq, Repr

namespace Memory

def blank : Memory where
  cells := Vector.replicate memorySize 0

/-- The cell an address names. -/
def cell (address : UInt16) : Fin memorySize :=
  Fin.ofNat memorySize address.toNat

def read (memory : Memory) (address : UInt16) : UInt8 :=
  memory.cells[cell address]

def write
    (memory : Memory) (address : UInt16) (byte : UInt8) : Memory where
  cells := memory.cells.set (cell address) byte

theorem read_write
    (memory : Memory) (address other : UInt16) (byte : UInt8) :
    (memory.write address byte).read other =
      if cell address = cell other then byte else memory.read other := by
  simp only [read, write, Fin.getElem_fin, Vector.getElem_set,
    Fin.ext_iff]

/-- Memory with a run of bytes written from an address on. -/
def store (memory : Memory) (address : UInt16) :
    List UInt8 → Memory
  | [] => memory
  | byte :: rest =>
      (memory.write address byte).store (address + 1) rest

theorem store_append
    (memory : Memory) (address : UInt16) (first second : List UInt8) :
    memory.store address (first ++ second) =
      (memory.store address first).store
        (address + UInt16.ofNat first.length) second := by
  induction first generalizing memory address with
  | nil => simp [store]
  | cons byte rest inductionHypothesis =>
      simp only [List.cons_append, store, inductionHypothesis,
        List.length_cons]
      congr 1
      simp only [UInt16.ofNat_add, UInt16.ofNat_one, UInt16.add_assoc,
        UInt16.add_comm 1]

/-- The run of a given number of bytes from an address on. -/
def run (memory : Memory) (address : UInt16) : Nat → List UInt8
  | 0 => []
  | count + 1 =>
      memory.read address :: memory.run (address + 1) count

theorem length_run
    (memory : Memory) (address : UInt16) (count : Nat) :
    (memory.run address count).length = count := by
  induction count generalizing address with
  | zero => rfl
  | succ count ih => simp [run, ih]

end Memory

end ChipEight
