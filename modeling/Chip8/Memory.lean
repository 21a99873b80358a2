import Chip8.Word

/-!
# Memory

The 4096 cells of the machine. Addresses are twelve bits wide, so every block
of cells wraps from the last cell to the first. `read_writeBlock` says what a
block write leaves in each cell.
-/

namespace Chip8

structure Memory where
  bytes : Vector Byte 4096
  deriving DecidableEq

namespace Memory

def size : Nat := 4096

/-- Where a program is loaded and started. -/
def programStart : Address := 0x200

/-- The longest program that fits above `programStart`. -/
def programCapacity : Nat := size - programStart.toNat

def zero : Memory := ⟨Vector.replicate 4096 0⟩

def read (memory : Memory) (address : Address) : Byte :=
  memory.bytes[address.toNat]

def write (memory : Memory) (address : Address) (byte : Byte) : Memory :=
  ⟨memory.bytes.set address.toNat byte⟩

/-- Write bytes one after the other, starting at an address. -/
def writeBlock (memory : Memory) (address : Address) : List Byte → Memory
  | [] => memory
  | byte :: rest => (memory.write address byte).writeBlock (address + 1) rest

/-- The bytes of the cells from an address on. -/
def readBlock (memory : Memory) (address : Address) (count : Nat) : List Byte :=
  (List.range count).map fun offset => memory.read (address + BitVec.ofNat 12 offset)

/-- The word at an address, high byte first. -/
def readWord (memory : Memory) (address : Address) : Word :=
  memory.read address ++ memory.read (address + 1)

@[simp] theorem read_zero (address : Address) : zero.read address = 0 := by
  simp [zero, read]

theorem read_write (memory : Memory) (address other : Address) (byte : Byte) :
    (memory.write address byte).read other =
      if other = address then byte else memory.read other := by
  by_cases same : other = address
  · simp [read, write, same]
  · have apart : address.toNat ≠ other.toNat :=
      fun equal => same (BitVec.eq_of_toNat_eq equal.symm)
    simp [read, write, same, apart]

@[ext] theorem ext {memory other : Memory}
    (cells : ∀ address, memory.read address = other.read address) : memory = other := by
  rcases memory with ⟨bytes⟩
  rcases other with ⟨otherBytes⟩
  congr 1
  apply Vector.ext
  intro i bound
  have cell := cells (BitVec.ofNat 12 i)
  simpa [read, Nat.mod_eq_of_lt bound] using cell

/-- A block that does not overtake itself leaves its bytes in its own cells and
all other cells alone. -/
theorem read_writeBlock (memory : Memory) (address other : Address)
    (bytes : List Byte) (fits : bytes.length ≤ 4096) :
    (memory.writeBlock address bytes).read other =
      (bytes[(other - address).toNat]?).getD (memory.read other) := by
  induction bytes generalizing memory address with
  | nil => simp [writeBlock]
  | cons byte rest inductionHypothesis =>
      rw [writeBlock, inductionHypothesis _ _ (by simp at fits; omega), read_write]
      have step : other - (address + 1) = other - address - 1 := by grind
      rw [step]
      simp only [List.length_cons] at fits
      generalize gap : other - address = distance
      by_cases same : other = address
      · subst same
        have start : distance = 0 := by simpa using gap.symm
        have past : rest.length ≤ (distance - 1).toNat := by
          rw [start]
          exact Nat.le_of_lt_succ fits
        simp [start] at past ⊢
        simp [List.getElem?_eq_none past]
      · have nonzero : distance.toNat ≠ 0 := by
          intro zero
          apply same
          have : distance = 0 := BitVec.eq_of_toNat_eq (by simpa using zero)
          grind
        have later : distance.toNat = (distance - 1).toNat + 1 := by
          have := distance.isLt
          rw [BitVec.toNat_sub, show (1 : Address).toNat = 1 from rfl]
          omega
        rw [later, List.getElem?_cons_succ, if_neg same]

end Memory

end Chip8
