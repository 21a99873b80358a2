import Chip8.Word

/-!
# The register file

Sixteen bytes named by nibbles. Register `F` doubles as the flag.
-/

namespace Chip8

structure Registers where
  bytes : Vector Byte 16
  deriving DecidableEq

namespace Registers

def count : Nat := 16

/-- The register that arithmetic, drawing and the index report to. -/
def flag : Nibble := 0xF

def zero : Registers := ⟨Vector.replicate 16 0⟩

def get (registers : Registers) (name : Nibble) : Byte :=
  have bound := name.toNat_lt
  registers.bytes[name.toNat]

def set (registers : Registers) (name : Nibble) (byte : Byte) : Registers :=
  ⟨registers.bytes.set name.toNat byte name.toNat_lt⟩

/-- Registers 0 up to a last one, in order. -/
def upTo (registers : Registers) (last : Nibble) : List Byte :=
  registers.bytes.toList.take (last.toNat + 1)

/-- Replace registers 0 up to a last one. -/
def loadUpTo (registers : Registers) (last : Nibble) (source : Nibble → Byte) :
    Registers :=
  ⟨Vector.ofFn fun name =>
    if name.val ≤ last.toNat then source (BitVec.ofFin name) else registers.bytes[name]⟩

theorem get_set (registers : Registers) (name other : Nibble) (byte : Byte) :
    (registers.set name byte).get other =
      if other = name then byte else registers.get other := by
  by_cases same : other = name
  · simp [get, set, same]
  · have apart : name.toNat ≠ other.toNat :=
      fun equal => same (BitVec.eq_of_toNat_eq equal.symm)
    simp [get, set, same, apart]

theorem get_loadUpTo (registers : Registers) (last name : Nibble)
    (source : Nibble → Byte) :
    (registers.loadUpTo last source).get name =
      if name ≤ last then source name else registers.get name := by
  simp [get, loadUpTo, BitVec.le_def]

theorem getElem?_upTo (registers : Registers) (last name : Nibble) :
    (registers.upTo last)[name.toNat]? =
      if name ≤ last then some (registers.get name) else none := by
  have bound : name.toNat < 16 := name.isLt
  simp only [upTo, get, BitVec.le_def, List.getElem?_take, Nat.lt_succ_iff]
  simp [bound]

theorem length_upTo (registers : Registers) (last : Nibble) :
    (registers.upTo last).length = last.toNat + 1 := by
  have := last.isLt
  simp [upTo]
  omega

@[ext] theorem ext {registers other : Registers}
    (bytes : ∀ name, registers.get name = other.get name) : registers = other := by
  rcases registers with ⟨left⟩
  rcases other with ⟨right⟩
  congr 1
  apply Vector.ext
  intro i bound
  have byte := bytes (BitVec.ofNat 4 i)
  simpa [get, Nat.mod_eq_of_lt bound] using byte

theorem set_set (registers : Registers) (name : Nibble) (first second : Byte) :
    (registers.set name first).set name second = registers.set name second := by
  ext other
  simp only [get_set]
  split <;> rfl

end Registers

end Chip8
