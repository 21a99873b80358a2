/-!
# Words of the machine and the fields of an instruction word

A byte is a register or a cell of memory, a word is an instruction or a
counter, an address names a cell of memory. All arithmetic on them wraps at
their width, so the twelve bits of an address are the only masking there is.
-/

namespace Chip8

abbrev Byte := BitVec 8

abbrev Word := BitVec 16

/-- A place in memory: the low twelve bits of a word. -/
abbrev Address := BitVec 12

/-- Four bits: the name of a register, of a key, or a sprite's height. -/
abbrev Nibble := BitVec 4

theorem Nibble.toNat_lt (nibble : Nibble) : nibble.toNat < 16 := nibble.isLt

/-- The address that a word points at. -/
def Word.address (word : Word) : Address := word.setWidth 12

/-- Taking the address and reading it as a word is masking. -/
theorem Word.setWidth_address (word : Word) : word.address.setWidth 16 = word &&& 0xFFF := by
  apply BitVec.eq_of_toNat_eq
  rw [BitVec.toNat_and, show (0xFFF : Word).toNat = 2 ^ 12 - 1 from rfl,
    Nat.and_two_pow_sub_one_eq_mod]
  simp only [address, BitVec.toNat_setWidth]
  omega

namespace Word

/-- First nibble, which selects the family of the instruction. -/
def family (word : Word) : Nibble := word.extractLsb' 12 4

/-- Second nibble, the register `X`. -/
def x (word : Word) : Nibble := word.extractLsb' 8 4

/-- Third nibble, the register `Y`. -/
def y (word : Word) : Nibble := word.extractLsb' 4 4

/-- Fourth nibble, `N`. -/
def n (word : Word) : Nibble := word.extractLsb' 0 4

/-- Low byte, `NN`. -/
def nn (word : Word) : Byte := word.extractLsb' 0 8

/-- Low twelve bits, `NNN`. -/
def nnn (word : Word) : Address := word.extractLsb' 0 12

/-! ## The three layouts of a word -/

/-- `FNNN`: a family and an address. -/
def withAddress (family : Nibble) (nnn : Address) : Word := family ++ nnn

/-- `FXNN`: a family, a register and a byte. -/
def withByte (family x : Nibble) (nn : Byte) : Word := family ++ x ++ nn

/-- `FXYN`: a family, two registers and a nibble. -/
def withNibbles (family x y n : Nibble) : Word := family ++ x ++ y ++ n

variable (f a b c : Nibble) (byte : Byte) (target : Address)

@[simp] theorem family_withAddress : (withAddress f target).family = f := by
  change BitVec.extractLsb' 12 4 (f ++ target : BitVec (4 + 12)) = f
  rw [BitVec.extractLsb'_append_eq_ite]; simp

@[simp] theorem nnn_withAddress : (withAddress f target).nnn = target := by
  change BitVec.extractLsb' 0 12 (f ++ target : BitVec (4 + 12)) = target
  rw [BitVec.extractLsb'_append_eq_ite]; simp

@[simp] theorem family_withByte : (withByte f a byte).family = f := by
  change BitVec.extractLsb' 12 4 (f ++ a ++ byte : BitVec (4 + 4 + 8)) = f
  rw [BitVec.extractLsb'_append_eq_ite]; simp
  rw [BitVec.extractLsb'_append_eq_ite]; simp

@[simp] theorem x_withByte : (withByte f a byte).x = a := by
  change BitVec.extractLsb' 8 4 (f ++ a ++ byte : BitVec (4 + 4 + 8)) = a
  rw [BitVec.extractLsb'_append_eq_ite]; simp
  rw [BitVec.extractLsb'_append_eq_ite]; simp

@[simp] theorem nn_withByte : (withByte f a byte).nn = byte := by
  change BitVec.extractLsb' 0 8 (f ++ a ++ byte : BitVec (4 + 4 + 8)) = byte
  rw [BitVec.extractLsb'_append_eq_ite]; simp

@[simp] theorem family_withNibbles : (withNibbles f a b c).family = f := by
  change BitVec.extractLsb' 12 4 (f ++ a ++ b ++ c : BitVec (4 + 4 + 4 + 4)) = f
  rw [BitVec.extractLsb'_append_eq_ite]; simp
  rw [BitVec.extractLsb'_append_eq_ite]; simp
  rw [BitVec.extractLsb'_append_eq_ite]; simp

@[simp] theorem x_withNibbles : (withNibbles f a b c).x = a := by
  change BitVec.extractLsb' 8 4 (f ++ a ++ b ++ c : BitVec (4 + 4 + 4 + 4)) = a
  rw [BitVec.extractLsb'_append_eq_ite]; simp
  rw [BitVec.extractLsb'_append_eq_ite]; simp
  rw [BitVec.extractLsb'_append_eq_ite]; simp

@[simp] theorem y_withNibbles : (withNibbles f a b c).y = b := by
  change BitVec.extractLsb' 4 4 (f ++ a ++ b ++ c : BitVec (4 + 4 + 4 + 4)) = b
  rw [BitVec.extractLsb'_append_eq_ite]; simp
  rw [BitVec.extractLsb'_append_eq_ite]; simp

@[simp] theorem n_withNibbles : (withNibbles f a b c).n = c := by
  change BitVec.extractLsb' 0 4 (f ++ a ++ b ++ c : BitVec (4 + 4 + 4 + 4)) = c
  rw [BitVec.extractLsb'_append_eq_ite]; simp

/-- A word is its family and its address. -/
theorem withAddress_fields (word : Word) :
    withAddress word.family word.nnn = word := by
  change (BitVec.extractLsb' 12 4 word ++ BitVec.extractLsb' 0 12 word :
    BitVec (4 + 12)) = word
  rw [BitVec.extractLsb'_append_extractLsb'_eq_extractLsb' (by rfl)]
  simp

/-- A word is its family, its first register and its low byte. -/
theorem withByte_fields (word : Word) :
    withByte word.family word.x word.nn = word := by
  change (BitVec.extractLsb' 12 4 word ++ BitVec.extractLsb' 8 4 word ++
    BitVec.extractLsb' 0 8 word : BitVec (4 + 4 + 8)) = word
  rw [BitVec.extractLsb'_append_extractLsb'_eq_extractLsb' (by rfl),
    BitVec.extractLsb'_append_extractLsb'_eq_extractLsb' (by rfl)]
  simp

/-- A word is its four nibbles. -/
theorem withNibbles_fields (word : Word) :
    withNibbles word.family word.x word.y word.n = word := by
  change (BitVec.extractLsb' 12 4 word ++ BitVec.extractLsb' 8 4 word ++
    BitVec.extractLsb' 4 4 word ++ BitVec.extractLsb' 0 4 word :
    BitVec (4 + 4 + 4 + 4)) = word
  rw [BitVec.extractLsb'_append_extractLsb'_eq_extractLsb' (by rfl),
    BitVec.extractLsb'_append_extractLsb'_eq_extractLsb' (by rfl),
    BitVec.extractLsb'_append_extractLsb'_eq_extractLsb' (by rfl)]
  simp

section Families

variable {word : Word} {family : Nibble} (known : word.family = family)

include known

theorem withAddress_of_family : withAddress family word.nnn = word :=
  known ▸ word.withAddress_fields

theorem withByte_of_family : withByte family word.x word.nn = word :=
  known ▸ word.withByte_fields

theorem withNibbles_of_family : withNibbles family word.x word.y word.n = word :=
  known ▸ word.withNibbles_fields

end Families

end Word

end Chip8
