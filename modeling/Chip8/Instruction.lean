import Chip8.Arithmetic
import Chip8.Error

/-!
# The instruction set

An instruction is one of the thirty-four forms of the machine with its operands,
and `encode` lays it out as a word. Two tables read words: `Word.isLegal` says
which are instructions, `dispatch` gives an instruction for every word, those
that are none included. `decode` asks the first before it takes the answer of
the second, and `decode_eq_some_iff` says that it reads what `encode` lays out
and nothing else.
-/

namespace Chip8

inductive Instruction where
  /-- `00E0`: darken the whole screen. -/
  | clearScreen
  /-- `00EE`: go back to the caller. -/
  | leave
  /-- `1NNN`: go to an address. -/
  | jump (target : Address)
  /-- `2NNN`: call the subroutine at an address. -/
  | call (target : Address)
  /-- `3XNN`: skip if the register holds the byte. -/
  | skipIfByte (x : Nibble) (byte : Byte)
  /-- `4XNN`: skip unless the register holds the byte. -/
  | skipUnlessByte (x : Nibble) (byte : Byte)
  /-- `5XY0`: skip if two registers agree. -/
  | skipIfSame (x y : Nibble)
  /-- `6XNN`: set a register. -/
  | setByte (x : Nibble) (byte : Byte)
  /-- `7XNN`: add to a register, without a flag. -/
  | addByte (x : Nibble) (byte : Byte)
  /-- `8XYN`: combine two registers. -/
  | arithmetic (op : ArithmeticOp) (x y : Nibble)
  /-- `9XY0`: skip unless two registers agree. -/
  | skipUnlessSame (x y : Nibble)
  /-- `ANNN`: set the index. -/
  | setIndex (target : Address)
  /-- `BNNN`: go to an address plus register 0. -/
  | jumpOffset (base : Address)
  /-- `CXNN`: a random byte under a mask. -/
  | random (x : Nibble) (mask : Byte)
  /-- `DXYN`: draw the sprite at the index. -/
  | draw (x y height : Nibble)
  /-- `EX9E`: skip if a key is down. -/
  | skipIfKey (x : Nibble)
  /-- `EXA1`: skip unless a key is down. -/
  | skipUnlessKey (x : Nibble)
  /-- `FX07`: read the delay timer. -/
  | readDelay (x : Nibble)
  /-- `FX0A`: stay until some key is down. -/
  | awaitKey (x : Nibble)
  /-- `FX15`: set the delay timer. -/
  | setDelay (x : Nibble)
  /-- `FX18`: set the sound timer. -/
  | setSound (x : Nibble)
  /-- `FX1E`: add to the index. -/
  | addIndex (x : Nibble)
  /-- `FX29`: point the index at a digit of the font. -/
  | pointGlyph (x : Nibble)
  /-- `FX33`: store the decimal digits of a register. -/
  | storeDigits (x : Nibble)
  /-- `FX55`: store registers 0 to `X`. -/
  | storeRegisters (x : Nibble)
  /-- `FX65`: load registers 0 to `X`. -/
  | loadRegisters (x : Nibble)
  deriving DecidableEq

namespace Instruction

/-- The word of an instruction, most significant nibble first. -/
def encode : Instruction → Word
  | .clearScreen => 0x00E0
  | .leave => 0x00EE
  | .jump target => .withAddress 0x1 target
  | .call target => .withAddress 0x2 target
  | .skipIfByte x byte => .withByte 0x3 x byte
  | .skipUnlessByte x byte => .withByte 0x4 x byte
  | .skipIfSame x y => .withNibbles 0x5 x y 0x0
  | .setByte x byte => .withByte 0x6 x byte
  | .addByte x byte => .withByte 0x7 x byte
  | .arithmetic op x y => .withNibbles 0x8 x y op.code
  | .skipUnlessSame x y => .withNibbles 0x9 x y 0x0
  | .setIndex target => .withAddress 0xA target
  | .jumpOffset base => .withAddress 0xB base
  | .random x mask => .withByte 0xC x mask
  | .draw x y height => .withNibbles 0xD x y height
  | .skipIfKey x => .withByte 0xE x 0x9E
  | .skipUnlessKey x => .withByte 0xE x 0xA1
  | .readDelay x => .withByte 0xF x 0x07
  | .awaitKey x => .withByte 0xF x 0x0A
  | .setDelay x => .withByte 0xF x 0x15
  | .setSound x => .withByte 0xF x 0x18
  | .addIndex x => .withByte 0xF x 0x1E
  | .pointGlyph x => .withByte 0xF x 0x29
  | .storeDigits x => .withByte 0xF x 0x33
  | .storeRegisters x => .withByte 0xF x 0x55
  | .loadRegisters x => .withByte 0xF x 0x65

end Instruction

namespace Word

/-- The low bytes of the words of family `F` that there are, in the order in which
they are dispatched. -/
def miscCodes : List Byte := [0x07, 0x0A, 0x15, 0x18, 0x1E, 0x29, 0x33, 0x55, 0x65]

/-- Whether a word is an instruction, family by family. -/
def isLegal (word : Word) : Bool :=
  match word.family with
  | 0x0#4 => word == 0x00E0 || word == 0x00EE
  | 0x5#4 | 0x9#4 => word.n == 0
  | 0x8#4 => ArithmeticOp.codes.contains word.n
  | 0xE#4 => word.nn == 0x9E || word.nn == 0xA1
  | 0xF#4 => miscCodes.contains word.nn
  | _ => true

/-- A whole number as a word, if it fits. -/
def ofInt? (value : Int) : Except Error Word :=
  if 0 ≤ value ∧ value < 65536 then .ok (BitVec.ofInt 16 value) else .error .wordOutOfRange

end Word

namespace Instruction

/-- The instructions of family `F`, in the order of their low bytes. -/
def miscRow (x : Nibble) : Vector Instruction 9 :=
  #v[.readDelay x, .awaitKey x, .setDelay x, .setSound x, .addIndex x, .pointGlyph x,
    .storeDigits x, .storeRegisters x, .loadRegisters x]

/-- The place in the row for a low byte. A byte that there is not has the first. -/
def miscPlace (code : Byte) : Fin 9 :=
  match Word.miscCodes.finIdxOf? code with
  | some place => place
  | none => ⟨0, Nat.succ_pos 8⟩

/-- The instruction that a word is carried out as. Of the words that are no
instructions each comes out as one all the same, so a word has to be looked at before. -/
def dispatch (word : Word) : Instruction :=
  match word.family with
  | 0x0#4 => if word = 0x00E0 then .clearScreen else .leave
  | 0x1#4 => .jump word.nnn
  | 0x2#4 => .call word.nnn
  | 0x3#4 => .skipIfByte word.x word.nn
  | 0x4#4 => .skipUnlessByte word.x word.nn
  | 0x5#4 => .skipIfSame word.x word.y
  | 0x6#4 => .setByte word.x word.nn
  | 0x7#4 => .addByte word.x word.nn
  | 0x8#4 => .arithmetic (.ofCode word.n) word.x word.y
  | 0x9#4 => .skipUnlessSame word.x word.y
  | 0xA#4 => .setIndex word.nnn
  | 0xB#4 => .jumpOffset word.nnn
  | 0xC#4 => .random word.x word.nn
  | 0xD#4 => .draw word.x word.y word.n
  | 0xE#4 => if word.nn = 0xA1 then .skipUnlessKey word.x else .skipIfKey word.x
  | _ => (miscRow word.x).get (miscPlace word.nn)

def decode (word : Word) : Option Instruction :=
  if word.isLegal then some (dispatch word) else none

theorem isLegal_encode (instruction : Instruction) : instruction.encode.isLegal = true := by
  cases instruction with
  | clearScreen => rfl
  | leave => rfl
  | arithmetic op => simpa [encode, Word.isLegal] using op.contains_code
  | _ => simp [encode, Word.isLegal, Word.miscCodes]

theorem dispatch_encode (instruction : Instruction) :
    dispatch instruction.encode = instruction := by
  cases instruction with
  | clearScreen => rfl
  | leave => rfl
  | readDelay x | awaitKey x | setDelay x | setSound x | addIndex x | pointGlyph x
  | storeDigits x | storeRegisters x | loadRegisters x =>
      simp only [encode, dispatch, Word.family_withByte, Word.x_withByte, Word.nn_withByte]
      rfl
  | _ => simp [encode, dispatch]

theorem encode_miscRow {x : Nibble} {code : Byte}
    (known : Word.miscCodes.contains code = true) :
    ((miscRow x).get (miscPlace code)).encode = .withByte 0xF x code := by
  rw [List.contains_iff_mem] at known
  revert code
  simp only [Word.miscCodes, List.forall_mem_cons]
  refine ⟨rfl, rfl, rfl, rfl, rfl, rfl, rfl, rfl, rfl, ?_⟩
  simp

/-- A word that is an instruction is carried out as that instruction, so the words
that come out as an instruction without being it are not carried out. -/
theorem encode_dispatch {word : Word} (legal : word.isLegal = true) :
    (dispatch word).encode = word := by
  unfold dispatch
  split
  case h_1 family =>
    simp only [Word.isLegal, family, Bool.or_eq_true, beq_iff_eq] at legal
    split
    case isTrue clears => exact clears.symm
    case isFalse other => exact (legal.resolve_left other).symm
  case h_2 family | h_3 family | h_11 family | h_12 family =>
    exact Word.withAddress_of_family family
  case h_4 family | h_5 family | h_7 family | h_8 family | h_13 family =>
    exact Word.withByte_of_family family
  case h_6 family | h_10 family =>
    simp only [Word.isLegal, family, beq_iff_eq] at legal
    have nibbles := Word.withNibbles_of_family family
    rwa [legal] at nibbles
  case h_9 family =>
    simp only [Word.isLegal, family] at legal
    rw [encode, ArithmeticOp.code_ofCode legal]
    exact Word.withNibbles_of_family family
  case h_14 family => exact Word.withNibbles_of_family family
  case h_15 family =>
    simp only [Word.isLegal, family, Bool.or_eq_true, beq_iff_eq] at legal
    have byte := Word.withByte_of_family family
    split
    case isTrue negated => rwa [negated] at byte
    case isFalse plain => rwa [legal.resolve_right plain] at byte
  case h_16 =>
    have last : word.family = 0xF := by
      clear legal
      generalize word.family = family at *
      revert family
      decide
    simp only [Word.isLegal, last] at legal
    rw [encode_miscRow legal, Word.withByte_of_family last]

example : Word.isLegal 0x8AB9 = false ∧ dispatch 0x8AB9 = .arithmetic .copy 0xA 0xB := by
  decide

theorem decode_encode (instruction : Instruction) :
    decode instruction.encode = some instruction := by
  rw [decode, if_pos (isLegal_encode instruction), dispatch_encode]

/-- A word is an instruction exactly when it is the layout of one. -/
theorem decode_eq_some_iff {word : Word} {instruction : Instruction} :
    decode word = some instruction ↔ instruction.encode = word := by
  constructor
  · intro found
    obtain ⟨legal, dispatched⟩ := Option.ite_none_right_eq_some.mp found
    rw [← Option.some.inj dispatched, encode_dispatch legal]
  · rintro rfl
    exact decode_encode instruction

theorem isSome_decode (word : Word) : (decode word).isSome = word.isLegal := by
  cases legal : word.isLegal <;> simp [decode, legal]

end Instruction

end Chip8
