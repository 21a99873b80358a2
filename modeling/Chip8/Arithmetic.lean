import Chip8.Word

/-!
# Register arithmetic

The nine operations `8XY0` … `8XY7` and `8XYE` as functions of two bytes. Each
gives a result and a flag. An operation also says whether it keeps the flag
and, when the result and the flag go to the same register, which one stays.
-/

namespace Chip8

inductive ArithmeticOp where
  | copy
  | or
  | and
  | xor
  | add
  | subtract
  | shiftRight
  | subtractFrom
  | shiftLeft
  deriving DecidableEq

inductive FlagUse where
  /-- The flag register is left alone. -/
  | unused
  /-- The flag is written after the result. -/
  | afterResult
  /-- The flag is written before the result. -/
  | beforeResult
  deriving DecidableEq

namespace ArithmeticOp

def code : ArithmeticOp → Nibble
  | .copy => 0x0
  | .or => 0x1
  | .and => 0x2
  | .xor => 0x3
  | .add => 0x4
  | .subtract => 0x5
  | .shiftRight => 0x6
  | .subtractFrom => 0x7
  | .shiftLeft => 0xE

/-- The codes that there are. -/
def codes : List Nibble := [0x0, 0x1, 0x2, 0x3, 0x4, 0x5, 0x6, 0x7, 0xE]

/-- The operations in the order in which they are dispatched. -/
def row : Vector ArithmeticOp 9 :=
  #v[.copy, .or, .and, .xor, .add, .subtract, .shiftRight, .subtractFrom, .shiftLeft]

/-- The place in the row for each code. A code that there is not has the first. -/
def places : Vector (Fin 9) 16 := #v[0, 1, 2, 3, 4, 5, 6, 7, 0, 0, 0, 0, 0, 0, 8, 0]

def ofCode (code : Nibble) : ArithmeticOp :=
  row.get (places.get ⟨code.toNat, code.toNat_lt⟩)

theorem contains_code (op : ArithmeticOp) : codes.contains op.code = true := by
  cases op <;> rfl

@[simp] theorem ofCode_code (op : ArithmeticOp) : ofCode op.code = op := by
  cases op <;> rfl

/-- Only codes that there are not are dispatched to an operation with another code. -/
theorem code_ofCode {code : Nibble} (known : codes.contains code = true) :
    (ofCode code).code = code := by
  revert code
  decide

def flag (condition : Bool) : Byte := if condition then 1 else 0

/-- Result and flag of an operation. A sum is flagged when it carries, a
difference when it does not borrow, a shift by the bit that falls off. -/
def apply (op : ArithmeticOp) (a b : Byte) : Byte × Byte :=
  match op with
  | .copy => (b, 0)
  | .or => (a ||| b, 0)
  | .and => (a &&& b, 0)
  | .xor => (a ^^^ b, 0)
  | .add => (a + b, flag (a.toNat + b.toNat > 0xFF))
  | .subtract => (a - b, flag (a ≥ b))
  | .shiftRight => (a >>> 1, a &&& 1)
  | .subtractFrom => (b - a, flag (b ≥ a))
  | .shiftLeft => (a <<< 1, a >>> 7)

def isShift : ArithmeticOp → Bool
  | .shiftRight | .shiftLeft => true
  | _ => false

def flagUse : ArithmeticOp → FlagUse
  | .copy | .or | .and | .xor => .unused
  | .add | .subtract | .subtractFrom => .afterResult
  | .shiftRight | .shiftLeft => .beforeResult

end ArithmeticOp

end Chip8
