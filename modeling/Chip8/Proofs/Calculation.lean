import Chip8.Proofs.Configuration

/-!
# Register arithmetic on numbers

What the nine operations compute is said on numbers below 256, with each wrap and
each flag spelled out. Where the result and the flag meet in one register, a sum and
a difference leave the flag and a shift leaves its result.
-/

namespace Chip8

/-! ## Operations on numbers -/

namespace ArithmeticOp

/-- The result of an operation. A difference borrows from 256. -/
def number (op : ArithmeticOp) (a b : Nat) : Nat :=
  match op with
  | .copy => b
  | .or => a ||| b
  | .and => a &&& b
  | .xor => a ^^^ b
  | .add => (a + b) % 256
  | .subtract => (256 + a - b) % 256
  | .shiftRight => a / 2
  | .subtractFrom => (256 + b - a) % 256
  | .shiftLeft => 2 * a % 256

/-- The flag of an operation: a carry, the absence of a borrow or the bit shifted out. -/
def mark (op : ArithmeticOp) (a b : Nat) : Nat :=
  match op with
  | .copy | .or | .and | .xor => 0
  | .add => if 255 < a + b then 1 else 0
  | .subtract => if b ≤ a then 1 else 0
  | .shiftRight => a % 2
  | .subtractFrom => if a ≤ b then 1 else 0
  | .shiftLeft => a / 128

theorem toNat_flag (condition : Bool) : (flag condition).toNat = if condition then 1 else 0 := by
  cases condition <;> rfl

variable (op : ArithmeticOp) (a b : Byte)

theorem toNat_fst_apply : (op.apply a b).1.toNat = op.number a.toNat b.toNat := by
  have aBound := a.isLt
  have bBound := b.isLt
  cases op with
  | copy => rfl
  | or => exact BitVec.toNat_or a b
  | and => exact BitVec.toNat_and a b
  | xor => exact BitVec.toNat_xor a b
  | add => exact BitVec.toNat_add a b
  | subtract =>
      simp only [apply, number, BitVec.toNat_sub]
      omega
  | shiftRight => exact BitVec.toNat_ushiftRight a 1
  | subtractFrom =>
      simp only [apply, number, BitVec.toNat_sub]
      omega
  | shiftLeft =>
      simp only [apply, number, BitVec.toNat_shiftLeft, Nat.shiftLeft_eq]
      omega

theorem toNat_snd_apply : (op.apply a b).2.toNat = op.mark a.toNat b.toNat := by
  cases op with
  | copy | or | and | xor => rfl
  | add => simp only [apply, mark, toNat_flag, decide_eq_true_eq, gt_iff_lt]
  | subtract => simp only [apply, mark, toNat_flag, decide_eq_true_eq, ge_iff_le, BitVec.le_def]
  | shiftRight => exact (BitVec.toNat_and a 1).trans (Nat.and_one_is_mod a.toNat)
  | subtractFrom =>
      simp only [apply, mark, toNat_flag, decide_eq_true_eq, ge_iff_le, BitVec.le_def]
  | shiftLeft => exact (BitVec.toNat_ushiftRight a 7).trans (Nat.shiftRight_eq_div_pow a.toNat 7)

/-- The shifts are the operations that write their flag first. -/
theorem isShift_eq : op.isShift = decide (op.flagUse = .beforeResult) := by
  cases op <;> rfl

theorem contains_codes_iff (code : Nibble) :
    codes.contains code = true ↔ code ≤ 0x7 ∨ code = 0xE := by
  revert code
  decide

end ArithmeticOp

/-! ## Registers -/

namespace Machine

/-- What a register holds, as a number. -/
def value (machine : Machine) (name : Nibble) : Nat := (machine.registers.get name).toNat

/-- What a register holds after `8XYN`. -/
def valueAfter (machine : Machine) (x y n name : Nibble) : Nat :=
  (machine.execute (.withNibbles 0x8 x y n)).value name

/-- The register that a shift takes its operand from. -/
def shiftSource (machine : Machine) (x y : Nibble) : Nibble :=
  if machine.dialect = .cosmac then y else x

theorem isLegal_arithmetic (x y n : Nibble) :
    (Word.withNibbles 0x8 x y n).isLegal = ArithmeticOp.codes.contains n := by
  simp [Word.isLegal]

section Arithmetic

variable (machine : Machine) (op : ArithmeticOp) (x y name : Nibble)

theorem arithmeticOperands_of_plain (plain : op.isShift = false) :
    machine.arithmeticOperands op x y = (machine.registers.get x, machine.registers.get y) := by
  simp [arithmeticOperands, plain]

theorem arithmeticOperands_of_shift (shift : op.isShift = true) :
    machine.arithmeticOperands op x y =
      (machine.registers.get (machine.shiftSource x y), machine.registers.get y) := by
  by_cases older : machine.dialect = .cosmac <;>
    simp [arithmeticOperands, shiftSource, shift, older]

theorem valueAfter_eq {a b : Byte} (operands : machine.arithmeticOperands op x y = (a, b)) :
    machine.valueAfter x y op.code name =
      ((storeResult machine.registers op.flagUse x (op.apply a b).1 (op.apply a b).2).get
        name).toNat := by
  have executed : machine.execute (.withNibbles 0x8 x y op.code) =
      machine.perform (.arithmetic op x y) :=
    machine.execute_encode (.arithmetic op x y)
  rw [valueAfter, value, executed]
  simp only [perform, handle, operands, advance]

theorem valueAfter_of_unused (use : op.flagUse = .unused) :
    machine.valueAfter x y op.code name =
      if name = x then op.number (machine.value x) (machine.value y) else machine.value name := by
  have plain : op.isShift = false := by
    rw [op.isShift_eq, use]
    rfl
  rw [machine.valueAfter_eq op x y name (machine.arithmeticOperands_of_plain op x y plain), use,
    storeResult, Registers.get_set]
  split
  · exact op.toNat_fst_apply _ _
  · rfl

/-- The flag is written last and wins. -/
theorem valueAfter_of_afterResult (use : op.flagUse = .afterResult) :
    machine.valueAfter x y op.code name =
      if name = Registers.flag then op.mark (machine.value x) (machine.value y)
      else if name = x then op.number (machine.value x) (machine.value y)
      else machine.value name := by
  have plain : op.isShift = false := by
    rw [op.isShift_eq, use]
    rfl
  rw [machine.valueAfter_eq op x y name (machine.arithmeticOperands_of_plain op x y plain), use,
    storeResult, Registers.get_set, Registers.get_set]
  split
  · exact op.toNat_snd_apply _ _
  · split
    · exact op.toNat_fst_apply _ _
    · rfl

/-- The result is written last and wins. -/
theorem valueAfter_of_beforeResult (use : op.flagUse = .beforeResult) :
    machine.valueAfter x y op.code name =
      if name = x then op.number (machine.value (machine.shiftSource x y)) (machine.value y)
      else if name = Registers.flag then
        op.mark (machine.value (machine.shiftSource x y)) (machine.value y)
      else machine.value name := by
  have shift : op.isShift = true := by
    rw [op.isShift_eq, use]
    rfl
  rw [machine.valueAfter_eq op x y name (machine.arithmeticOperands_of_shift op x y shift), use,
    storeResult, Registers.get_set, Registers.get_set]
  split
  · exact op.toNat_fst_apply _ _
  · split
    · exact op.toNat_snd_apply _ _
    · rfl

end Arithmetic

/-- The words `8XYN` that are instructions are those with `N` from 0 to 7 and `E`. After
each of them a register holds the number given here, from operands as they were before;
under the older dialect the two shifts take theirs from the second register. -/
theorem execute_arithmetic_by_numbers (machine : Machine) (x y name : Nibble) :
    (∀ n, (Word.withNibbles 0x8 x y n).isLegal = true ↔ n ≤ 0x7 ∨ n = 0xE) ∧
      (machine.valueAfter x y 0x0 name =
        if name = x then machine.value y else machine.value name) ∧
      (machine.valueAfter x y 0x1 name =
        if name = x then machine.value x ||| machine.value y else machine.value name) ∧
      (machine.valueAfter x y 0x2 name =
        if name = x then machine.value x &&& machine.value y else machine.value name) ∧
      (machine.valueAfter x y 0x3 name =
        if name = x then machine.value x ^^^ machine.value y else machine.value name) ∧
      (machine.valueAfter x y 0x4 name =
        if name = 0xF then if 255 < machine.value x + machine.value y then 1 else 0
        else if name = x then (machine.value x + machine.value y) % 256
        else machine.value name) ∧
      (machine.valueAfter x y 0x5 name =
        if name = 0xF then if machine.value y ≤ machine.value x then 1 else 0
        else if name = x then (256 + machine.value x - machine.value y) % 256
        else machine.value name) ∧
      (machine.valueAfter x y 0x6 name =
        if name = x then machine.value (machine.shiftSource x y) / 2
        else if name = 0xF then machine.value (machine.shiftSource x y) % 2
        else machine.value name) ∧
      (machine.valueAfter x y 0x7 name =
        if name = 0xF then if machine.value x ≤ machine.value y then 1 else 0
        else if name = x then (256 + machine.value y - machine.value x) % 256
        else machine.value name) ∧
      (machine.valueAfter x y 0xE name =
        if name = x then 2 * machine.value (machine.shiftSource x y) % 256
        else if name = 0xF then machine.value (machine.shiftSource x y) / 128
        else machine.value name) := by
  refine ⟨?_, machine.valueAfter_of_unused .copy x y name rfl,
    machine.valueAfter_of_unused .or x y name rfl,
    machine.valueAfter_of_unused .and x y name rfl,
    machine.valueAfter_of_unused .xor x y name rfl,
    machine.valueAfter_of_afterResult .add x y name rfl,
    machine.valueAfter_of_afterResult .subtract x y name rfl,
    machine.valueAfter_of_beforeResult .shiftRight x y name rfl,
    machine.valueAfter_of_afterResult .subtractFrom x y name rfl,
    machine.valueAfter_of_beforeResult .shiftLeft x y name rfl⟩
  intro n
  rw [isLegal_arithmetic]
  exact ArithmeticOp.contains_codes_iff n

end Machine

end Chip8
