import Chip8.Instruction
import Chip8.Machine
import Chip8.Sprite

/-!
# Execution

What each instruction does, and the cycle around it: fetch, execute, tick the
timers. A word that is not an instruction changes nothing but the two fault
fields, so that a faulted machine meets the same word again.
-/

namespace Chip8.Machine

/-! ## Moving the program counter -/

/-- No advance: the instruction has set the program counter, or waits. -/
def stay : Word := 0

/-- Past this instruction. -/
def next : Word := 2

/-- Past this instruction and the one after it. -/
def skip : Word := 4

def advance (machine : Machine) (distance : Word) : Machine :=
  { machine with pc := machine.pc + distance }

/-- How far to go for a skip under a condition. -/
def skipOver (condition : Bool) : Word := if condition then skip else next

/-! ## Pieces of instructions -/

/-- The key that a register names; only its low nibble counts. -/
def namedKeyDown (machine : Machine) (x : Nibble) : Bool :=
  machine.keypad.isDown ((machine.registers.get x).setWidth 4)

/-- The operands of an arithmetic instruction. Under the older dialect a shift
takes its operand from the second register. -/
def arithmeticOperands (machine : Machine) (op : ArithmeticOp) (x y : Nibble) :
    Byte × Byte :=
  let b := machine.registers.get y
  if op.isShift ∧ machine.dialect = .cosmac then (b, b)
  else (machine.registers.get x, b)

/-- Store a result and, as the operation asks, its flag. -/
def storeResult (registers : Registers) (use : FlagUse) (x : Nibble) (result flag : Byte) :
    Registers :=
  match use with
  | .unused => registers.set x result
  | .afterResult => (registers.set x result).set Registers.flag flag
  | .beforeResult => (registers.set Registers.flag flag).set x result

def decimalDigits (byte : Byte) : List Byte := [byte / 100, byte / 10 % 10, byte % 10]

def indexAfterTransfer (machine : Machine) (x : Nibble) : Word :=
  match machine.dialect with
  | .cosmac => machine.index + x.setWidth 16 + 1
  | .schip => machine.index

def spriteMask (machine : Machine) (x y height : Nibble) : Screen :=
  Sprite.mask machine.wrapMode
    (machine.memory.readBlock machine.index.address height.toNat)
    ((machine.registers.get x).setWidth 6) ((machine.registers.get y).setWidth 5)

/-! ## Instructions -/

/-- The handler of an instruction: what it leaves of the machine, and how far the
program counter moves on from there. -/
def handle (machine : Machine) : Instruction → Machine × Word
  | .clearScreen => ({ machine with screen := .dark, redraw := true }, next)
  | .leave => ({ machine with stack := machine.stack.pop.1, pc := machine.stack.pop.2 }, stay)
  | .jump target => ({ machine with pc := target.setWidth 16 }, stay)
  | .call target =>
      ({ machine with
        stack := machine.stack.push (machine.pc + next).address
        pc := target.setWidth 16 }, stay)
  | .skipIfByte x byte => (machine, skipOver (machine.registers.get x == byte))
  | .skipUnlessByte x byte => (machine, skipOver (machine.registers.get x != byte))
  | .skipIfSame x y =>
      (machine, skipOver (machine.registers.get x == machine.registers.get y))
  | .setByte x byte => (machine.setRegister x byte, next)
  | .addByte x byte => (machine.setRegister x (machine.registers.get x + byte), next)
  | .arithmetic op x y =>
      let operands := machine.arithmeticOperands op x y
      let answer := op.apply operands.1 operands.2
      ({ machine with
        registers := storeResult machine.registers op.flagUse x answer.1 answer.2 }, next)
  | .skipUnlessSame x y =>
      (machine, skipOver (machine.registers.get x != machine.registers.get y))
  | .setIndex target => ({ machine with index := target.setWidth 16 }, next)
  | .jumpOffset base =>
      ({ machine with pc := (base + (machine.registers.get 0).setWidth 12).setWidth 16 }, stay)
  | .random x mask =>
      ({ machine.setRegister x (machine.key.byte &&& mask) with key := machine.key.next }, next)
  | .draw x y height =>
      let mask := machine.spriteMask x y height
      ({ machine.setRegister Registers.flag (ArithmeticOp.flag (machine.screen.meets mask)) with
        screen := machine.screen.flip mask
        redraw := true }, next)
  | .skipIfKey x => (machine, skipOver (machine.namedKeyDown x))
  | .skipUnlessKey x => (machine, skipOver (!machine.namedKeyDown x))
  | .readDelay x => (machine.setRegister x machine.delayTimer, next)
  | .awaitKey _ => (machine, if machine.keypad.anyDown then next else stay)
  | .setDelay x => ({ machine with delayTimer := machine.registers.get x }, next)
  | .setSound x => ({ machine with soundTimer := machine.registers.get x }, next)
  | .addIndex x =>
      let index := machine.index + (machine.registers.get x).setWidth 16
      ({ machine.setRegister Registers.flag (ArithmeticOp.flag (index > 0xFFF)) with index }, next)
  | .pointGlyph x => ({ machine with index := Font.glyph (machine.registers.get x) }, next)
  | .storeDigits x =>
      ({ machine with
        memory := machine.memory.writeBlock machine.index.address
          (decimalDigits (machine.registers.get x)) }, next)
  | .storeRegisters x =>
      ({ machine with
        memory := machine.memory.writeBlock machine.index.address (machine.registers.upTo x)
        index := machine.indexAfterTransfer x }, next)
  | .loadRegisters x =>
      ({ machine with
        registers := machine.registers.loadUpTo x fun name =>
          machine.memory.read (machine.index.address + name.setWidth 12)
        index := machine.indexAfterTransfer x }, next)

def perform (machine : Machine) (instruction : Instruction) : Machine :=
  let (left, distance) := machine.handle instruction
  left.advance distance

/-- Carry out a word, or take note that it is not an instruction. -/
def execute (machine : Machine) (word : Word) : Machine :=
  if word.isLegal then machine.perform (.dispatch word)
  else { machine with faulted := true, illegalOpcode := word }

section Execute

variable {machine : Machine} {word : Word}

theorem execute_of_some {instruction : Instruction}
    (decoded : Instruction.decode word = some instruction) :
    machine.execute word = machine.perform instruction := by
  obtain ⟨legal, dispatched⟩ := Option.ite_none_right_eq_some.mp decoded
  rw [execute, if_pos legal, Option.some.inj dispatched]

theorem execute_of_none (undecoded : Instruction.decode word = none) :
    machine.execute word = { machine with faulted := true, illegalOpcode := word } := by
  have illegal : word.isLegal = false := by
    rw [← Instruction.isSome_decode, undecoded, Option.isSome_none]
  simp [execute, illegal]

end Execute

/-! ## Cycles -/

/-- The word at the program counter, high byte first. -/
def fetch (machine : Machine) : Word := machine.memory.readWord machine.pc.address

def countDown (timer : Byte) : Byte := if timer = 0 then 0 else timer - 1

def tickTimers (machine : Machine) : Machine :=
  { machine with
    delayTimer := countDown machine.delayTimer
    soundTimer := countDown machine.soundTimer }

/-- Forget what the last cycle reported. -/
def clearReports (machine : Machine) : Machine :=
  { machine with redraw := false, faulted := false }

/-- One cycle. The timers stand still when it faults. -/
def step (machine : Machine) : Machine :=
  let executed := machine.clearReports.execute machine.fetch
  if executed.faulted then executed else executed.tickTimers

/-- Several cycles, whether or not they fault. -/
def run (machine : Machine) : (cycles : Nat) → Machine
  | 0 => machine
  | cycles + 1 => machine.step.run cycles

@[simp] theorem run_zero (machine : Machine) : machine.run 0 = machine := rfl

theorem run_succ (machine : Machine) (cycles : Nat) :
    machine.run (cycles + 1) = machine.step.run cycles := rfl

theorem run_add (machine : Machine) (first second : Nat) :
    machine.run (first + second) = (machine.run first).run second := by
  induction first generalizing machine with
  | zero => simp
  | succ first inductionHypothesis =>
      rw [Nat.succ_add, run_succ, run_succ, inductionHypothesis]

end Chip8.Machine
