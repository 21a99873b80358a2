import Chip8.CallStack
import Chip8.Dialect
import Chip8.Font
import Chip8.Keypad
import Chip8.Random
import Chip8.Registers
import Chip8.Screen

/-!
# The machine

The state of a machine and its life outside execution: power-on, reset and
loading a program.
-/

namespace Chip8

structure Machine where
  key : Random.Key
  dialect : Dialect
  wrapMode : WrapMode
  memory : Memory := Font.memory
  /-- The program counter, not confined to the addresses of memory. -/
  pc : Word := Memory.programStart.setWidth 16
  screen : Screen := .dark
  stack : CallStack := .empty
  delayTimer : Byte := 0
  soundTimer : Byte := 0
  keypad : Keypad := .allUp
  registers : Registers := .zero
  /-- The register `I`, not confined to the addresses of memory. -/
  index : Word := 0
  /-- Whether the last cycle drew. -/
  redraw : Bool := false
  powered : Bool := false
  /-- Whether the last cycle met a word that is not an instruction. -/
  faulted : Bool := false
  /-- The word of the last fault. -/
  illegalOpcode : Word := 0
  deriving DecidableEq

namespace Machine

/-- A machine built from the settings for its seed and its two choices. -/
def create? (seed dialect wrapMode : Setting) : Except Error Machine := do
  let key ← Random.Key.ofSetting? seed
  let dialect ← Dialect.ofSetting? dialect
  let wrapMode ← WrapMode.ofSetting? wrapMode
  return { key, dialect, wrapMode }

/-- Back to power-on. Only the two choices and the random generator survive. -/
def reset (machine : Machine) : Machine :=
  { key := machine.key, dialect := machine.dialect, wrapMode := machine.wrapMode }

/-- Reset, copy a program and power on. A program that does not fit is refused. -/
def load? (machine : Machine) (program : List Byte) : Except Error Machine :=
  if program.length ≤ Memory.programCapacity then
    .ok { machine.reset with
      memory := Font.memory.writeBlock Memory.programStart program
      powered := true }
  else .error .programOverrun

def loadFile? (machine : Machine) : Except FileFault (List Byte) → Except Error Machine
  | .ok program => machine.load? program
  | .error fault => .error (.fileNotRead fault)

def setRegister (machine : Machine) (name : Nibble) (byte : Byte) : Machine :=
  { machine with registers := machine.registers.set name byte }

def setKey (machine : Machine) (key : Nibble) (down : Bool) : Machine :=
  { machine with keypad := machine.keypad.set key down }

def fault? (machine : Machine) : Option Error :=
  if machine.faulted then
    some (.illegalOpcode machine.illegalOpcode.toNat (some machine.pc.toNat))
  else none

def soundActive (machine : Machine) : Bool := machine.soundTimer != 0

end Machine

end Chip8
