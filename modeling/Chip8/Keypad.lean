import Chip8.Error
import Chip8.Nested
import Chip8.Word

/-!
# The keypad

Sixteen keys named by nibbles. The host presses and releases single keys or
hands over the state of all of them at once.
-/

namespace Chip8

structure Keypad where
  keys : Vector Bool 16
  deriving DecidableEq

namespace Keypad

def size : Nat := 16

def allUp : Keypad := ⟨Vector.replicate 16 false⟩

def isDown (keypad : Keypad) (key : Nibble) : Bool :=
  have bound := key.toNat_lt
  keypad.keys[key.toNat]

def anyDown (keypad : Keypad) : Bool := keypad.keys.toList.any id

def set (keypad : Keypad) (key : Nibble) (down : Bool) : Keypad :=
  ⟨keypad.keys.set key.toNat down key.toNat_lt⟩

def key? (number : Int) : Except Error Nibble :=
  if 0 ≤ number ∧ number < size then .ok (BitVec.ofInt 4 number)
  else .error (.keyOutOfRange number)

/-- The keypad of an array of key states, which must be a row of sixteen. -/
def ofNested? (states : Nested Bool) : Except Error Keypad :=
  match states.arrayShape? with
  | none => .error .shapelessKeyStates
  | some shape =>
      if shape = [size] then .ok ⟨Vector.ofFn fun key => states.leaves.getD key false⟩
      else .error (.keyStatesShape shape)

theorem isDown_set (keypad : Keypad) (key other : Nibble) (down : Bool) :
    (keypad.set key down).isDown other =
      if other = key then down else keypad.isDown other := by
  by_cases same : other = key
  · simp [isDown, set, same]
  · have apart : key.toNat ≠ other.toNat :=
      fun equal => same (BitVec.eq_of_toNat_eq equal.symm)
    simp [isDown, set, same, apart]

@[simp] theorem isDown_allUp (key : Nibble) : allUp.isDown key = false := by
  simp [allUp, isDown]

end Keypad

end Chip8
