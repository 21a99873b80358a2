import Chip8.Word

/-!
# The call stack

Sixteen slots used as a ring. The pointer is a byte that counts pushes minus
pops, and its low nibble names the next slot. Nothing guards the ring: more
than sixteen nested calls overwrite the oldest slots, and a pop of an empty
stack reads the slot below. A popped slot is cleared.
-/

namespace Chip8

structure CallStack where
  slots : Vector Word 16
  pointer : Byte
  deriving DecidableEq

namespace CallStack

def size : Nat := 16

def empty : CallStack := ⟨Vector.replicate 16 0, 0⟩

/-- The slot that a pointer stands for. -/
def slot (pointer : Byte) : Nibble := pointer.setWidth 4

def read (stack : CallStack) (name : Nibble) : Word :=
  have bound := name.toNat_lt
  stack.slots[name.toNat]

def write (stack : CallStack) (name : Nibble) (word : Word) : CallStack :=
  { stack with slots := stack.slots.set name.toNat word name.toNat_lt }

def push (stack : CallStack) (address : Address) : CallStack :=
  { stack.write (slot stack.pointer) (address.setWidth 16) with
    pointer := stack.pointer + 1 }

def pop (stack : CallStack) : CallStack × Word :=
  let pointer := stack.pointer - 1
  ({ stack.write (slot pointer) 0 with pointer }, stack.read (slot pointer))

@[simp] theorem read_empty (name : Nibble) : empty.read name = 0 := by
  simp [empty, read]

theorem read_write (stack : CallStack) (name other : Nibble) (word : Word) :
    (stack.write name word).read other =
      if other = name then word else stack.read other := by
  by_cases same : other = name
  · simp [read, write, same]
  · have apart : name.toNat ≠ other.toNat :=
      fun equal => same (BitVec.eq_of_toNat_eq equal.symm)
    simp [read, write, same, apart]

theorem read_push (stack : CallStack) (address : Address) (name : Nibble) :
    (stack.push address).read name =
      if name = slot stack.pointer then address.setWidth 16 else stack.read name :=
  read_write stack _ _ _

theorem read_pop (stack : CallStack) (name : Nibble) :
    stack.pop.1.read name =
      if name = slot (stack.pointer - 1) then 0 else stack.read name :=
  read_write stack _ _ _

end CallStack

end Chip8
