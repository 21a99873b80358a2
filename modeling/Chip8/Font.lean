import Chip8.Memory

/-!
# The built-in font

Sixteen digits of five rows each, the leftmost pixel in the highest bit, kept
at the start of memory.
-/

namespace Chip8.Font

def start : Address := 0x000

def glyphSize : Nat := 5

def bytes : List Byte := [
  0xF0, 0x90, 0x90, 0x90, 0xF0,
  0x20, 0x60, 0x20, 0x20, 0x70,
  0xF0, 0x10, 0xF0, 0x80, 0xF0,
  0xF0, 0x10, 0xF0, 0x10, 0xF0,
  0x90, 0x90, 0xF0, 0x10, 0x10,
  0xF0, 0x80, 0xF0, 0x10, 0xF0,
  0xF0, 0x80, 0xF0, 0x90, 0xF0,
  0xF0, 0x10, 0x20, 0x40, 0x40,
  0xF0, 0x90, 0xF0, 0x90, 0xF0,
  0xF0, 0x90, 0xF0, 0x10, 0xF0,
  0xF0, 0x90, 0xF0, 0x90, 0x90,
  0xE0, 0x90, 0xE0, 0x90, 0xE0,
  0xF0, 0x80, 0x80, 0x80, 0xF0,
  0xE0, 0x90, 0x90, 0x90, 0xE0,
  0xF0, 0x80, 0xF0, 0x80, 0xF0,
  0xF0, 0x80, 0xF0, 0x80, 0x80]

/-- Where the digit of a register value starts. Values past the last digit
point beyond the font. -/
def glyph (value : Byte) : Word :=
  start.setWidth 16 + value.setWidth 16 * BitVec.ofNat 16 glyphSize

/-- Memory at power-on: the font and nothing else. -/
def memory : Memory := Memory.zero.writeBlock start bytes

end Chip8.Font
