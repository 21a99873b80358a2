import Chip8.Word

/-!
# Numbers as bytes

A number as a fixed count of bytes. Digits past the count are dropped.
-/

namespace Chip8.Picture

def littleEndian : (count : Nat) → (value : Nat) → List Byte
  | 0, _ => []
  | count + 1, value => BitVec.ofNat 8 value :: littleEndian count (value / 256)

def bigEndian (count value : Nat) : List Byte := (littleEndian count value).reverse

end Chip8.Picture
