import Chip8.Error
import Chip8.Setting
import Chip8.Word

/-!
# The random generator

A splittable generator. Its key is a pair of 32-bit words, and a block cipher of
twenty rounds turns a key and a counter into a new pair. A draw splits the key
in two: the first half becomes the next key, the second half gives the byte.
-/

namespace Chip8.Random

structure Key where
  high : BitVec 32
  low : BitVec 32
  deriving DecidableEq

/-- The key of a seed: its low 32 bits. A seed has to fit a signed 64-bit word. -/
def Key.ofSeed? (seed : Int) : Except Error Key :=
  if -0x8000000000000000 ≤ seed ∧ seed < 0x8000000000000000 then .ok ⟨0, BitVec.ofInt 32 seed⟩
  else .error .seedOutOfRange

/-- The key of a seed that a setting gives: a whole number, or a yes or no for one
or zero. -/
def Key.ofSetting? : Setting → Except Error Key
  | .number seed => ofSeed? seed
  | .flag value => ofSeed? value.toInt
  | .none => .error .seedMissing
  | .text _ | .list _ | .table _ => .error .seedNotNumber

/-- Add, rotate by a distance and mix. -/
def mix (block : Key) (distance : Nat) : Key :=
  let high := block.high + block.low
  ⟨high, block.low.rotateLeft distance ^^^ high⟩

/-- Four rounds by the given distances, then an injection of key words. -/
def group (distances : List Nat) (injected : Key) (block : Key) : Key :=
  let mixed := distances.foldl mix block
  ⟨mixed.high + injected.high, mixed.low + injected.low⟩

def firstDistances : List Nat := [13, 15, 26, 6]

def secondDistances : List Nat := [17, 29, 16, 24]

/-- Encipher a counter under a key. -/
def encipher (key counter : Key) : Key :=
  let parity := key.high ^^^ key.low ^^^ 0x1BD11BDA
  ⟨counter.high + key.high, counter.low + key.low⟩
    |> group firstDistances ⟨key.low, parity + 1⟩
    |> group secondDistances ⟨parity, key.high + 2⟩
    |> group firstDistances ⟨key.high, key.low + 3⟩
    |> group secondDistances ⟨key.low, parity + 4⟩
    |> group firstDistances ⟨parity, key.high + 5⟩

/-- Two independent keys from one. -/
def Key.split (key : Key) : Key × Key :=
  (encipher key ⟨0, 0⟩, encipher key ⟨0, 1⟩)

/-- The key that is left after a draw. -/
def Key.next (key : Key) : Key := key.split.1

/-- The byte that a draw gives. -/
def Key.byte (key : Key) : Byte :=
  let block := encipher key.split.2.split.2 ⟨0, 0⟩
  (block.high ^^^ block.low).setWidth 8

end Chip8.Random
