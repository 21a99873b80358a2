import Chip8.Screen

/-!
# Bitmaps

A grid of pixels that are on or off, of any width and height.
-/

namespace Chip8

structure Bitmap (width height : Nat) where
  /-- The rows from top to bottom, each from left to right. -/
  rows : Vector (Vector Bool width) height
  deriving DecidableEq

namespace Bitmap

variable {width height : Nat}

/-- The bitmap of a predicate on columns and rows. -/
def tabulate (width height : Nat) (on : Nat → Nat → Bool) : Bitmap width height :=
  ⟨Vector.ofFn fun y => Vector.ofFn fun x => on x y⟩

def lit (bitmap : Bitmap width height) (x : Fin width) (y : Fin height) : Bool :=
  bitmap.rows[y][x]

@[simp] theorem lit_tabulate (on : Nat → Nat → Bool) (x : Fin width) (y : Fin height) :
    (tabulate width height on).lit x y = on x y := by
  simp [tabulate, lit]

@[ext] theorem ext {bitmap other : Bitmap width height}
    (pixels : ∀ x y, bitmap.lit x y = other.lit x y) : bitmap = other := by
  rcases bitmap with ⟨rows⟩
  rcases other with ⟨otherRows⟩
  congr 1
  apply Vector.ext
  intro y yBound
  apply Vector.ext
  intro x xBound
  exact pixels ⟨x, xBound⟩ ⟨y, yBound⟩

end Bitmap

def Screen.bitmap (screen : Screen) : Bitmap Screen.width Screen.height :=
  .tabulate _ _ fun x y => screen.lit (BitVec.ofNat 6 x) (BitVec.ofNat 5 y)

end Chip8
