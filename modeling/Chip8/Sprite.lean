import Chip8.Dialect
import Chip8.Screen

/-!
# Sprites

A sprite is a column of bytes, the leftmost pixel in the highest bit. Placed on
the screen it becomes a mask of the pixels that drawing flips. `lit_mask` gives
the mask pixel by pixel.
-/

namespace Chip8.Sprite

def width : Nat := 8

/-- One row of a sprite with its left end at a column. -/
def placeRow (mode : WrapMode) (byte : Byte) (left : Column) : BitVec 64 :=
  let leftmost := byte.setWidth 64 <<< 56
  match mode with
  | .wrap => leftmost.rotateRight left.toNat
  | .clip => leftmost >>> left.toNat

/-- The pixels of a sprite whose upper left corner is at a column and row. -/
def mask (mode : WrapMode) (sprite : List Byte) (left : Column) (top : Row) : Screen :=
  .ofRows fun y =>
    if mode = .clip ∧ y < top then 0
    else placeRow mode (sprite.getD (y - top).toNat 0) left

/-- Whether a position is not cut off: in clip mode only what lies right of and
below the corner is kept. -/
def keeps (mode : WrapMode) (left : Column) (top : Row) (x : Column) (y : Row) : Bool :=
  match mode with
  | .wrap => true
  | .clip => left ≤ x && top ≤ y

theorem getMsbD_placeRow (mode : WrapMode) (byte : Byte) (left x : Column) :
    (placeRow mode byte left).getMsbD x.toNat =
      ((mode = .wrap || left ≤ x) && byte.getMsbD (x - left).toNat) := by
  have xBound : x.toNat < 64 := x.isLt
  have leftBound : left.toNat < 64 := left.isLt
  have distance : (x - left).toNat =
      if left.toNat ≤ x.toNat then x.toNat - left.toNat
      else 64 + x.toNat - left.toNat := by
    rw [BitVec.toNat_sub]
    split <;> omega
  have leftmost (i : Nat) (bound : i < 64) :
      (byte.setWidth 64 <<< 56).getMsbD i = byte.getMsbD i := by
    rw [BitVec.getMsbD_shiftLeft, BitVec.getMsbD_setWidth]
    simp
  cases mode with
  | wrap =>
      simp only [placeRow, BitVec.getMsbD_rotateRight, xBound, distance,
        Nat.mod_eq_of_lt leftBound, decide_true, Bool.true_and, Bool.true_or]
      split
      · rw [Nat.mod_eq_of_lt (by omega), leftmost _ (by omega), if_neg (by omega)]
      · rw [leftmost _ (by omega), if_pos (by omega)]
  | clip =>
      simp only [placeRow, BitVec.getMsbD_ushiftRight, xBound, distance, BitVec.le_def,
        decide_true, Bool.true_and, reduceCtorEq, decide_false, Bool.false_or]
      by_cases right : left.toNat ≤ x.toNat
      · rw [leftmost _ (by omega)]
        simp [right, Nat.not_lt.mpr right]
      · simp [right, Nat.lt_of_not_le right]

/-- A pixel belongs to the mask when the sprite has the bit at its distance from
the corner, measured around the screen, and the position is kept. -/
theorem lit_mask (mode : WrapMode) (sprite : List Byte) (left x : Column) (top y : Row) :
    (mask mode sprite left top).lit x y =
      (keeps mode left top x y &&
        (sprite.getD (y - top).toNat 0).getMsbD (x - left).toNat) := by
  rw [Screen.lit, mask, Screen.row_ofRows]
  split
  next above =>
    have notBelow : ¬top ≤ y := by
      simpa [BitVec.not_le] using above.2
    simp [keeps, above.1, notBelow]
  next kept =>
    rw [getMsbD_placeRow]
    cases mode with
    | wrap => simp [keeps]
    | clip =>
        have below : top ≤ y := by simpa [BitVec.not_lt] using kept
        simp [keeps, below]

end Chip8.Sprite
