import Chip8.Picture.Bitmap
import Chip8.Picture.Color

/-!
# Images

Painting turns a bitmap into an image in two colours, each pixel of the bitmap
becoming a square. `pixel_paint` says which pixel of the bitmap gives each pixel
of the image. How large an image may grow is up to the host.
-/

namespace Chip8.Picture

structure Image where
  width : Nat
  height : Nat
  /-- The rows from top to bottom, each from left to right. -/
  rows : Vector (Vector Color width) height
  deriving DecidableEq

theorem div_lt_of_lt_mul {i size scale : Nat} (bound : i < size * scale) :
    i / scale < size :=
  Nat.div_lt_of_lt_mul (Nat.mul_comm size scale ▸ bound)

/-- Make each element into as many neighbours. -/
def stretch {Element : Type} {size : Nat} (elements : Vector Element size) (scale : Nat) :
    Vector Element (size * scale) :=
  Vector.ofFn fun i =>
    have bound := div_lt_of_lt_mul i.isLt
    elements[i.val / scale]

theorem getElem_stretch {Element : Type} {size : Nat} (elements : Vector Element size)
    (scale i : Nat) (bound : i < size * scale) :
    have := div_lt_of_lt_mul bound
    (stretch elements scale)[i] = elements[i / scale] := by
  simp [stretch]

/-- What the surroundings decide about images. -/
structure Host where
  /-- Whether there is room for an image of a width and a height. -/
  holds : Nat → Nat → Bool

namespace Image

def pixel (image : Image) (row : Fin image.height) (column : Fin image.width) : Color :=
  image.rows[row.val][column.val]

/-- Paint a bitmap, a square of `scale` pixels on each side for each of its pixels. -/
def paint {width height : Nat} (bitmap : Bitmap width height) (scale : Nat)
    (on off : Color) : Image :=
  { width := width * scale
    height := height * scale
    rows := stretch (bitmap.rows.map fun row =>
      stretch (row.map fun lit => if lit then on else off) scale) scale }

theorem pixel_paint {width height : Nat} (bitmap : Bitmap width height) (scale : Nat)
    (on off : Color) (row : Fin (height * scale)) (column : Fin (width * scale)) :
    (paint bitmap scale on off).pixel row column =
      if bitmap.lit ⟨column / scale, div_lt_of_lt_mul column.isLt⟩
          ⟨row / scale, div_lt_of_lt_mul row.isLt⟩ then on else off := by
  change (stretch (bitmap.rows.map fun row =>
    stretch (row.map fun lit => if lit then on else off) scale) scale)[row.val][column.val] = _
  rw [getElem_stretch _ _ _ row.isLt]
  rw [Vector.getElem_map, getElem_stretch _ _ _ column.isLt, Vector.getElem_map]
  rfl

/-- Paint a bitmap at a scale and in colours asked for in whole numbers. The scale
is looked at before the colours. -/
def render? {width height : Nat} (bitmap : Bitmap width height) (scale : Int)
    (scheme : Scheme) : Except Error Image :=
  if scale < 1 then .error (.scaleNotPositive scale)
  else do
    let on ← scheme.on.color?
    let off ← scheme.off.color?
    return paint bitmap scale.toNat on off

/-- The scale that a setting gives: a whole number, or a yes for one. -/
def scaleOfSetting? : Setting → Except Error Int
  | .number scale => .ok scale
  | .flag true => .ok 1
  | .flag false => .error .scaleDenied
  | .none | .text _ | .list _ | .table _ => .error .scaleNotNumber

/-- A scale has to fit 63 bits, and the host needs the room. -/
def checkSize (host : Host) (width height : Nat) (scale : Int) : Except Error Unit :=
  if 0x8000000000000000 ≤ scale then .error .scaleOutOfRange
  else if host.holds (width * scale.toNat) (height * scale.toNat) then .ok ()
  else .error .imageTooLarge

/-- Paint a bitmap at the scale of a setting. The size of the image is looked at once
scale and colours are known. -/
def renderAt? (host : Host) {width height : Nat} (bitmap : Bitmap width height)
    (scale : Setting) (scheme : Scheme) : Except Error Image := do
  let scale ← scaleOfSetting? scale
  let _ ← render? bitmap (min scale 1) scheme
  checkSize host width height scale
  render? bitmap scale scheme

/-- The scale in use when none is asked for. -/
def defaultScale : Setting := .number 8

end Image

end Chip8.Picture
