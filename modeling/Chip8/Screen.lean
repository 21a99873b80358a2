import Chip8.Word

/-!
# The screen

Thirty-two rows of sixty-four pixels. A row is a 64-bit word whose most
significant bit is the leftmost pixel, so that flipping the pixels of a mask is
an exclusive or of rows and a collision a conjunction that is not zero. The
view of a screen is `lit`, one Boolean per column and row.
-/

namespace Chip8

/-- Horizontal position, counted from the left; wraps at the screen's width. -/
abbrev Column := BitVec 6

/-- Vertical position, counted from the top; wraps at the screen's height. -/
abbrev Row := BitVec 5

structure Screen where
  rows : Vector (BitVec 64) 32
  deriving DecidableEq

namespace Screen

def width : Nat := 64

def height : Nat := 32

def dark : Screen := ⟨Vector.replicate 32 0⟩

def row (screen : Screen) (y : Row) : BitVec 64 := screen.rows[y.toNat]

/-- Whether a pixel is on. -/
def lit (screen : Screen) (x : Column) (y : Row) : Bool :=
  (screen.row y).getMsbD x.toNat

/-- The screen with the given rows. -/
def ofRows (rows : Row → BitVec 64) : Screen :=
  ⟨Vector.ofFn fun y => rows (BitVec.ofFin y)⟩

/-- Flip the pixels of a mask. -/
def flip (screen mask : Screen) : Screen :=
  ⟨Vector.zipWith (· ^^^ ·) screen.rows mask.rows⟩

/-- Whether some pixel is on in both. -/
def meets (screen mask : Screen) : Bool :=
  (Vector.zipWith (· &&& ·) screen.rows mask.rows).any (· != 0)

@[simp] theorem row_ofRows (rows : Row → BitVec 64) (y : Row) :
    (ofRows rows).row y = rows y := by
  simp [ofRows, row]

@[simp] theorem row_flip (screen mask : Screen) (y : Row) :
    (screen.flip mask).row y = screen.row y ^^^ mask.row y := by
  simp [flip, row]

@[simp] theorem lit_dark (x : Column) (y : Row) : dark.lit x y = false := by
  simp [dark, lit, row]

@[simp] theorem lit_flip (screen mask : Screen) (x : Column) (y : Row) :
    (screen.flip mask).lit x y = (screen.lit x y ^^ mask.lit x y) := by
  simp [lit]

/-- Screens with the same pixels are equal. -/
@[ext] theorem ext {screen other : Screen}
    (pixels : ∀ x y, screen.lit x y = other.lit x y) : screen = other := by
  rcases screen with ⟨rows⟩
  rcases other with ⟨otherRows⟩
  congr 1
  apply Vector.ext
  intro y yBound
  apply BitVec.eq_of_getMsbD_eq
  intro x xBound
  have pixel := pixels (BitVec.ofNat 6 x) (BitVec.ofNat 5 y)
  simpa [lit, row, Nat.mod_eq_of_lt xBound, Nat.mod_eq_of_lt yBound] using pixel

theorem exists_getMsbD_of_ne_zero {row : BitVec 64} (nonzero : row ≠ 0) :
    ∃ x : Column, row.getMsbD x.toNat = true := by
  apply Classical.byContradiction
  intro absent
  apply nonzero
  apply BitVec.eq_of_getMsbD_eq
  intro x bound
  cases pixel : row.getMsbD x with
  | false => simp
  | true =>
      exact absurd ⟨BitVec.ofNat 6 x, by simpa [Nat.mod_eq_of_lt bound] using pixel⟩ absent

/-- Two screens meet exactly when a pixel is on in both. -/
theorem meets_eq_true_iff (screen mask : Screen) :
    screen.meets mask = true ↔ ∃ x y, screen.lit x y = true ∧ mask.lit x y = true := by
  simp only [meets, Vector.any_eq_true, Vector.getElem_zipWith, bne_iff_ne]
  constructor
  · rintro ⟨y, bound, nonzero⟩
    rcases exists_getMsbD_of_ne_zero nonzero with ⟨x, common⟩
    refine ⟨x, BitVec.ofNat 5 y, ?_⟩
    simpa [lit, row, Nat.mod_eq_of_lt bound] using common
  · rintro ⟨x, y, on, masked⟩
    refine ⟨y.toNat, y.isLt, fun zero => ?_⟩
    have pixel : (screen.row y &&& mask.row y).getMsbD x.toNat = true := by
      rw [BitVec.getMsbD_and, Bool.and_eq_true]
      exact ⟨on, masked⟩
    rw [row, row, zero] at pixel
    simp at pixel

end Screen

end Chip8
