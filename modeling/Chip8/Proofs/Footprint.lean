import Chip8.Proofs.Plotting
import Mathlib.Algebra.BigOperators.Intervals
import Mathlib.Data.BitVec
import Mathlib.Data.FinEnum
import Mathlib.Tactic.Ring

/-!
# The footprint of a sprite

A sprite that wraps covers one pixel for each of its bits, wherever its corner is.
Cutting it off at the edges keeps the pixels right of and below the corner, and
another corner moves all of them around the screen by the distance of the corners.
-/

namespace Chip8

/-- The pixels that are on. -/
def Screen.pixels (screen : Screen) : Finset (Column × Row) :=
  {pixel | screen.lit pixel.1 pixel.2 = true}

@[simp] theorem Screen.mem_pixels (screen : Screen) (x : Column) (y : Row) :
    (x, y) ∈ screen.pixels ↔ screen.lit x y = true := by
  simp [pixels]

/-! ## Masks of one sprite -/

namespace Sprite

section Mask

variable (sprite : List Byte) (left x : Column) (top y : Row)

theorem lit_mask_clip_iff :
    (mask .clip sprite left top).lit x y = true ↔
      (mask .wrap sprite left top).lit x y = true ∧ left ≤ x ∧ top ≤ y := by
  rw [lit_mask, lit_mask, Bool.and_eq_true]
  simp only [keeps, Bool.and_eq_true, decide_eq_true_eq, Bool.true_and]
  exact and_comm

/-- A pixel that goes along with the corner keeps its distance to it. -/
theorem lit_mask_translate (otherLeft : Column) (otherTop : Row) :
    (mask .wrap sprite otherLeft otherTop).lit (x + (otherLeft - left)) (y + (otherTop - top)) =
      (mask .wrap sprite left top).lit x y := by
  have across : x + (otherLeft - left) - otherLeft = x - left := by ring
  have down : y + (otherTop - top) - otherTop = y - top := by ring
  rw [lit_mask, lit_mask, across, down]
  rfl

end Mask

end Sprite

/-! ## Counting pixels -/

namespace Plot

variable (bit : Nat → Nat → Bool) (left top : Nat)

theorem length_row_wrap (row width : Nat) :
    ((List.range width).filterMap fun column =>
        if bit row column then pixel? .wrap (left + column) (top + row) else none).length =
      ∑ column ∈ Finset.range width, (bit row column).toNat := by
  induction width with
  | zero => rfl
  | succ width inductionHypothesis =>
      rw [List.range_succ, List.filterMap_append, List.length_append, inductionHypothesis,
        Finset.sum_range_succ]
      cases drawn : bit row width <;> simp [drawn, pixel?]

/-- No bit of a sprite that wraps is lost. -/
theorem length_cells_wrap (height : Nat) :
    (cells .wrap bit left top height).length =
      ∑ row ∈ Finset.range height, ∑ column ∈ Finset.range Sprite.width,
        (bit row column).toNat := by
  induction height with
  | zero => rfl
  | succ height inductionHypothesis =>
      rw [Finset.sum_range_succ, ← inductionHypothesis, ← length_row_wrap bit left top, cells,
        cells, List.range_succ, List.flatMap_append, List.length_append, List.flatMap_singleton]

end Plot

namespace Byte

theorem cpopNatRec_eq_sum (byte : Byte) (places : Nat) :
    byte.cpopNatRec places 0 = ∑ place ∈ Finset.range places, (byte.getLsbD place).toNat := by
  induction places with
  | zero => rfl
  | succ places inductionHypothesis =>
      rw [BitVec.cpopNatRec_succ, BitVec.cpopNatRec_eq, inductionHypothesis,
        Finset.sum_range_succ, Nat.zero_add]

theorem toNat_cpop_eq_sum (byte : Byte) :
    byte.cpop.toNat = ∑ place ∈ Finset.range 8, (byte.getLsbD place).toNat := by
  rw [BitVec.toNat_cpop, cpopNatRec_eq_sum]

end Byte

namespace Machine

/-- The upper left corner of a sprite, on the screen whatever the registers hold. -/
def corner (machine : Machine) (x y : Nibble) : Column × Row :=
  (BitVec.ofNat 6 ((machine.registers.get x).toNat % Screen.width),
    BitVec.ofNat 5 ((machine.registers.get y).toNat % Screen.height))

section Mask

variable (machine : Machine) (x y height : Nibble)

theorem corner_eq :
    machine.corner x y =
      ((machine.registers.get x).setWidth 6, (machine.registers.get y).setWidth 5) := by
  rw [corner, Prod.mk.injEq]
  constructor
  · apply BitVec.eq_of_toNat_eq
    simp [Screen.width]
  · apply BitVec.eq_of_toNat_eq
    simp [Screen.height]

theorem spriteMask_eq :
    machine.spriteMask x y height =
      Sprite.mask machine.wrapMode (machine.memory.readBlock machine.index.address height.toNat)
        (machine.corner x y).1 (machine.corner x y).2 := by
  rw [corner_eq, spriteMask]

theorem sum_spriteBit (row : Nat) :
    ∑ column ∈ Finset.range Sprite.width, (machine.spriteBit row column).toNat =
      (machine.memory.read (machine.index.offsetAddress row)).cpop.toNat := by
  rw [Byte.toNat_cpop_eq_sum]
  exact Finset.sum_range_reflect
    (fun place => ((machine.memory.read (machine.index.offsetAddress row)).getLsbD place).toNat) 8

theorem pixels_spriteMask :
    (machine.spriteMask x y height).pixels = (machine.spriteCells x y height).toFinset := by
  ext ⟨column, row⟩
  rw [Screen.mem_pixels, List.mem_toFinset, lit_spriteMask_iff]

/-- Every bit has a pixel of its own. -/
theorem card_pixels_spriteMask (wraps : machine.wrapMode = .wrap) :
    (machine.spriteMask x y height).pixels.card =
      ∑ row ∈ Finset.range height.toNat,
        (machine.memory.read (machine.index.offsetAddress row)).cpop.toNat := by
  rw [pixels_spriteMask, List.toFinset_card_of_nodup (machine.nodup_spriteCells x y height),
    spriteCells, wraps, Plot.length_cells_wrap]
  exact Finset.sum_congr rfl fun row _ => machine.sum_spriteBit row

end Mask

/-- In wrap mode the mask of a draw has as many pixels as the rows of the sprite have
set bits. In clip mode it has those of them that lie right of and below the corner.
With other registers the mask in wrap mode is the same one, moved around the screen
from the old corner to the new one. -/
theorem spriteMask_geometry (machine : Machine) (x y height : Nibble) :
    ((machine.withWrapMode .wrap).spriteMask x y height).pixels.card =
        ∑ row ∈ Finset.range height.toNat,
          (machine.memory.read (machine.index.offsetAddress row)).cpop.toNat ∧
      (∀ column row,
        ((machine.withWrapMode .clip).spriteMask x y height).lit column row = true ↔
          ((machine.withWrapMode .wrap).spriteMask x y height).lit column row = true ∧
            (machine.corner x y).1 ≤ column ∧ (machine.corner x y).2 ≤ row) ∧
      ∀ registers : Registers, ∀ column row,
        ({ machine.withWrapMode .wrap with registers }.spriteMask x y height).lit
            (column + (({ machine with registers }.corner x y).1 - (machine.corner x y).1))
            (row + (({ machine with registers }.corner x y).2 - (machine.corner x y).2)) =
          ((machine.withWrapMode .wrap).spriteMask x y height).lit column row := by
  refine ⟨(machine.withWrapMode .wrap).card_pixels_spriteMask x y height rfl, ?_, ?_⟩
  · intro column row
    rw [spriteMask_eq, spriteMask_eq]
    exact Sprite.lit_mask_clip_iff ..
  · intro registers column row
    rw [spriteMask_eq, spriteMask_eq]
    exact Sprite.lit_mask_translate ..

end Machine

end Chip8
