import Chip8.Proofs.Configuration
import Chip8.Proofs.Provenance
import Mathlib.Data.List.Nodup

/-!
# Drawing pixel by pixel

A sprite can be drawn one pixel after another: row by row, each from left to right,
a set bit flips its pixel, and to flip a pixel that is lit is a collision. The
machine flips the pixels of a mask all at once. Both come to the same, because no
two bits of a sprite go to the same pixel.
-/

namespace Chip8

/-- A screen while it is drawn on, and whether a lit pixel has been flipped. -/
structure Plot where
  lit : Column → Row → Bool
  collided : Bool

namespace Plot

def toggle (plot : Plot) (pixel : Column × Row) : Plot where
  lit column row := plot.lit column row ^^ decide ((column, row) = pixel)
  collided := plot.collided || plot.lit pixel.1 pixel.2

/-- Flip a pixel unless it is cut off. -/
def toggle? (plot : Plot) : Option (Column × Row) → Plot
  | none => plot
  | some pixel => plot.toggle pixel

/-- The pixel at a distance from the screen's upper left corner: around the screen in
wrap mode, cut off past an edge in clip mode. -/
def pixel? (mode : WrapMode) (right down : Nat) : Option (Column × Row) :=
  match mode with
  | .wrap => some (BitVec.ofNat 6 (right % Screen.width), BitVec.ofNat 5 (down % Screen.height))
  | .clip =>
      if right < Screen.width ∧ down < Screen.height then
        some (BitVec.ofNat 6 right, BitVec.ofNat 5 down)
      else none

/-- Draw a sprite whose upper left corner is at a distance from the screen's. Bits are
named by row and column. -/
def sprite (mode : WrapMode) (bit : Nat → Nat → Bool) (left top height : Nat) (plot : Plot) :
    Plot :=
  (List.range height).foldl (fun plot row =>
    (List.range Sprite.width).foldl (fun plot column =>
      if bit row column then plot.toggle? (pixel? mode (left + column) (top + row))
      else plot) plot) plot

/-! ## One pass over distinct pixels -/

theorem lit_foldl_toggle {pixels : List (Column × Row)} (distinct : pixels.Nodup) (plot : Plot)
    (x : Column) (y : Row) :
    (pixels.foldl toggle plot).lit x y = (plot.lit x y ^^ decide ((x, y) ∈ pixels)) := by
  induction pixels generalizing plot with
  | nil => simp
  | cons pixel rest inductionHypothesis =>
      obtain ⟨fresh, distinct⟩ := List.nodup_cons.mp distinct
      rw [List.foldl_cons, inductionHypothesis distinct, toggle]
      by_cases here : (x, y) = pixel
      · subst here
        simp [fresh]
      · simp [here]

/-- A pixel that is flipped once is met as it was at the start. -/
theorem collided_foldl_toggle {pixels : List (Column × Row)} (distinct : pixels.Nodup)
    (plot : Plot) :
    (pixels.foldl toggle plot).collided = true ↔
      plot.collided = true ∨ ∃ pixel ∈ pixels, plot.lit pixel.1 pixel.2 = true := by
  induction pixels generalizing plot with
  | nil => simp
  | cons pixel rest inductionHypothesis =>
      obtain ⟨fresh, distinct⟩ := List.nodup_cons.mp distinct
      have unmoved : ∀ other ∈ rest,
          (plot.toggle pixel).lit other.1 other.2 = plot.lit other.1 other.2 := by
        intro other member
        have apart : other ≠ pixel := ne_of_mem_of_not_mem member fresh
        simp [toggle, apart]
      have later : (∃ other ∈ rest, (plot.toggle pixel).lit other.1 other.2 = true) ↔
          ∃ other ∈ rest, plot.lit other.1 other.2 = true :=
        exists_congr fun other => and_congr_right fun member => by rw [unmoved other member]
      rw [List.foldl_cons, inductionHypothesis distinct, later, List.exists_mem_cons_iff,
        ← or_assoc, toggle, Bool.or_eq_true]

/-! ## The pixels of a sprite -/

/-- The pixels that drawing a sprite flips, in order. -/
def cells (mode : WrapMode) (bit : Nat → Nat → Bool) (left top height : Nat) :
    List (Column × Row) :=
  (List.range height).flatMap fun row =>
    (List.range Sprite.width).filterMap fun column =>
      if bit row column then pixel? mode (left + column) (top + row) else none

theorem sprite_eq_foldl (mode : WrapMode) (bit : Nat → Nat → Bool) (left top height : Nat)
    (plot : Plot) :
    plot.sprite mode bit left top height = (cells mode bit left top height).foldl toggle plot := by
  rw [sprite, cells, List.foldl_flatMap]
  congr
  funext plot row
  rw [List.foldl_filterMap]
  congr
  funext plot column
  by_cases drawn : bit row column = true
  · rw [if_pos drawn, if_pos drawn]
    cases pixel? mode (left + column) (top + row) <;> rfl
  · rw [if_neg drawn, if_neg drawn]

section Cells

variable {mode : WrapMode} {bit : Nat → Nat → Bool} {left x : Column} {top y : Row}

/-- Which bit goes to a pixel is read off its distance from the sprite's corner. -/
theorem pixel?_eq_some_iff {column row : Nat} (inColumns : column < 64) (inRows : row < 32) :
    pixel? mode (left.toNat + column) (top.toNat + row) = some (x, y) ↔
      Sprite.keeps mode left top x y = true ∧
        column = (x - left).toNat ∧ row = (y - top).toNat := by
  have leftBound := left.isLt
  have topBound := top.isLt
  have xBound := x.isLt
  have yBound := y.isLt
  cases mode with
  | wrap =>
      simp only [pixel?, Sprite.keeps, Option.some.injEq, Prod.mk.injEq, true_and,
        BitVec.toNat_sub, ← BitVec.toNat_inj, BitVec.toNat_ofNat, Screen.width, Screen.height]
      omega
  | clip =>
      rw [pixel?, Option.ite_none_right_eq_some]
      simp only [Sprite.keeps, Option.some.injEq, Prod.mk.injEq, Bool.and_eq_true,
        decide_eq_true_eq, BitVec.le_def, BitVec.toNat_sub, ← BitVec.toNat_inj,
        BitVec.toNat_ofNat, Screen.width, Screen.height]
      omega

theorem mem_cells_iff {height : Nat} (low : height < 32) :
    (x, y) ∈ cells mode bit left.toNat top.toNat height ↔
      Sprite.keeps mode left top x y = true ∧ (y - top).toNat < height ∧
        (x - left).toNat < Sprite.width ∧ bit (y - top).toNat (x - left).toNat = true := by
  simp only [cells, List.mem_flatMap, List.mem_range, List.mem_filterMap,
    Option.ite_none_right_eq_some]
  constructor
  · rintro ⟨row, inRows, column, inColumns, drawn, found⟩
    rw [Sprite.width] at inColumns
    obtain ⟨kept, rfl, rfl⟩ :=
      (pixel?_eq_some_iff (by omega) (by omega)).mp found
    exact ⟨kept, inRows, inColumns, drawn⟩
  · rintro ⟨kept, inRows, inColumns, drawn⟩
    refine ⟨_, inRows, _, inColumns, drawn, ?_⟩
    rw [Sprite.width] at inColumns
    exact (pixel?_eq_some_iff (by omega) (by omega)).mpr ⟨kept, rfl, rfl⟩

theorem nodup_cells {height : Nat} (low : height < 32) :
    (cells mode bit left.toNat top.toNat height).Nodup := by
  -- Both coordinates of a bit can be read off its pixel, so neither a row nor a column
  -- meets another one.
  have placed {row column : Nat} {pixel : Column × Row} (inRows : row ∈ List.range height)
      (inColumns : column ∈ List.range Sprite.width)
      (found : (if bit row column then
        pixel? mode (left.toNat + column) (top.toNat + row) else none) = some pixel) :
      column = (pixel.1 - left).toNat ∧ row = (pixel.2 - top).toNat := by
    rw [List.mem_range] at inRows inColumns
    rw [Sprite.width] at inColumns
    rw [Option.ite_none_right_eq_some] at found
    exact ((pixel?_eq_some_iff (by omega) (by omega)).mp found.2).2
  rw [cells, List.nodup_flatMap]
  constructor
  · intro row inRows
    rw [List.Nodup, List.pairwise_filterMap]
    apply List.Pairwise.imp_of_mem ?_ List.nodup_range
    rintro column other inColumns alsoInColumns apart pixel drawn _ alsoDrawn rfl
    apply apart
    rw [(placed inRows inColumns drawn).1, (placed inRows alsoInColumns alsoDrawn).1]
  · apply List.Pairwise.imp_of_mem ?_ List.nodup_range
    intro row other inRows alsoInRows apart
    refine List.disjoint_left.mpr ?_
    intro pixel found alsoFound
    obtain ⟨column, inColumns, drawn⟩ := List.mem_filterMap.mp found
    obtain ⟨next, alsoInColumns, alsoDrawn⟩ := List.mem_filterMap.mp alsoFound
    apply apart
    rw [(placed inRows inColumns drawn).2, (placed alsoInRows alsoInColumns alsoDrawn).2]

end Cells

end Plot

/-! ## Drawing -/

theorem Word.offsetAddress_eq_add (index : Word) (offset : Nat) :
    index.offsetAddress offset = index.address + BitVec.ofNat 12 offset := by
  rw [offsetAddress, address, address, BitVec.setWidth_add _ _ (by decide),
    BitVec.setWidth_ofNat_of_le (by decide)]

theorem Memory.getD_readBlock (memory : Memory) (index : Word) {count offset : Nat}
    (within : offset < count) :
    (memory.readBlock index.address count).getD offset 0 =
      memory.read (index.offsetAddress offset) := by
  rw [Word.offsetAddress_eq_add, readBlock, List.getD_eq_getElem?_getD, List.getElem?_map,
    List.getElem?_range within]
  rfl

namespace Machine

/-- A bit of the sprite at the index, by row and column. -/
def spriteBit (machine : Machine) (row column : Nat) : Bool :=
  (machine.memory.read (machine.index.offsetAddress row)).getLsbD (7 - column)

/-- The sprite of a draw plotted pixel by pixel, from operands that are read first. -/
def plotSprite (machine : Machine) (x y height : Nibble) : Plot :=
  Plot.sprite machine.wrapMode machine.spriteBit
    ((machine.registers.get x).toNat % Screen.width)
    ((machine.registers.get y).toNat % Screen.height) height.toNat
    { lit := machine.screen.lit, collided := false }

def spriteCells (machine : Machine) (x y height : Nibble) : List (Column × Row) :=
  Plot.cells machine.wrapMode machine.spriteBit
    ((machine.registers.get x).toNat % Screen.width)
    ((machine.registers.get y).toNat % Screen.height) height.toNat

variable (machine : Machine) (x y height : Nibble)

theorem spriteCells_eq :
    machine.spriteCells x y height =
      Plot.cells machine.wrapMode machine.spriteBit
        ((machine.registers.get x).setWidth 6).toNat
        ((machine.registers.get y).setWidth 5).toNat height.toNat := by
  simp [spriteCells, Screen.width, Screen.height]

theorem nodup_spriteCells : (machine.spriteCells x y height).Nodup := by
  have low := height.toNat_lt
  rw [spriteCells_eq]
  exact Plot.nodup_cells (by omega)

/-- The pixels of the mask are the pixels that bits of the sprite go to. -/
theorem lit_spriteMask_iff (column : Column) (row : Row) :
    (machine.spriteMask x y height).lit column row = true ↔
      (column, row) ∈ machine.spriteCells x y height := by
  have low := height.toNat_lt
  rw [spriteCells_eq, Plot.mem_cells_iff (by omega), spriteMask, Sprite.lit_mask,
    Bool.and_eq_true]
  generalize (machine.registers.get x).setWidth 6 = left
  generalize (machine.registers.get y).setWidth 5 = top
  generalize (row - top).toNat = down
  generalize (column - left).toNat = right
  refine and_congr_right fun kept => ?_
  by_cases within : down < height.toNat
  · rw [Memory.getD_readBlock _ _ within, spriteBit, BitVec.getMsbD_eq_getLsbD]
    simp [within, Sprite.width]
  · simp [within, Memory.readBlock]

/-- Drawing a sprite at once leaves the screen and the flag that drawing it pixel by
pixel leaves, and no other register changes. -/
theorem execute_draw_by_pixels (machine : Machine) (x y height : Nibble) :
    (∀ column row,
      (machine.execute (.withNibbles 0xD x y height)).screen.lit column row =
        (machine.plotSprite x y height).lit column row) ∧
      ∀ name, (machine.execute (.withNibbles 0xD x y height)).registers.get name =
        if name = Registers.flag then
          if (machine.plotSprite x y height).collided then 1 else 0
        else machine.registers.get name := by
  have drawn : machine.execute (.withNibbles 0xD x y height) =
      machine.perform (.draw x y height) :=
    machine.execute_encode (.draw x y height)
  have plotted : machine.plotSprite x y height =
      (machine.spriteCells x y height).foldl Plot.toggle
        { lit := machine.screen.lit, collided := false } :=
    Plot.sprite_eq_foldl ..
  have distinct := machine.nodup_spriteCells x y height
  rw [drawn, perform_draw, plotted]
  constructor
  · intro column row
    rw [Plot.lit_foldl_toggle distinct, Screen.lit_flip, Bool.eq_iff_iff.mpr
      ((machine.lit_spriteMask_iff x y height column row).trans decide_eq_true_iff.symm)]
  · intro name
    have collided : (machine.screen.meets (machine.spriteMask x y height)) =
        ((machine.spriteCells x y height).foldl Plot.toggle
          { lit := machine.screen.lit, collided := false }).collided := by
      rw [Bool.eq_iff_iff, Screen.meets_eq_true_iff, Plot.collided_foldl_toggle distinct]
      simp only [lit_spriteMask_iff, Prod.exists, Bool.false_eq_true, false_or]
      exact exists_congr fun column => exists_congr fun row => and_comm
    simp only [Registers.get_set, collided, ArithmeticOp.flag]

end Machine

end Chip8
