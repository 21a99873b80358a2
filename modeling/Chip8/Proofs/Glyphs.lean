import Chip8.Proofs.Footprint
import Chip8.Proofs.Loading
import Chip8.Proofs.Redrawing

/-!
# Drawing digits of the built-in font

A load puts the font into memory, and there it stays as long as no store goes to its cells.
Pointing the index at a digit and drawing five rows from there then flips the pixels of that
digit's glyph, wherever its corner is and whatever ran before.
-/

namespace Chip8

/-! ## The font in memory -/

/-- The cells of the font hold what they held at power-on. -/
def Memory.HoldsFont (memory : Memory) : Prop :=
  ∀ address : Address, address.toNat ≤ 0x4F →
    memory.read address = Font.bytes.getD address.toNat 0

theorem Memory.holdsFont_loaded {program : List Byte} (fits : program.length ≤ 3584) :
    (loaded program).HoldsFont := by
  intro address low
  rw [read_loaded_below fits (by omega), read_font, List.getD_eq_getElem?_getD]

namespace Machine

theorem load?_eq_ok_iff {machine loaded : Machine} {program : List Byte} :
    machine.load? program = .ok loaded ↔
      program.length ≤ 3584 ∧ machine.switchedOn (.loaded program) = loaded := by
  by_cases fits : program.length ≤ 3584
  · rw [machine.load?_of_fits fits, Except.ok.injEq]
    exact (and_iff_right fits).symm
  · rw [machine.load?_of_overrun (by omega)]
    simp [fits]

/-- To how many cells, from the index on, the next cycle stores. -/
def storeWidth (machine : Machine) : Nat :=
  match machine.instruction? with
  | some (.storeDigits _) => 3
  | some (.storeRegisters x) => x.toNat + 1
  | _ => 0

/-- The next cycle stores to no cell of the font. -/
def SparesFont (machine : Machine) : Prop :=
  ∀ offset < machine.storeWidth, 0x4F < (machine.index.offsetAddress offset).toNat

instance (machine : Machine) : Decidable machine.SparesFont :=
  inferInstanceAs (Decidable (∀ offset < _, _))

theorem SparesFont.beyond {machine : Machine} (spares : machine.SparesFont) {address : Address}
    {byte : Byte} (stored : machine.Stores address byte) : 0x4F < address.toNat := by
  cases stored with
  | digit fetched bound =>
      have width : machine.storeWidth = 3 := by rw [storeWidth, fetched]
      exact spares _ (by omega)
  | @register x name fetched within =>
      have width : machine.storeWidth = x.toNat + 1 := by rw [storeWidth, fetched]
      have low := BitVec.le_def.mp within
      exact spares _ (by omega)

theorem holdsFont_step {machine : Machine} (held : machine.memory.HoldsFont)
    (spares : machine.SparesFont) : machine.step.memory.HoldsFont := by
  intro address low
  have spared (byte : Byte) : ¬machine.Stores address byte := fun stored =>
    Nat.not_lt.mpr low (spares.beyond stored)
  rw [read_step_of_not_stores spared]
  exact held address low

/-- A machine of a run from a load on, whose stores have all spared the font. The keys may
have been changed between the cycles. -/
inductive RanBesideFont : Machine → Prop where
  | loaded {machine loaded : Machine} {program : List Byte} :
      machine.load? program = .ok loaded → RanBesideFont loaded
  | stepped {machine : Machine} :
      RanBesideFont machine → machine.SparesFont → RanBesideFont machine.step
  | keyed {machine : Machine} (keypad : Keypad) :
      RanBesideFont machine → RanBesideFont { machine with keypad }

theorem RanBesideFont.holdsFont {machine : Machine} (ran : machine.RanBesideFont) :
    machine.memory.HoldsFont := by
  induction ran with
  | loaded accepted =>
      obtain ⟨fits, rfl⟩ := load?_eq_ok_iff.mp accepted
      exact Memory.holdsFont_loaded fits
  | stepped _ spares inductionHypothesis => exact holdsFont_step inductionHypothesis spares
  | keyed _ _ inductionHypothesis => exact inductionHypothesis

theorem RanBesideFont.run {machine : Machine} (ran : machine.RanBesideFont) {cycles : Nat}
    (spares : ∀ cycle < cycles, (machine.run cycle).SparesFont) :
    (machine.run cycles).RanBesideFont := by
  induction cycles with
  | zero => exact ran
  | succ cycles inductionHypothesis =>
      rw [run_succ_last]
      exact .stepped (inductionHypothesis fun cycle bound => spares cycle (by omega))
        (spares cycles (by omega))

end Machine

/-! ## Glyphs -/

namespace Font

/-- A bit of a digit's glyph, by row and column. -/
def glyphBit (digit row column : Nat) : Bool :=
  (bytes.getD (5 * digit + row) 0).getLsbD (7 - column)

theorem getD_bytes_and (place : Nat) : bytes.getD place 0 &&& 0x0F = 0 := by
  have blank : ∀ byte ∈ bytes, byte &&& 0x0F = 0 := by decide
  rw [List.getD_eq_getElem?_getD]
  cases found : bytes[place]? with
  | none => rfl
  | some byte => exact blank byte (List.mem_of_getElem? found)

/-- The right half of a glyph is blank. -/
theorem column_lt_of_glyphBit {digit row column : Nat}
    (drawn : glyphBit digit row column = true) : column < 4 := by
  have right : ∀ place < 4, (0x0F : Byte).getLsbD place = true := by decide
  apply Nat.lt_of_not_le
  intro past
  have blank := congrArg (·.getLsbD (7 - column)) (getD_bytes_and (5 * digit + row))
  rw [glyphBit] at drawn
  simp only [BitVec.getLsbD_and, drawn, right (7 - column) (by omega)] at blank
  simp at blank

theorem toNat_glyph (value : Byte) : (glyph value).toNat = 5 * value.toNat := by
  have bound := value.isLt
  simp [glyph, start, glyphSize]
  omega

/-- Every row of a glyph has its own cell. -/
theorem toNat_offsetAddress_glyph {value : Byte} {row : Nat} (isDigit : value.toNat ≤ 15)
    (inRows : row < 5) :
    ((glyph value).offsetAddress row).toNat = 5 * value.toNat + row := by
  simp only [Word.offsetAddress, Word.address, BitVec.toNat_setWidth, BitVec.toNat_add,
    BitVec.toNat_ofNat, toNat_glyph]
  omega

end Font

theorem Plot.cells_congr {mode : WrapMode} {bit other : Nat → Nat → Bool}
    {left top height : Nat} (same : ∀ row < height, bit row = other row) :
    cells mode bit left top height = cells mode other left top height := by
  refine List.flatMap_congr fun row inRows => ?_
  rw [same row (List.mem_range.mp inRows)]

namespace Machine

section Cells

variable (machine : Machine) (x y height : Nibble)

theorem lit_drawn_ne_iff (column : Column) (row : Row) :
    (machine.drawn x y height).screen.lit column row ≠ machine.screen.lit column row ↔
      (column, row) ∈ machine.spriteCells x y height := by
  rw [← lit_spriteMask_iff, drawn_eq, Screen.lit_flip]
  cases machine.screen.lit column row <;> cases (machine.spriteMask x y height).lit column row <;>
    decide

theorem flag_drawn_eq :
    (machine.drawn x y height).registers.get Registers.flag =
      if ∃ pixel ∈ machine.spriteCells x y height, machine.screen.lit pixel.1 pixel.2 = true
      then 1 else 0 := by
  have met : machine.screen.meets (machine.spriteMask x y height) = true ↔
      ∃ pixel ∈ machine.spriteCells x y height,
        machine.screen.lit pixel.1 pixel.2 = true := by
    simp only [Screen.meets_eq_true_iff, lit_spriteMask_iff, Prod.exists, and_comm]
  rw [drawn_eq, Registers.get_set, if_pos rfl, ArithmeticOp.flag]
  simp only [met]

end Cells

/-- The pixels to which the set bits of a digit's glyph go, from a corner that two registers
name. -/
def glyphCells (machine : Machine) (digit : Nat) (a b : Nibble) : List (Column × Row) :=
  Plot.cells machine.wrapMode (Font.glyphBit digit)
    ((machine.registers.get a).toNat % Screen.width)
    ((machine.registers.get b).toNat % Screen.height) 5

/-- The machine after the two words that draw the digit in a register. -/
def glyphDrawn (machine : Machine) (x a b : Nibble) : Machine :=
  (machine.execute (.withByte 0xF x 0x29)).drawn a b 5

section Glyph

variable (machine : Machine) {x : Nibble} (a b : Nibble)

theorem execute_pointGlyph (x : Nibble) :
    machine.execute (.withByte 0xF x 0x29) =
      { machine with
        pc := machine.pc + next
        index := Font.glyph (machine.registers.get x) } :=
  machine.execute_encode (.pointGlyph x)

theorem spriteBit_execute_pointGlyph (held : machine.memory.HoldsFont)
    (isDigit : (machine.registers.get x).toNat ≤ 15) {row : Nat} (inRows : row < 5) :
    (machine.execute (.withByte 0xF x 0x29)).spriteBit row =
      Font.glyphBit (machine.registers.get x).toNat row := by
  have place := Font.toNat_offsetAddress_glyph isDigit inRows
  have cell := held ((Font.glyph (machine.registers.get x)).offsetAddress row) (by omega)
  rw [place] at cell
  funext column
  rw [execute_pointGlyph]
  exact congrArg (·.getLsbD (7 - column)) cell

theorem spriteCells_execute_pointGlyph (held : machine.memory.HoldsFont)
    (isDigit : (machine.registers.get x).toNat ≤ 15) :
    (machine.execute (.withByte 0xF x 0x29)).spriteCells a b 5 =
      machine.glyphCells (machine.registers.get x).toNat a b := by
  have bits (row : Nat) (inRows : row < 5) :
      (machine.execute (.withByte 0xF x 0x29)).spriteBit row =
        Font.glyphBit (machine.registers.get x).toNat row :=
    machine.spriteBit_execute_pointGlyph held isDigit inRows
  rw [spriteCells, show (5 : Nibble).toNat = 5 from rfl, Plot.cells_congr bits,
    execute_pointGlyph]
  rfl

theorem within_of_mem_glyphCells {digit : Nat} {column : Column} {row : Row}
    (member : (column, row) ∈ machine.glyphCells digit a b) :
    (column - (machine.corner a b).1).toNat < 4 ∧
      (row - (machine.corner a b).2).toNat < 5 := by
  have left : (machine.registers.get a).toNat % Screen.width = (machine.corner a b).1.toNat := by
    simp [corner, Screen.width]
  have top : (machine.registers.get b).toNat % Screen.height = (machine.corner a b).2.toNat := by
    simp [corner, Screen.height]
  rw [glyphCells, left, top, Plot.mem_cells_iff (by decide)] at member
  obtain ⟨-, inRows, -, drawn⟩ := member
  exact ⟨Font.column_lt_of_glyphBit drawn, inRows⟩

end Glyph

/-- After a run from a load on whose stores spared the font, pointing the index at the digit in
a register and drawing five rows flips the pixels of that digit's glyph and no others. They
lie in the four columns and five rows from the corner on, and the flag is raised if one of
them was lit and cleared if none was. -/
theorem digit_drawn_after_run (machine : Machine) (x a b : Nibble) (ran : machine.RanBesideFont)
    (isDigit : (machine.registers.get x).toNat ≤ 15) :
    (∀ column row,
      (machine.glyphDrawn x a b).screen.lit column row ≠ machine.screen.lit column row ↔
        (column, row) ∈ machine.glyphCells (machine.registers.get x).toNat a b) ∧
      (∀ column row,
        (machine.glyphDrawn x a b).screen.lit column row ≠ machine.screen.lit column row →
          (column - (machine.corner a b).1).toNat < 4 ∧
            (row - (machine.corner a b).2).toNat < 5) ∧
      (machine.glyphDrawn x a b).registers.get Registers.flag =
        if ∃ pixel ∈ machine.glyphCells (machine.registers.get x).toNat a b,
          machine.screen.lit pixel.1 pixel.2 = true then 1 else 0 := by
  have cells := machine.spriteCells_execute_pointGlyph a b ran.holdsFont isDigit
  have same : (machine.execute (.withByte 0xF x 0x29)).screen = machine.screen := by
    rw [execute_pointGlyph]
  have flips (column : Column) (row : Row) :
      (machine.glyphDrawn x a b).screen.lit column row ≠ machine.screen.lit column row ↔
        (column, row) ∈ machine.glyphCells (machine.registers.get x).toNat a b := by
    rw [glyphDrawn, ← same, ← cells]
    exact lit_drawn_ne_iff _ a b 5 column row
  refine ⟨flips, ?_, ?_⟩
  · intro column row changed
    exact machine.within_of_mem_glyphCells a b ((flips column row).mp changed)
  · rw [glyphDrawn, flag_drawn_eq, cells, same]

/-- A program that stores three registers right behind the font and then draws a digit at the
lower right corner of the screen. -/
def typingProgram : List Byte :=
  [0x60, 0x0B, 0x61, 0x3E, 0x62, 0x1E, 0xA0, 0x50, 0xF2, 0x55, 0xF0, 0x29, 0xD1, 0x25]

def typing : Machine := (holding []).switchedOn (.loaded typingProgram)

/-- The program has run, and a key has been pressed since. -/
def typed : Machine := { typing.run 7 with keypad := Keypad.allUp.set 3 true }

/-- Drawn once more, the digit takes back what the program drew. -/
theorem typed_digit_drawn :
    typed.RanBesideFont ∧ (typed.registers.get 0).toNat ≤ 15 ∧
      (typed.glyphDrawn 0 1 2).screen.lit 0 0 ≠ typed.screen.lit 0 0 ∧
      (typed.glyphDrawn 0 1 2).registers.get Registers.flag = 1 := by
  have accepted : (holding []).load? typingProgram = .ok typing :=
    load?_of_fits _ (by decide)
  have spares : ∀ cycle < 7, (typing.run cycle).SparesFont := by decide +kernel
  have ran : typed.RanBesideFont := .keyed _ (RanBesideFont.run (.loaded accepted) spares)
  have state : (typed.registers.get 0).toNat ≤ 15 ∧
      (0, 0) ∈ typed.glyphCells (typed.registers.get 0).toNat 1 2 ∧
      typed.screen.lit 0 0 = true := by
    decide +kernel
  obtain ⟨isDigit, drawn, lit⟩ := state
  obtain ⟨flips, -, flag⟩ := digit_drawn_after_run typed 0 1 2 ran isDigit
  refine ⟨ran, isDigit, (flips 0 0).mpr drawn, ?_⟩
  rw [flag, if_pos ⟨(0, 0), drawn, lit⟩]

end Machine

end Chip8
