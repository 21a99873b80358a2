import Chip8.Proofs.Cycle
import Mathlib.Algebra.Ring.Parity

/-!
# What the screen shows

A clear darkens every pixel and a draw flips the pixels of its mask, so a pixel
shows the parity of the draws that covered it since the last clear. The cycles
that may change the screen are the ones that ask for it to be drawn anew.
-/

namespace Chip8.Machine

/-! ## One cycle -/

theorem instruction?_eq_clearScreen_iff (machine : Machine) :
    machine.instruction? = some .clearScreen ↔ machine.fetch = 0x00E0 := by
  rw [instruction?, Instruction.decode_eq_some_iff]
  exact eq_comm

theorem exists_draw_iff (machine : Machine) :
    (∃ x y height, machine.instruction? = some (.draw x y height)) ↔
      machine.fetch.family = 0xD := by
  simp only [instruction?, Instruction.decode_eq_some_iff, Instruction.encode]
  constructor
  · rintro ⟨x, y, height, layout⟩
    rw [← layout, Word.family_withNibbles]
  · intro family
    refine ⟨machine.fetch.x, machine.fetch.y, machine.fetch.n, ?_⟩
    rw [← family]
    exact machine.fetch.withNibbles_fields

/-- Whether the next cycle draws a sprite that covers a pixel. -/
def covers (machine : Machine) (x : Column) (y : Row) : Bool :=
  match machine.instruction? with
  | some (.draw left top height) => (machine.spriteMask left top height).lit x y
  | _ => false

section Step

variable {machine : Machine}

theorem screen_step_of_clear (cleared : machine.instruction? = some .clearScreen) :
    machine.step.screen = .dark := by
  rw [screen_step, cleared]

theorem lit_step (kept : machine.instruction? ≠ some .clearScreen) (x : Column) (y : Row) :
    machine.step.screen.lit x y = (machine.screen.lit x y ^^ machine.covers x y) := by
  rw [screen_step, covers]
  cases fetched : machine.instruction? with
  | none => simp
  | some instruction =>
      cases instruction with
      | clearScreen => exact absurd fetched kept
      | draw left top height => exact Screen.lit_flip _ _ x y
      | _ => simp

theorem redraw_step_iff :
    machine.step.redraw = true ↔
      machine.instruction? = some .clearScreen ∨
        ∃ x y height, machine.instruction? = some (.draw x y height) := by
  rw [redraw_step]
  cases machine.instruction? with
  | none => simp
  | some instruction => cases instruction <;> simp

theorem redraw_step_of_screen_ne (changed : machine.step.screen ≠ machine.screen) :
    machine.step.redraw = true := by
  rw [screen_step] at changed
  rw [redraw_step]
  split at changed
  next cleared => rfl
  next drawn => rfl
  next => exact absurd rfl changed

end Step

/-! ## Runs -/

/-- How many cycles of a run, from a first one up to a last one that is not counted,
draw a sprite that covers a pixel. -/
def flips (machine : Machine) (x : Column) (y : Row) (first cycles : Nat) : Nat :=
  (List.range cycles).countP fun cycle => first ≤ cycle && (machine.run cycle).covers x y

section Run

variable (machine : Machine) (x : Column) (y : Row) {first cycles : Nat}

theorem flips_self : machine.flips x y first first = 0 := by
  rw [flips, List.countP_eq_zero]
  intro cycle member
  have early := List.mem_range.mp member
  simp [Nat.not_le.mpr early]

theorem flips_succ (later : first ≤ cycles) :
    machine.flips x y first (cycles + 1) =
      machine.flips x y first cycles + if (machine.run cycles).covers x y then 1 else 0 := by
  simp [flips, List.range_succ, later]

theorem odd_flips_succ (later : first ≤ cycles) :
    decide (Odd (machine.flips x y first (cycles + 1))) =
      (decide (Odd (machine.flips x y first cycles)) ^^ (machine.run cycles).covers x y) := by
  rw [flips_succ machine x y later]
  cases (machine.run cycles).covers x y with
  | false => simp
  | true => simp only [↓reduceIte, Nat.odd_add_one, decide_not, Bool.xor_true]

/-- As long as nothing clears the screen, each draw that covers a pixel flips it. -/
theorem lit_run_of_not_cleared (later : first ≤ cycles)
    (kept : ∀ cycle < cycles, first ≤ cycle →
      (machine.run cycle).instruction? ≠ some .clearScreen) :
    (machine.run cycles).screen.lit x y =
      ((machine.run first).screen.lit x y ^^ decide (Odd (machine.flips x y first cycles))) := by
  induction cycles, later using Nat.le_induction with
  | base => simp [flips_self]
  | succ cycles later inductionHypothesis =>
      have earlier := inductionHypothesis fun cycle bound => kept cycle (by omega)
      rw [run_succ_last, lit_step (kept cycles (by omega) later), earlier,
        odd_flips_succ machine x y later, Bool.xor_assoc]

end Run

/-- After a run, a pixel is lit exactly when the draws over it since the last clear
are odd in number; without a clear they count from what the pixel was. Every cycle
that changes the screen asks for it to be drawn anew, and the cycles that ask are
those of a clear or a draw. -/
theorem pixel_parity_of_run (machine : Machine) (cycles : Nat) (x : Column) (y : Row) :
    (∀ last < cycles, (machine.run last).instruction? = some .clearScreen →
        (∀ cycle < cycles, last < cycle →
          (machine.run cycle).instruction? ≠ some .clearScreen) →
        ((machine.run cycles).screen.lit x y = true ↔
          Odd (machine.flips x y (last + 1) cycles))) ∧
      ((∀ cycle < cycles, (machine.run cycle).instruction? ≠ some .clearScreen) →
        (machine.run cycles).screen.lit x y =
          (machine.screen.lit x y ^^ decide (Odd (machine.flips x y 0 cycles)))) ∧
      (machine.step.screen ≠ machine.screen → machine.step.redraw = true) ∧
      (machine.step.redraw = true ↔
        machine.fetch = 0x00E0 ∨ machine.fetch.family = 0xD) := by
  refine ⟨?_, ?_, redraw_step_of_screen_ne, ?_⟩
  · intro last bound cleared kept
    have parity := machine.lit_run_of_not_cleared x y (Nat.succ_le_of_lt bound)
      fun cycle within later => kept cycle within (Nat.lt_of_succ_le later)
    -- The clear leaves the pixel dark, and the count starts behind it.
    rw [run_succ_last machine last, screen_step_of_clear cleared] at parity
    simp [parity]
  · intro kept
    have parity := machine.lit_run_of_not_cleared x y (Nat.zero_le cycles)
      fun cycle bound _ => kept cycle bound
    rwa [run_zero] at parity
  · rw [redraw_step_iff, instruction?_eq_clearScreen_iff, exists_draw_iff]

/-- A draw, a clear and two more draws, whose sprite is the program itself. -/
def clearedDrawing : Machine :=
  holding [0xD0, 0x11, 0x00, 0xE0, 0xD0, 0x11, 0xD0, 0x15]

theorem clearedDrawing_parity :
    (∀ cycle < 1, (clearedDrawing.run cycle).instruction? ≠ some .clearScreen) ∧
      clearedDrawing.step.screen ≠ clearedDrawing.screen ∧
      clearedDrawing.step.redraw = true ∧
      (clearedDrawing.run 1).screen.lit 0 0 = true ∧
      (clearedDrawing.run 1).instruction? = some .clearScreen ∧
      (∀ cycle < 4, 1 < cycle →
        (clearedDrawing.run cycle).instruction? ≠ some .clearScreen) ∧
      (clearedDrawing.run 4).screen.lit 0 0 = false := by
  have uncleared : ∀ cycle < 1,
      (clearedDrawing.run cycle).instruction? ≠ some .clearScreen := by
    decide +kernel
  have changed : clearedDrawing.step.screen ≠ clearedDrawing.screen := by decide +kernel
  have cleared : (clearedDrawing.run 1).instruction? = some .clearScreen := rfl
  have kept : ∀ cycle < 4, 1 < cycle →
      (clearedDrawing.run cycle).instruction? ≠ some .clearScreen := by
    decide +kernel
  obtain ⟨-, first, redraw, -⟩ := pixel_parity_of_run clearedDrawing 1 0 0
  obtain ⟨afterClear, -⟩ := pixel_parity_of_run clearedDrawing 4 0 0
  have once : clearedDrawing.flips 0 0 0 1 = 1 := by decide +kernel
  have twice : clearedDrawing.flips 0 0 2 4 = 2 := by decide +kernel
  refine ⟨uncleared, changed, redraw changed, ?_, cleared, kept, ?_⟩
  · rw [first uncleared, once]
    rfl
  · rw [Bool.eq_false_iff, ne_eq, afterClear 1 (by decide) cleared kept, twice]
    decide

end Chip8.Machine
