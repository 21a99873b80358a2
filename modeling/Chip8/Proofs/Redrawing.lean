import Chip8.Proofs.Configuration

/-!
# Drawing a sprite twice

A draw changes none of its own operands unless one of them is the flag, so the second of two
draws flips the same pixels back. The first flag tells whether the mask has pixels that were
lit, the second whether it has pixels that were dark.
-/

namespace Chip8

namespace Screen

variable (screen mask : Screen)

theorem flip_flip : (screen.flip mask).flip mask = screen := by
  ext x y
  rw [lit_flip, lit_flip, Bool.xor_assoc, Bool.xor_self, Bool.xor_false]

/-- A mask that has been flipped is on where it was off before. -/
theorem meets_flip_iff :
    (screen.flip mask).meets mask = true ↔
      ∃ x y, mask.lit x y = true ∧ screen.lit x y = false := by
  rw [meets_eq_true_iff]
  refine exists_congr fun x => exists_congr fun y => ?_
  rw [lit_flip]
  cases screen.lit x y <;> cases mask.lit x y <;> decide

/-- Of the two flips one meets a pixel that is on, whatever the screen shows. -/
theorem meets_or_meets_flip_iff :
    screen.meets mask = true ∨ (screen.flip mask).meets mask = true ↔
      ∃ x y, mask.lit x y = true := by
  rw [meets_eq_true_iff, meets_flip_iff, ← exists_or]
  refine exists_congr fun x => ?_
  rw [← exists_or]
  refine exists_congr fun y => ?_
  rw [and_comm, ← and_or_left, Bool.eq_true_or_eq_false_self, and_true]

end Screen

namespace Machine

section Draw

variable (machine : Machine) (x y height : Nibble)

/-- The machine that the word of a draw leaves. -/
def drawn : Machine := machine.execute (.withNibbles 0xD x y height)

theorem drawn_eq :
    machine.drawn x y height =
      { machine with
        pc := machine.pc + next
        screen := machine.screen.flip (machine.spriteMask x y height)
        registers := machine.registers.set Registers.flag
          (ArithmeticOp.flag (machine.screen.meets (machine.spriteMask x y height)))
        redraw := true } := by
  rw [← perform_draw]
  exact machine.execute_encode (.draw x y height)

/-- The flag is raised exactly if the mask met a pixel that was lit. -/
theorem flag_drawn_iff :
    (machine.drawn x y height).registers.get Registers.flag = 1 ↔
      machine.screen.meets (machine.spriteMask x y height) = true := by
  rw [drawn_eq, Registers.get_set, if_pos rfl]
  cases machine.screen.meets (machine.spriteMask x y height) <;> decide

end Draw

section Again

variable {machine : Machine} {x y : Nibble} (xKept : x ≠ Registers.flag)
  (yKept : y ≠ Registers.flag) (height : Nibble)

include xKept yKept

/-- The second draw reads the operands of the first. -/
theorem spriteMask_drawn :
    (machine.drawn x y height).spriteMask x y height = machine.spriteMask x y height := by
  rw [drawn_eq, spriteMask, Registers.get_set, Registers.get_set, if_neg xKept, if_neg yKept]
  rfl

/-- The second draw meets what the first has left on the screen. -/
theorem flag_drawn_drawn_iff :
    ((machine.drawn x y height).drawn x y height).registers.get Registers.flag = 1 ↔
      (machine.screen.flip (machine.spriteMask x y height)).meets
        (machine.spriteMask x y height) = true := by
  have flipped : (machine.drawn x y height).screen =
      machine.screen.flip (machine.spriteMask x y height) := by rw [drawn_eq]
  rw [flag_drawn_iff, spriteMask_drawn xKept yKept, flipped]

theorem drawn_drawn_eq :
    (machine.drawn x y height).drawn x y height =
      { machine with
        pc := machine.pc + skip
        registers := machine.registers.set Registers.flag
          (((machine.drawn x y height).drawn x y height).registers.get Registers.flag)
        redraw := true } := by
  have pointed : machine.pc + next + next = machine.pc + skip := BitVec.add_assoc ..
  rw [drawn_eq (machine.drawn x y height), spriteMask_drawn xKept yKept, drawn_eq]
  simp only [Screen.flip_flip, Registers.set_set, Registers.get_set, if_true, pointed]

end Again

/-- Two draws of one sprite from registers other than the flag restore the screen and leave
the machine as it was, but for the flag, the request to draw the screen anew and a program
counter that is two instructions further. The first flag is raised exactly if the mask has a
pixel that was lit, the second exactly if it has one that was dark, hence one of them exactly
if the mask has a pixel at all. -/
theorem drawing_twice (machine : Machine) (x y height : Nibble) (xKept : x ≠ Registers.flag)
    (yKept : y ≠ Registers.flag) :
    ((machine.drawn x y height).drawn x y height).screen = machine.screen ∧
      ((machine.drawn x y height).registers.get Registers.flag = 1 ↔
        ∃ column row, (machine.spriteMask x y height).lit column row = true ∧
          machine.screen.lit column row = true) ∧
      (((machine.drawn x y height).drawn x y height).registers.get Registers.flag = 1 ↔
        ∃ column row, (machine.spriteMask x y height).lit column row = true ∧
          machine.screen.lit column row = false) ∧
      ((machine.drawn x y height).registers.get Registers.flag = 1 ∨
          ((machine.drawn x y height).drawn x y height).registers.get Registers.flag = 1 ↔
        ∃ column row, (machine.spriteMask x y height).lit column row = true) ∧
      (machine.drawn x y height).drawn x y height =
        { machine with
          pc := machine.pc + 4
          registers := machine.registers.set Registers.flag
            (((machine.drawn x y height).drawn x y height).registers.get Registers.flag)
          redraw := true } := by
  refine ⟨?_, ?_, ?_, ?_, drawn_drawn_eq xKept yKept height⟩
  · rw [drawn_drawn_eq xKept yKept]
  · rw [flag_drawn_iff, Screen.meets_eq_true_iff]
    exact exists_congr fun column => exists_congr fun row => and_comm
  · rw [flag_drawn_drawn_iff xKept yKept, Screen.meets_flip_iff]
  · rw [flag_drawn_iff, flag_drawn_drawn_iff xKept yKept, Screen.meets_or_meets_flip_iff]

/-- A row of four pixels across the right edge of the screen, one of which is lit. -/
def halfLit : Machine :=
  { holding [0xF0] with
    screen := .ofRows fun y => if y = 31 then 1 else 0
    registers := (Registers.zero.set 0 62).set 1 31 }

theorem halfLit_drawn_twice :
    (0 : Nibble) ≠ Registers.flag ∧ (1 : Nibble) ≠ Registers.flag ∧
      ((halfLit.drawn 0 1 1).drawn 0 1 1).screen = halfLit.screen ∧
      (halfLit.drawn 0 1 1).registers.get Registers.flag = 1 ∧
      ((halfLit.drawn 0 1 1).drawn 0 1 1).registers.get Registers.flag = 1 := by
  have lit : (halfLit.spriteMask 0 1 1).lit 63 31 = true ∧ halfLit.screen.lit 63 31 = true := by
    decide +kernel
  have dark : (halfLit.spriteMask 0 1 1).lit 1 31 = true ∧ halfLit.screen.lit 1 31 = false := by
    decide +kernel
  obtain ⟨restored, first, second, -⟩ := drawing_twice halfLit 0 1 1 (by decide) (by decide)
  exact ⟨by decide, by decide, restored, first.mpr ⟨63, 31, lit⟩, second.mpr ⟨1, 31, dark⟩⟩

end Machine

end Chip8
