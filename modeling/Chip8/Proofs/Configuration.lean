import Chip8.Proofs.Cycle

/-!
# What the two choices decide

A machine is built with a dialect and a wrap mode. The dialect decides only what
the shifts do with two registers that differ and where the transfers leave the
index; the wrap mode only what a sprite does that reaches past an edge. All other
words do the same whatever was chosen, and so do the runs that are made of them.
-/

namespace Chip8

/-! ## The words that ask for a choice -/

namespace Word

/-- `8XY6` and `8XYE`. -/
def IsShift (word : Word) : Prop := word.family = 0x8 ∧ (word.n = 0x6 ∨ word.n = 0xE)

/-- `FX55` and `FX65`. -/
def IsTransfer (word : Word) : Prop := word.family = 0xF ∧ (word.nn = 0x55 ∨ word.nn = 0x65)

/-- `DXYN`. -/
def IsDraw (word : Word) : Prop := word.family = 0xD

instance (word : Word) : Decidable word.IsShift := inferInstanceAs (Decidable (_ ∧ _))

instance (word : Word) : Decidable word.IsTransfer := inferInstanceAs (Decidable (_ ∧ _))

instance (word : Word) : Decidable word.IsDraw := inferInstanceAs (Decidable (_ = _))

theorem isShift_encode_arithmetic (op : ArithmeticOp) (x y : Nibble) :
    (Instruction.arithmetic op x y).encode.IsShift ↔ op.isShift = true := by
  simp only [IsShift, Instruction.encode, family_withNibbles, n_withNibbles, true_and]
  cases op <;> decide

theorem IsShift.exists_encode {word : Word} (shift : word.IsShift) :
    ∃ op, (Instruction.arithmetic op word.x word.y).encode = word := by
  have nibbles := word.withNibbles_fields
  obtain ⟨family, right | left⟩ := shift
  · rw [family, right] at nibbles
    exact ⟨.shiftRight, nibbles⟩
  · rw [family, left] at nibbles
    exact ⟨.shiftLeft, nibbles⟩

theorem IsTransfer.encode_eq {word : Word} (transfer : word.IsTransfer) :
    (Instruction.storeRegisters word.x).encode = word ∨
      (Instruction.loadRegisters word.x).encode = word := by
  have byte := word.withByte_fields
  obtain ⟨family, store | load⟩ := transfer
  · rw [family, store] at byte
    exact .inl byte
  · rw [family, load] at byte
    exact .inr byte

theorem IsDraw.encode_eq {word : Word} (draw : word.IsDraw) :
    (Instruction.draw word.x word.y word.n).encode = word := by
  have nibbles := word.withNibbles_fields
  rwa [show word.family = 0xD from draw] at nibbles

end Word

namespace Machine

/-- The dialect decides what the word does: a shift of two registers that differ,
or a transfer. -/
def AsksDialect (machine : Machine) (word : Word) : Prop :=
  word.IsShift ∧ machine.registers.get word.x ≠ machine.registers.get word.y ∨
    word.IsTransfer

/-- The wrap mode decides what the word does: a draw of a sprite that reaches past
the right or the lower edge. -/
def AsksWrapMode (machine : Machine) (word : Word) : Prop :=
  word.IsDraw ∧
    (56 < (machine.registers.get word.x).toNat % 64 ∨
      32 < (machine.registers.get word.y).toNat % 32 + word.n.toNat)

instance (machine : Machine) (word : Word) : Decidable (machine.AsksDialect word) :=
  inferInstanceAs (Decidable (_ ∨ _))

instance (machine : Machine) (word : Word) : Decidable (machine.AsksWrapMode word) :=
  inferInstanceAs (Decidable (_ ∧ _))

theorem execute_encode (machine : Machine) (instruction : Instruction) :
    machine.execute instruction.encode = machine.perform instruction :=
  execute_of_some (Instruction.decode_encode instruction)

/-! ## Changes that the cycle does not see -/

/-- A change of the machine that matters to instructions at most, and not to the
cycle around them. -/
structure Unseen (change : Machine → Machine) : Prop where
  fetch : ∀ machine, (change machine).fetch = machine.fetch
  faulted : ∀ machine, (change machine).faulted = machine.faulted
  clearReports : ∀ machine, (change machine).clearReports = change machine.clearReports
  tickTimers : ∀ machine, (change machine).tickTimers = change machine.tickTimers
  report : ∀ machine word,
    { change machine with faulted := true, illegalOpcode := word } =
      change { machine with faulted := true, illegalOpcode := word }

namespace Unseen

variable {change : Machine → Machine} (unseen : Unseen change) {machine : Machine}

include unseen

theorem execute {word : Word}
    (performed : ∀ instruction : Instruction, instruction.encode = word →
      (change machine).perform instruction = change (machine.perform instruction)) :
    (change machine).execute word = change (machine.execute word) := by
  cases found : Instruction.decode word with
  | none => rw [execute_of_none found, execute_of_none found, unseen.report]
  | some instruction =>
      have layout := Instruction.decode_eq_some_iff.mp found
      rw [← layout, execute_encode, execute_encode, performed instruction layout]

theorem step
    (executed : (change machine.clearReports).execute machine.fetch =
      change (machine.clearReports.execute machine.fetch)) :
    (change machine).step = change machine.step := by
  simp only [Machine.step, unseen.clearReports, unseen.fetch, executed, unseen.faulted]
  split
  next => rfl
  next => exact unseen.tickTimers _

end Unseen

/-- A change that commutes with the cycles of a run commutes with the run. -/
theorem run_change {change : Machine → Machine} {asks : Machine → Word → Prop}
    (stepped : ∀ machine : Machine, ¬asks machine machine.fetch →
      (change machine).step = change machine.step)
    {machine : Machine} {cycles : Nat}
    (plain : ∀ cycle < cycles, ¬asks (machine.run cycle) (machine.run cycle).fetch) :
    (change machine).run cycles = change (machine.run cycles) := by
  induction cycles with
  | zero => rfl
  | succ cycles inductionHypothesis =>
      have earlier := inductionHypothesis fun cycle bound => plain cycle (by omega)
      rw [run_succ_last, run_succ_last, earlier, stepped _ (plain cycles (by omega))]

/-! ## The dialect -/

section Dialect

variable {machine : Machine} {instruction : Instruction} {word : Word} (dialect : Dialect)

def withDialect (machine : Machine) (dialect : Dialect) : Machine := { machine with dialect }

theorem unseen_withDialect : Unseen (·.withDialect dialect) where
  fetch _ := rfl
  faulted _ := rfl
  clearReports _ := rfl
  tickTimers _ := rfl
  report _ _ := rfl

theorem arithmeticOperands_withDialect {op : ArithmeticOp} {x y : Nibble}
    (agreed : op.isShift = true → machine.registers.get x = machine.registers.get y) :
    (machine.withDialect dialect).arithmeticOperands op x y =
      machine.arithmeticOperands op x y := by
  cases shift : op.isShift with
  | false => simp [arithmeticOperands, withDialect, shift]
  | true => simp [arithmeticOperands, withDialect, agreed shift]

theorem perform_withDialect (plain : ¬machine.AsksDialect instruction.encode) :
    (machine.withDialect dialect).perform instruction =
      (machine.perform instruction).withDialect dialect := by
  cases instruction with
  | arithmetic op x y =>
      have agreed (shift : op.isShift = true) :
          machine.registers.get x = machine.registers.get y := by
        apply Classical.byContradiction
        intro differ
        apply plain
        refine .inl ⟨(Word.isShift_encode_arithmetic op x y).mpr shift, ?_⟩
        simpa [Instruction.encode] using differ
      simp only [perform, handle, arithmeticOperands_withDialect dialect agreed]
      rfl
  | storeRegisters x => exact absurd (.inr (by simp [Word.IsTransfer, Instruction.encode])) plain
  | loadRegisters x => exact absurd (.inr (by simp [Word.IsTransfer, Instruction.encode])) plain
  | _ => rfl

theorem execute_withDialect (plain : ¬machine.AsksDialect word) :
    (machine.withDialect dialect).execute word =
      (machine.execute word).withDialect dialect := by
  apply (unseen_withDialect dialect).execute
  rintro instruction rfl
  exact perform_withDialect dialect plain

theorem step_withDialect (plain : ¬machine.AsksDialect machine.fetch) :
    (machine.withDialect dialect).step = machine.step.withDialect dialect :=
  (unseen_withDialect dialect).step (execute_withDialect dialect plain)

theorem get_storeResult_of_ne (registers : Registers) (use : FlagUse) (result flag : Byte)
    {x name : Nibble} (other : name ≠ x) (unflagged : name ≠ Registers.flag) :
    (storeResult registers use x result flag).get name = registers.get name := by
  cases use <;> simp [storeResult, Registers.get_set, other, unflagged]

/-- Whatever the dialect does to a shift, it does to the two registers that the
shift writes. -/
theorem execute_shift_withDialect (shift : word.IsShift) :
    ∃ registers,
      (machine.withDialect dialect).execute word =
        { (machine.execute word).withDialect dialect with registers } ∧
      ∀ name, name ≠ word.x → name ≠ Registers.flag →
        registers.get name = (machine.execute word).registers.get name := by
  obtain ⟨op, layout⟩ := shift.exists_encode
  rw [← layout, execute_encode, execute_encode]
  refine ⟨_, rfl, ?_⟩
  intro name other unflagged
  rw [layout] at other
  exact (get_storeResult_of_ne _ _ _ _ other unflagged).trans
    (get_storeResult_of_ne _ _ _ _ other unflagged).symm

/-- The older dialect moves the index past the registers that were transferred. -/
theorem execute_transfer_withDialect (transfer : word.IsTransfer) :
    (machine.withDialect .cosmac).execute word =
      { ((machine.withDialect .schip).execute word).withDialect .cosmac with
        index := ((machine.withDialect .schip).execute word).index +
          word.x.setWidth 16 + 1 } := by
  obtain layout | layout := transfer.encode_eq
  all_goals
    generalize word.x = x at layout
    rw [← layout, execute_encode, execute_encode]
    rfl

end Dialect

end Machine

/-! ## The wrap mode -/

namespace Sprite

section Fits

variable {sprite : List Byte} {left x : Column} {top y : Row}
  (inColumns : left.toNat ≤ 56) (inRows : top.toNat + sprite.length ≤ 32)

include inColumns inRows

/-- The bits of a sprite that fits lie right of and below its corner, also when
their distance is measured around the screen. -/
theorem keeps_of_fits (mode : WrapMode)
    (drawn : (sprite.getD (y - top).toNat 0).getMsbD (x - left).toNat = true) :
    keeps mode left top x y = true := by
  cases mode with
  | wrap => rfl
  | clip =>
      have across : (x - left).toNat < 8 := BitVec.lt_of_getMsbD drawn
      have down : (y - top).toNat < sprite.length := by
        apply Nat.lt_of_not_le
        intro past
        rw [List.getD_eq_getElem?_getD, List.getElem?_eq_none past] at drawn
        simp at drawn
      -- Left of or above the corner, the way around the screen is too long for the sprite.
      have xBound := x.isLt
      have yBound := y.isLt
      rw [BitVec.toNat_sub] at across down
      simp only [keeps, BitVec.le_def, Bool.and_eq_true, decide_eq_true_eq]
      omega

theorem mask_eq_of_fits (mode other : WrapMode) :
    mask mode sprite left top = mask other sprite left top := by
  ext x y
  rw [lit_mask, lit_mask]
  cases drawn : (sprite.getD (y - top).toNat 0).getMsbD (x - left).toNat with
  | false => simp
  | true =>
      rw [keeps_of_fits inColumns inRows mode drawn, keeps_of_fits inColumns inRows other drawn]

end Fits

end Sprite

namespace Machine

section WrapMode

variable {machine : Machine} {instruction : Instruction} {word : Word} (wrapMode : WrapMode)

def withWrapMode (machine : Machine) (wrapMode : WrapMode) : Machine := { machine with wrapMode }

theorem unseen_withWrapMode : Unseen (·.withWrapMode wrapMode) where
  fetch _ := rfl
  faulted _ := rfl
  clearReports _ := rfl
  tickTimers _ := rfl
  report _ _ := rfl

theorem spriteMask_withWrapMode {x y height : Nibble}
    (inColumns : (machine.registers.get x).toNat % 64 ≤ 56)
    (inRows : (machine.registers.get y).toNat % 32 + height.toNat ≤ 32) :
    (machine.withWrapMode wrapMode).spriteMask x y height = machine.spriteMask x y height := by
  apply Sprite.mask_eq_of_fits
  · simpa [withWrapMode] using inColumns
  · simpa [withWrapMode, Memory.readBlock] using inRows

theorem perform_withWrapMode (plain : ¬machine.AsksWrapMode instruction.encode) :
    (machine.withWrapMode wrapMode).perform instruction =
      (machine.perform instruction).withWrapMode wrapMode := by
  cases instruction with
  | draw x y height =>
      simp only [AsksWrapMode, Word.IsDraw, Instruction.encode, Word.family_withNibbles,
        Word.x_withNibbles, Word.y_withNibbles, Word.n_withNibbles, true_and, not_or,
        Nat.not_lt] at plain
      simp only [perform, handle, spriteMask_withWrapMode wrapMode plain.1 plain.2]
      rfl
  | _ => rfl

theorem execute_withWrapMode (plain : ¬machine.AsksWrapMode word) :
    (machine.withWrapMode wrapMode).execute word =
      (machine.execute word).withWrapMode wrapMode := by
  apply (unseen_withWrapMode wrapMode).execute
  rintro instruction rfl
  exact perform_withWrapMode wrapMode plain

theorem step_withWrapMode (plain : ¬machine.AsksWrapMode machine.fetch) :
    (machine.withWrapMode wrapMode).step = machine.step.withWrapMode wrapMode :=
  (unseen_withWrapMode wrapMode).step (execute_withWrapMode wrapMode plain)

/-- Whatever the wrap mode does to a draw, it does to the screen and the flag. -/
theorem execute_draw_withWrapMode (draw : word.IsDraw) :
    ∃ screen registers,
      (machine.withWrapMode wrapMode).execute word =
        { (machine.execute word).withWrapMode wrapMode with screen, registers } ∧
      ∀ name, name ≠ Registers.flag →
        registers.get name = (machine.execute word).registers.get name := by
  rw [← draw.encode_eq, execute_encode, execute_encode, perform_draw, perform_draw]
  refine ⟨_, _, rfl, ?_⟩
  intro name unflagged
  simp only [withWrapMode, Registers.get_set, if_neg unflagged]

end WrapMode

/-! ## Both choices -/

/-- The dialect matters to a shift of two registers that differ, and then only to
the two registers that it writes, and to a transfer, and then only to the index.
The wrap mode matters to a draw that reaches past an edge, and then only to the
screen and the flag. So a run that meets no such word ends the same but for the
choice itself. -/
theorem choices_confined (machine : Machine) (dialect : Dialect) (wrapMode : WrapMode)
    (word : Word) (cycles : Nat) :
    (¬machine.AsksDialect word →
        (machine.withDialect dialect).execute word =
          (machine.execute word).withDialect dialect) ∧
      (word.IsShift →
        ∃ registers,
          (machine.withDialect dialect).execute word =
            { (machine.execute word).withDialect dialect with registers } ∧
          ∀ name, name ≠ word.x → name ≠ Registers.flag →
            registers.get name = (machine.execute word).registers.get name) ∧
      (word.IsTransfer →
        (machine.withDialect .cosmac).execute word =
          { ((machine.withDialect .schip).execute word).withDialect .cosmac with
            index := ((machine.withDialect .schip).execute word).index +
              word.x.setWidth 16 + 1 }) ∧
      (¬machine.AsksWrapMode word →
        (machine.withWrapMode wrapMode).execute word =
          (machine.execute word).withWrapMode wrapMode) ∧
      (word.IsDraw →
        ∃ screen registers,
          (machine.withWrapMode wrapMode).execute word =
            { (machine.execute word).withWrapMode wrapMode with screen, registers } ∧
          ∀ name, name ≠ Registers.flag →
            registers.get name = (machine.execute word).registers.get name) ∧
      ((∀ cycle < cycles, ¬(machine.run cycle).AsksDialect (machine.run cycle).fetch) →
        (machine.withDialect dialect).run cycles =
          (machine.run cycles).withDialect dialect) ∧
      ((∀ cycle < cycles, ¬(machine.run cycle).AsksWrapMode (machine.run cycle).fetch) →
        (machine.withWrapMode wrapMode).run cycles =
          (machine.run cycles).withWrapMode wrapMode) :=
  ⟨execute_withDialect dialect, execute_shift_withDialect dialect,
    execute_transfer_withDialect, execute_withWrapMode wrapMode,
    execute_draw_withWrapMode wrapMode,
    run_change fun _ => step_withDialect dialect,
    run_change fun _ => step_withWrapMode wrapMode⟩

/-- Two registers are set, shifted and stored, and a sprite is drawn over the right edge. -/
def mixedProgram : Machine :=
  holding [0x61, 0x07, 0x62, 0x3C, 0x81, 0x26, 0xF3, 0x55, 0xD2, 0x15]

theorem mixedProgram_choices :
    ((mixedProgram.withDialect .cosmac).execute 0x6107 =
        (mixedProgram.execute 0x6107).withDialect .cosmac ∧
      (mixedProgram.withDialect .cosmac).run 2 =
        (mixedProgram.run 2).withDialect .cosmac) ∧
      ((mixedProgram.withWrapMode .clip).execute 0x6107 =
          (mixedProgram.execute 0x6107).withWrapMode .clip ∧
        (mixedProgram.withWrapMode .clip).run 2 =
          (mixedProgram.run 2).withWrapMode .clip) ∧
      ((mixedProgram.run 2).AsksDialect 0x8126 ∧
        (((mixedProgram.run 2).withDialect .cosmac).execute 0x8126).pc = 6) ∧
      ((mixedProgram.run 2).AsksDialect 0xF355 ∧
        (((mixedProgram.run 2).withDialect .cosmac).execute 0xF355).index = 4) ∧
      (mixedProgram.run 2).AsksWrapMode 0xD215 ∧
        (((mixedProgram.run 2).withWrapMode .clip).execute 0xD215).redraw = true := by
  have plainDialect : ∀ cycle < 2,
      ¬(mixedProgram.run cycle).AsksDialect (mixedProgram.run cycle).fetch := by
    decide +kernel
  have plainWrapMode : ∀ cycle < 2,
      ¬(mixedProgram.run cycle).AsksWrapMode (mixedProgram.run cycle).fetch := by
    decide +kernel
  obtain ⟨setDialect, -, -, setWrapMode, -, runDialect, runWrapMode⟩ :=
    choices_confined mixedProgram .cosmac .clip 0x6107 2
  obtain ⟨-, shifted, -⟩ := choices_confined (mixedProgram.run 2) .cosmac .clip 0x8126 0
  obtain ⟨-, -, stored, -⟩ := choices_confined (mixedProgram.run 2) .cosmac .clip 0xF355 0
  obtain ⟨-, -, -, -, drawn, -⟩ := choices_confined (mixedProgram.run 2) .cosmac .clip 0xD215 0
  obtain ⟨registers, shift, -⟩ := shifted (by decide)
  obtain ⟨screen, flagged, draw, -⟩ := drawn (by decide)
  refine ⟨⟨setDialect (by decide +kernel), runDialect plainDialect⟩,
    ⟨setWrapMode (by decide +kernel), runWrapMode plainWrapMode⟩,
    ⟨by decide +kernel, ?_⟩, ⟨by decide +kernel, ?_⟩, by decide +kernel, ?_⟩
  · rw [shift]
    rfl
  · rw [stored (by decide)]
    rfl
  · rw [draw]
    rfl

end Machine

end Chip8
