import Chip8.Proofs.Configuration
import Chip8.Proofs.Forms

/-!
# What a word may change

Each part of the machine can be changed by few words only. `Machine.ChangesOnly` lists
them part by part, and `Word.Writes` tells the registers that a word may write. Keys,
power, the two choices and the fault fields are beyond the reach of every instruction.
-/

namespace Chip8

namespace Word

/-- `FXNN` with the given low byte. -/
def IsMisc (word : Word) (code : Byte) : Prop := word.family = 0xF ∧ word.nn = code

/-- `6XNN`, `7XNN`, `8XYN`, `CXNN` and `FX07`: the words with a result for register `X`. -/
def HasResult (word : Word) : Prop :=
  word.family = 0x6 ∨ word.family = 0x7 ∨ word.family = 0x8 ∨ word.family = 0xC ∨
    word.IsMisc 0x07

/-- `8XY4` to `8XY7`, `8XYE`, `DXYN` and `FX1E`: the words that report to the flag. -/
def HasFlag (word : Word) : Prop :=
  word.family = 0x8 ∧ (0x4 ≤ word.n ∧ word.n ≤ 0x7 ∨ word.n = 0xE) ∨ word.family = 0xD ∨
    word.IsMisc 0x1E

/-- The registers that a word may write; `FX65` writes all up to `X`. -/
def Writes (word : Word) (name : Nibble) : Prop :=
  name = word.x ∧ word.HasResult ∨ name ≤ word.x ∧ word.IsMisc 0x65 ∨
    name = Registers.flag ∧ word.HasFlag

/-- An addition of a byte, a copy and the bitwise operations report to no flag. -/
theorem not_writes_flag {word : Word}
    (plain : word.family = 0x7 ∨ word.family = 0x8 ∧ word.n ≤ 0x3)
    (target : word.x ≠ Registers.flag) : ¬word.Writes Registers.flag := by
  have unflagged : ¬word.HasFlag := by
    unfold HasFlag IsMisc
    rcases plain with family | ⟨family, low⟩
    · simp [family]
    · have outside : ¬(0x4 ≤ word.n ∧ word.n ≤ 0x7 ∨ word.n = 0xE) := by bv_omega
      rintro (⟨-, inside⟩ | drawn | ⟨misc, -⟩)
      · exact outside inside
      · simp [family] at drawn
      · simp [family] at misc
  have unloaded : ¬word.IsMisc 0x65 := by
    unfold IsMisc
    rcases plain with family | ⟨family, -⟩ <;> simp [family]
  rintro (⟨same, -⟩ | ⟨-, loaded⟩ | ⟨-, flagged⟩)
  · exact target same.symm
  · exact unloaded loaded
  · exact unflagged flagged

end Word

/-! ## Registers that a store leaves alone -/

theorem Registers.eq_of_get_set_ne {registers : Registers} {x name : Nibble} {byte : Byte}
    (changed : (registers.set x byte).get name ≠ registers.get name) : name = x := by
  apply Classical.byContradiction
  intro other
  apply changed
  rw [get_set, if_neg other]

theorem Registers.le_of_get_loadUpTo_ne {registers : Registers} {last name : Nibble}
    {source : Nibble → Byte}
    (changed : (registers.loadUpTo last source).get name ≠ registers.get name) :
    name ≤ last := by
  apply Classical.byContradiction
  intro above
  apply changed
  rw [get_loadUpTo, if_neg above]

/-- The codes of the operations that use the flag. -/
theorem ArithmeticOp.code_of_flagUse {op : ArithmeticOp} (used : op.flagUse ≠ .unused) :
    0x4 ≤ op.code ∧ op.code ≤ 0x7 ∨ op.code = 0xE := by
  cases op with
  | copy | or | and | xor => exact absurd rfl used
  | _ => decide

namespace Machine

theorem eq_of_get_storeResult_ne {registers : Registers} {use : FlagUse} {x name : Nibble}
    {result flag : Byte}
    (changed : (storeResult registers use x result flag).get name ≠ registers.get name) :
    name = x ∨ name = Registers.flag ∧ use ≠ .unused := by
  by_cases target : name = x
  · exact .inl target
  · refine .inr ⟨?_, ?_⟩
    · apply Classical.byContradiction
      intro unflagged
      exact changed (get_storeResult_of_ne registers use result flag target unflagged)
    · rintro rfl
      exact target (Registers.eq_of_get_set_ne changed)

/-! ## The words behind each change -/

section Spelled

variable {machine : Machine} {word : Word} {instruction : Instruction}
  (spelled : word.Spells instruction)

include spelled

theorem family_of_key_ne (changed : (machine.perform instruction).key ≠ machine.key) :
    word.family = 0xC := by
  cases spelled with
  | random family => exact family
  | _ => exact absurd rfl changed

theorem isMisc_of_memory_ne
    (changed : (machine.perform instruction).memory ≠ machine.memory) :
    word.IsMisc 0x33 ∨ word.IsMisc 0x55 := by
  cases spelled with
  | storeDigits family low => exact .inl ⟨family, low⟩
  | storeRegisters family low => exact .inr ⟨family, low⟩
  | _ => exact absurd rfl changed

theorem drawn_of_screen_ne
    (changed : (machine.perform instruction).screen ≠ machine.screen) :
    word = 0x00E0 ∨ word.family = 0xD := by
  cases spelled with
  | clearScreen same => exact .inl same
  | draw family => exact .inr family
  | _ => exact absurd rfl changed

theorem drawn_of_redraw_ne
    (changed : (machine.perform instruction).redraw ≠ machine.redraw) :
    word = 0x00E0 ∨ word.family = 0xD := by
  cases spelled with
  | clearScreen same => exact .inl same
  | draw family => exact .inr family
  | _ => exact absurd rfl changed

theorem called_of_stack_ne (changed : (machine.perform instruction).stack ≠ machine.stack) :
    word.family = 0x2 ∨ word = 0x00EE := by
  cases spelled with
  | call family => exact .inl family
  | leave same => exact .inr same
  | _ => exact absurd rfl changed

theorem isMisc_of_delayTimer_ne
    (changed : (machine.perform instruction).delayTimer ≠ machine.delayTimer) :
    word.IsMisc 0x15 := by
  cases spelled with
  | setDelay family low => exact ⟨family, low⟩
  | _ => exact absurd rfl changed

theorem isMisc_of_soundTimer_ne
    (changed : (machine.perform instruction).soundTimer ≠ machine.soundTimer) :
    word.IsMisc 0x18 := by
  cases spelled with
  | setSound family low => exact ⟨family, low⟩
  | _ => exact absurd rfl changed

/-- A transfer only moves the index under the older dialect. -/
theorem moved_of_index_ne (changed : (machine.perform instruction).index ≠ machine.index) :
    word.family = 0xA ∨ word.IsMisc 0x1E ∨ word.IsMisc 0x29 ∨
      machine.dialect = .cosmac ∧ (word.IsMisc 0x55 ∨ word.IsMisc 0x65) := by
  have older (moved : machine.indexAfterTransfer word.x ≠ machine.index) :
      machine.dialect = .cosmac := by
    unfold indexAfterTransfer at moved
    cases dialect : machine.dialect with
    | cosmac => rfl
    | schip => simp [dialect] at moved
  cases spelled with
  | setIndex family => exact .inl family
  | addIndex family low => exact .inr (.inl ⟨family, low⟩)
  | pointGlyph family low => exact .inr (.inr (.inl ⟨family, low⟩))
  | storeRegisters family low =>
      exact .inr (.inr (.inr ⟨older changed, .inl ⟨family, low⟩⟩))
  | loadRegisters family low =>
      exact .inr (.inr (.inr ⟨older changed, .inr ⟨family, low⟩⟩))
  | _ => exact absurd rfl changed

end Spelled

section Registers

variable {machine : Machine} {word : Word} {name : Nibble}

theorem registers_perform_load (machine : Machine) (x : Nibble) :
    (machine.perform (.loadRegisters x)).registers =
      machine.registers.loadUpTo x fun name =>
        machine.memory.read (machine.index.address + name.setWidth 12) := rfl

theorem writes_of_arithmetic {op : ArithmeticOp}
    (changed : (machine.perform (.arithmetic op word.x word.y)).registers.get name ≠
      machine.registers.get name)
    (family : word.family = 0x8) (last : word.n = op.code) : word.Writes name := by
  rcases eq_of_get_storeResult_ne changed with target | ⟨flagged, used⟩
  · exact .inl ⟨target, .inr (.inr (.inl family))⟩
  · have code := ArithmeticOp.code_of_flagUse used
    rw [← last] at code
    exact .inr (.inr ⟨flagged, .inl ⟨family, code⟩⟩)

theorem writes_of_register_ne {instruction : Instruction} (spelled : word.Spells instruction)
    (changed : (machine.perform instruction).registers.get name ≠
      machine.registers.get name) : word.Writes name := by
  cases spelled with
  | setByte family => exact .inl ⟨Registers.eq_of_get_set_ne changed, .inl family⟩
  | addByte family => exact .inl ⟨Registers.eq_of_get_set_ne changed, .inr (.inl family)⟩
  | copy family last | or family last | and family last | xor family last
  | add family last | subtract family last | shiftRight family last
  | subtractFrom family last | shiftLeft family last =>
      exact writes_of_arithmetic changed family last
  | random family =>
      exact .inl ⟨Registers.eq_of_get_set_ne changed, .inr (.inr (.inr (.inl family)))⟩
  | draw family =>
      rw [perform_draw] at changed
      exact .inr (.inr ⟨Registers.eq_of_get_set_ne changed, .inr (.inl family)⟩)
  | readDelay family low =>
      exact .inl ⟨Registers.eq_of_get_set_ne changed, .inr (.inr (.inr (.inr ⟨family, low⟩)))⟩
  | addIndex family low =>
      exact .inr (.inr ⟨Registers.eq_of_get_set_ne changed, .inr (.inr ⟨family, low⟩)⟩)
  | loadRegisters family low =>
      rw [registers_perform_load] at changed
      exact .inr (.inl ⟨Registers.le_of_get_loadUpTo_ne changed, family, low⟩)
  | _ => exact absurd rfl changed

end Registers

/-! ## All parts together -/

/-- What differs between a machine and what a word makes of it. -/
structure ChangesOnly (machine : Machine) (word : Word) (after : Machine) : Prop where
  keypad : after.keypad = machine.keypad
  powered : after.powered = machine.powered
  faulted : after.faulted = machine.faulted
  illegalOpcode : after.illegalOpcode = machine.illegalOpcode
  dialect : after.dialect = machine.dialect
  wrapMode : after.wrapMode = machine.wrapMode
  key : after.key ≠ machine.key → word.family = 0xC
  memory : after.memory ≠ machine.memory → word.IsMisc 0x33 ∨ word.IsMisc 0x55
  screen : after.screen ≠ machine.screen → word = 0x00E0 ∨ word.family = 0xD
  redraw : after.redraw ≠ machine.redraw → word = 0x00E0 ∨ word.family = 0xD
  stack : after.stack ≠ machine.stack → word.family = 0x2 ∨ word = 0x00EE
  delayTimer : after.delayTimer ≠ machine.delayTimer → word.IsMisc 0x15
  soundTimer : after.soundTimer ≠ machine.soundTimer → word.IsMisc 0x18
  index : after.index ≠ machine.index →
    word.family = 0xA ∨ word.IsMisc 0x1E ∨ word.IsMisc 0x29 ∨
      machine.dialect = .cosmac ∧ (word.IsMisc 0x55 ∨ word.IsMisc 0x65)
  registers : ∀ name, after.registers.get name ≠ machine.registers.get name → word.Writes name

theorem changesOnly_perform {machine : Machine} {word : Word} {instruction : Instruction}
    (spelled : word.Spells instruction) :
    machine.ChangesOnly word (machine.perform instruction) where
  keypad := by cases instruction <;> rfl
  powered := powered_perform machine instruction
  faulted := faulted_perform machine instruction
  illegalOpcode := illegalOpcode_perform machine instruction
  dialect := by cases instruction <;> rfl
  wrapMode := by cases instruction <;> rfl
  key := family_of_key_ne spelled
  memory := isMisc_of_memory_ne spelled
  screen := drawn_of_screen_ne spelled
  redraw := drawn_of_redraw_ne spelled
  stack := called_of_stack_ne spelled
  delayTimer := isMisc_of_delayTimer_ne spelled
  soundTimer := isMisc_of_soundTimer_ne spelled
  index := moved_of_index_ne spelled
  registers _ := writes_of_register_ne spelled

/-- Whatever the state, a word that is an instruction changes each part of the machine
only if it is one of the few words listed for that part. In particular the flag survives
an addition of a byte, a copy and the bitwise operations on other registers, and waiting
for a key changes no register at all. -/
theorem execute_changes_only (machine : Machine) (word : Word) (legal : word.isLegal = true) :
    machine.ChangesOnly word (machine.execute word) ∧
      (word.family = 0x7 ∨ word.family = 0x8 ∧ word.n ≤ 0x3 → word.x ≠ 0xF →
        (machine.execute word).registers.get 0xF = machine.registers.get 0xF) ∧
      (word.IsMisc 0x0A → (machine.execute word).registers = machine.registers) := by
  rcases Word.isLegal_iff.mp legal with ⟨instruction, spelled⟩
  have frame : machine.ChangesOnly word (machine.execute word) := by
    rw [execute_of_spells spelled]
    exact changesOnly_perform spelled
  refine ⟨frame, ?_, ?_⟩
  · intro plain target
    apply Classical.byContradiction
    intro changed
    exact Word.not_writes_flag plain target (frame.registers 0xF changed)
  · rintro ⟨family, low⟩
    rw [execute_of_spells (.awaitKey family low)]
    rfl

theorem keyedMachine_changes :
    Word.isLegal 0x7A05 = true ∧
      keyedMachine.ChangesOnly 0x7A05 (keyedMachine.execute 0x7A05) ∧
      (keyedMachine.execute 0x7A05).registers.get 0xA ≠ keyedMachine.registers.get 0xA ∧
      (keyedMachine.execute 0x7A05).registers.get 0xF = 0x1C ∧
      Word.isLegal 0xFF0A = true ∧
      (keyedMachine.execute 0xFF0A).registers = keyedMachine.registers := by
  have adds : Word.isLegal 0x7A05 = true := by decide
  have waits : Word.isLegal 0xFF0A = true := by decide
  rcases execute_changes_only keyedMachine 0x7A05 adds with ⟨frame, flag, -⟩
  rcases execute_changes_only keyedMachine 0xFF0A waits with ⟨-, -, unchanged⟩
  refine ⟨adds, frame, by decide +kernel, ?_, waits, unchanged ⟨by decide, by decide⟩⟩
  rw [flag (.inl (by decide)) (by decide)]
  rfl

end Machine

end Chip8
