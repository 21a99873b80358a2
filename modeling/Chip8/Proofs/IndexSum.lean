import Chip8.Proofs.Calculation

/-!
# Adding to the index

The index has sixteen bits, and the flag of an addition to it tells whether what the
index then holds lies beyond memory. A sum of more than sixteen bits comes back to the
first addresses and is not flagged, and a program that goes on adding gets there.
-/

namespace Chip8.Machine

/-! ## One addition -/

section AddIndex

variable (machine : Machine) (x : Nibble)

/-- The index and a register, added as numbers. -/
def indexSum : Nat := machine.index.toNat + machine.value x

theorem execute_addIndex :
    machine.execute (.withByte 0xF x 0x1E) = machine.perform (.addIndex x) :=
  machine.execute_encode (.addIndex x)

theorem toNat_index_add :
    (machine.index + (machine.registers.get x).setWidth 16).toNat =
      machine.indexSum x % 65536 := by
  rw [BitVec.toNat_add, BitVec.toNat_setWidth_of_le (by decide)]
  rfl

theorem toNat_index_execute_addIndex :
    (machine.execute (.withByte 0xF x 0x1E)).index.toNat = machine.indexSum x % 65536 := by
  rw [execute_addIndex]
  exact machine.toNat_index_add x

/-- What wraps around is less than a register, so it is back in memory. -/
theorem beyond_memory_iff :
    0xFFF < machine.indexSum x % 65536 ↔
      0xFFF < machine.indexSum x ∧ machine.indexSum x < 65536 := by
  have indexBound := machine.index.isLt
  have registerBound := (machine.registers.get x).isLt
  unfold indexSum value
  omega

theorem value_flag_execute_addIndex :
    (machine.execute (.withByte 0xF x 0x1E)).value Registers.flag =
      if 0xFFF < machine.indexSum x ∧ machine.indexSum x < 65536 then 1 else 0 := by
  have beyond : machine.index + (machine.registers.get x).setWidth 16 > 0xFFF ↔
      0xFFF < machine.indexSum x ∧ machine.indexSum x < 65536 := by
    rw [gt_iff_lt, BitVec.lt_def, toNat_index_add]
    exact machine.beyond_memory_iff x
  rw [execute_addIndex, value]
  simp only [perform, handle, advance, setRegister, Registers.get_set, if_true, ArithmeticOp.toNat_flag,
    decide_eq_true_eq, beyond]

end AddIndex

/-- The index takes the sum at sixteen bits. The flag is set exactly if the sum lies
beyond memory and does not wrap; so it tells of every sum beyond memory as long as
sixteen bits can hold the sum. -/
theorem flag_of_addition_to_index (machine : Machine) (x : Nibble) :
    (machine.execute (.withByte 0xF x 0x1E)).index.toNat = machine.indexSum x % 65536 ∧
      (machine.execute (.withByte 0xF x 0x1E)).value Registers.flag =
        if 0xFFF < machine.indexSum x ∧ machine.indexSum x < 65536 then 1 else 0 :=
  ⟨machine.toNat_index_execute_addIndex x, machine.value_flag_execute_addIndex x⟩

/-! ## A program that wraps the index -/

/-- Set register 0 to 255 and the index to the last address, then add for ever. -/
def addingProgram : List Byte := [0x60, 0xFF, 0xAF, 0xFF, 0xF0, 0x1E, 0x12, 0x04]

def adding : Machine :=
  { (holding []).reset with
    memory := Font.memory.writeBlock Memory.programStart addingProgram
    powered := true }

/-- The program before an addition. -/
def addingLoop (index : Word) (flag : Byte) : Machine :=
  { adding with
    pc := 0x204
    index
    registers := (Registers.zero.set 0 0xFF).set Registers.flag flag }

theorem load?_adding : (holding []).load? addingProgram = .ok adding := rfl

theorem readWord_adding :
    adding.memory.readWord 0x200 = 0x60FF ∧ adding.memory.readWord 0x202 = 0xAFFF ∧
      adding.memory.readWord 0x204 = 0xF01E ∧ adding.memory.readWord 0x206 = 0x1204 := by
  decide +kernel

theorem instruction?_of_readWord {machine : Machine} {word : Word} {instruction : Instruction}
    (held : machine.memory.readWord machine.pc.address = word)
    (decoded : Instruction.decode word = some instruction) :
    machine.instruction? = some instruction := by
  rw [instruction?, fetch, held, decoded]

/-- Neither word of the loop writes memory, so the next round finds both again. -/
theorem addingLoop_round (index : Word) (flag : Byte) :
    ∃ other, (addingLoop index flag).run 2 = addingLoop (index + 0xFF) other := by
  rcases readWord_adding with ⟨-, -, addition, jump⟩
  have added : (addingLoop index flag).instruction? = some (.addIndex 0) :=
    instruction?_of_readWord addition (by decide)
  have summed : ∃ other, (addingLoop index flag).step =
      { addingLoop (index + 0xFF) other with pc := 0x206 } := by
    rw [step_of_some added]
    simp only [perform, handle, advance, setRegister, clearReports, tickTimers, addingLoop,
      Registers.set_set]
    exact ⟨_, rfl⟩
  rcases summed with ⟨other, summed⟩
  have jumped : { addingLoop (index + 0xFF) other with pc := 0x206 }.instruction? =
      some (.jump 0x204) :=
    instruction?_of_readWord jump (by decide)
  refine ⟨other, ?_⟩
  rw [run_succ, run_succ, run_zero, summed, step_of_some jumped]
  rfl

theorem adding_start : ∃ flag, adding.run 2 = addingLoop 0xFFF flag := by
  rcases readWord_adding with ⟨first, second, -, -⟩
  have set : adding.instruction? = some (.setByte 0 0xFF) :=
    instruction?_of_readWord first (by decide)
  have pointed : adding.step.instruction? = some (.setIndex 0xFFF) := by
    rw [step_of_some set]
    exact instruction?_of_readWord second (by decide)
  have unflagged : Registers.zero.set 0 0xFF =
      (Registers.zero.set 0 0xFF).set Registers.flag 0 := by
    decide
  refine ⟨0, ?_⟩
  rw [run_succ, run_succ, run_zero, step_of_some pointed, step_of_some set, addingLoop,
    ← unflagged]
  rfl

/-- Each round adds the register to the index once more. -/
theorem adding_run (rounds : Nat) :
    ∃ flag, adding.run (2 + 2 * rounds) =
      addingLoop (0xFFF + BitVec.ofNat 16 (255 * rounds)) flag := by
  induction rounds with
  | zero => exact adding_start
  | succ rounds inductionHypothesis =>
      rcases inductionHypothesis with ⟨flag, reached⟩
      rcases addingLoop_round (0xFFF + BitVec.ofNat 16 (255 * rounds)) flag with ⟨other, round⟩
      refine ⟨other, ?_⟩
      rw [show 2 + 2 * (rounds + 1) = 2 + 2 * rounds + 2 from rfl, run_add, reached, round,
        BitVec.add_assoc, Nat.mul_succ, BitVec.ofNat_add]
      rfl

theorem indexSum_addingLoop (index : Word) (flag : Byte) :
    (addingLoop index flag).indexSum 0 = index.toNat + 255 := by
  have register : (addingLoop index flag).registers.get 0 = 0xFF := by
    simp [addingLoop, Registers.get_set, Registers.flag]
  rw [indexSum, value, register]
  rfl

/-- After 240 additions the next sum is far beyond memory and leaves the flag clear. -/
theorem adding_wraps_unflagged :
    (holding []).load? addingProgram = .ok adding ∧
      (adding.run 482).indexSum 0 = 0x1000E ∧
      ((adding.run 482).execute (.withByte 0xF 0 0x1E)).value Registers.flag = 0 := by
  rcases adding_run 240 with ⟨flag, reached⟩
  have sum : (adding.run 482).indexSum 0 = 0x1000E := by
    rw [show 482 = 2 + 2 * 240 from rfl, reached, indexSum_addingLoop]
    rfl
  refine ⟨load?_adding, sum, ?_⟩
  rw [value_flag_execute_addIndex, sum]
  rfl

end Chip8.Machine
