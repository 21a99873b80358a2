import Chip8.Execution

/-!
# One cycle

A cycle fetches one word. If the word is an instruction, the cycle performs it
and ticks the timers; if not, only the reports of the cycle change. What an
instruction does to one part of the machine is said once, as an equation that
also covers all instructions that leave the part alone.
-/

namespace Chip8.Machine

/-- The instruction of the next cycle, if the word at the program counter is one. -/
def instruction? (machine : Machine) : Option Instruction :=
  Instruction.decode machine.fetch

theorem isLegal_fetch (machine : Machine) :
    machine.fetch.isLegal = machine.instruction?.isSome :=
  (Instruction.isSome_decode machine.fetch).symm

/-! ## Parts of the machine under an instruction -/

section Perform

variable (machine : Machine) (instruction : Instruction)

@[simp] theorem powered_perform : (machine.perform instruction).powered = machine.powered := by
  cases instruction <;> rfl

@[simp] theorem faulted_perform : (machine.perform instruction).faulted = machine.faulted := by
  cases instruction <;> rfl

@[simp] theorem illegalOpcode_perform :
    (machine.perform instruction).illegalOpcode = machine.illegalOpcode := by
  cases instruction <;> rfl

/-- Only calls and returns move the stack. -/
theorem stack_perform :
    (machine.perform instruction).stack =
      match instruction with
      | .call _ => machine.stack.push (machine.pc + next).address
      | .leave => machine.stack.pop.1
      | _ => machine.stack := by
  cases instruction <;> rfl

/-- Only the two stores reach memory. -/
theorem memory_perform :
    (machine.perform instruction).memory =
      match instruction with
      | .storeDigits x =>
          machine.memory.writeBlock machine.index.address
            (decimalDigits (machine.registers.get x))
      | .storeRegisters x =>
          machine.memory.writeBlock machine.index.address (machine.registers.upTo x)
      | _ => machine.memory := by
  cases instruction <;> rfl

/-- Only a clear and a draw reach the screen. -/
theorem screen_perform :
    (machine.perform instruction).screen =
      match instruction with
      | .clearScreen => .dark
      | .draw x y height => machine.screen.flip (machine.spriteMask x y height)
      | _ => machine.screen := by
  cases instruction <;> rfl

theorem redraw_perform :
    (machine.perform instruction).redraw =
      match instruction with
      | .clearScreen | .draw _ _ _ => true
      | _ => machine.redraw := by
  cases instruction <;> rfl

/-- Only a draw of a random byte moves the generator. -/
theorem key_perform :
    (machine.perform instruction).key =
      match instruction with
      | .random _ _ => machine.key.next
      | _ => machine.key := by
  cases instruction <;> rfl

end Perform

theorem pc_perform_leave (machine : Machine) :
    (machine.perform .leave).pc = machine.stack.pop.2 := by
  simp [perform, handle, advance, stay]

theorem pc_perform_awaitKey (machine : Machine) (x : Nibble) :
    (machine.perform (.awaitKey x)).pc =
      machine.pc + if machine.keypad.anyDown then next else stay := rfl

theorem perform_draw (machine : Machine) (x y height : Nibble) :
    machine.perform (.draw x y height) =
      { machine with
        pc := machine.pc + next
        screen := machine.screen.flip (machine.spriteMask x y height)
        registers := machine.registers.set Registers.flag
          (ArithmeticOp.flag (machine.screen.meets (machine.spriteMask x y height)))
        redraw := true } := rfl

/-! ## The cycle around it -/

theorem step_of_some {machine : Machine} {instruction : Instruction}
    (fetched : machine.instruction? = some instruction) :
    machine.step = (machine.clearReports.perform instruction).tickTimers := by
  rw [step, execute_of_some fetched]
  simp [clearReports]

theorem step_of_none {machine : Machine} (fetched : machine.instruction? = none) :
    machine.step =
      { machine with redraw := false, faulted := true, illegalOpcode := machine.fetch } := by
  rw [step, execute_of_none fetched]
  simp [clearReports]

/-- A part of the machine that the timers do not reach, after a cycle. -/
theorem part_step {Part : Type} (part : Machine → Part) (machine : Machine)
    (still : ∀ machine : Machine, part machine.tickTimers = part machine) :
    part machine.step =
      match machine.instruction? with
      | none =>
          part { machine with redraw := false, faulted := true, illegalOpcode := machine.fetch }
      | some instruction => part (machine.clearReports.perform instruction) := by
  cases fetched : machine.instruction? with
  | none => rw [step_of_none fetched]
  | some instruction => rw [step_of_some fetched, still]

section Step

variable (machine : Machine)

theorem faulted_step : machine.step.faulted = machine.instruction?.isNone := by
  rw [part_step Machine.faulted machine fun _ => rfl]
  cases machine.instruction? with
  | none => rfl
  | some instruction => exact faulted_perform machine.clearReports instruction

@[simp] theorem powered_step : machine.step.powered = machine.powered := by
  rw [part_step Machine.powered machine fun _ => rfl]
  cases machine.instruction? with
  | none => rfl
  | some instruction => exact powered_perform machine.clearReports instruction

theorem stack_step :
    machine.step.stack =
      match machine.instruction? with
      | some (.call _) => machine.stack.push (machine.pc + next).address
      | some .leave => machine.stack.pop.1
      | _ => machine.stack := by
  rw [part_step Machine.stack machine fun _ => rfl]
  cases machine.instruction? with
  | none => rfl
  | some instruction =>
      exact (stack_perform machine.clearReports instruction).trans
        (by cases instruction <;> rfl)

theorem memory_step :
    machine.step.memory =
      match machine.instruction? with
      | some (.storeDigits x) =>
          machine.memory.writeBlock machine.index.address
            (decimalDigits (machine.registers.get x))
      | some (.storeRegisters x) =>
          machine.memory.writeBlock machine.index.address (machine.registers.upTo x)
      | _ => machine.memory := by
  rw [part_step Machine.memory machine fun _ => rfl]
  cases machine.instruction? with
  | none => rfl
  | some instruction =>
      exact (memory_perform machine.clearReports instruction).trans
        (by cases instruction <;> rfl)

theorem screen_step :
    machine.step.screen =
      match machine.instruction? with
      | some .clearScreen => .dark
      | some (.draw x y height) => machine.screen.flip (machine.spriteMask x y height)
      | _ => machine.screen := by
  rw [part_step Machine.screen machine fun _ => rfl]
  cases machine.instruction? with
  | none => rfl
  | some instruction =>
      exact (screen_perform machine.clearReports instruction).trans
        (by cases instruction <;> rfl)

theorem redraw_step :
    machine.step.redraw =
      match machine.instruction? with
      | some .clearScreen | some (.draw _ _ _) => true
      | _ => false := by
  rw [part_step Machine.redraw machine fun _ => rfl]
  cases machine.instruction? with
  | none => rfl
  | some instruction =>
      exact (redraw_perform machine.clearReports instruction).trans
        (by cases instruction <;> rfl)

theorem key_step :
    machine.step.key =
      match machine.instruction? with
      | some (.random _ _) => machine.key.next
      | _ => machine.key := by
  rw [part_step Machine.key machine fun _ => rfl]
  cases machine.instruction? with
  | none => rfl
  | some instruction =>
      exact (key_perform machine.clearReports instruction).trans
        (by cases instruction <;> rfl)

end Step

/-! ## Runs -/

theorem run_succ_last (machine : Machine) (cycles : Nat) :
    machine.run (cycles + 1) = (machine.run cycles).step :=
  machine.run_add cycles 1

@[simp] theorem powered_run (machine : Machine) (cycles : Nat) :
    (machine.run cycles).powered = machine.powered := by
  induction cycles with
  | zero => rfl
  | succ cycles inductionHypothesis => rw [run_succ_last, powered_step, inductionHypothesis]

/-- How many of the first cycles of a run carry out an instruction of a kind. -/
def executed (machine : Machine) (kind : Instruction → Bool) (cycles : Nat) : Nat :=
  (List.range cycles).countP fun cycle => (machine.run cycle).instruction?.any kind

theorem executed_succ (machine : Machine) (kind : Instruction → Bool) (cycles : Nat) :
    machine.executed kind (cycles + 1) =
      machine.executed kind cycles +
        if (machine.run cycles).instruction?.any kind then 1 else 0 := by
  simp [executed, List.range_succ]

theorem executed_add (machine : Machine) (kind : Instruction → Bool) (first second : Nat) :
    machine.executed kind (first + second) =
      machine.executed kind first + (machine.run first).executed kind second := by
  induction second with
  | zero => rfl
  | succ second inductionHypothesis =>
      rw [← Nat.add_assoc, executed_succ, executed_succ, inductionHypothesis, run_add,
        Nat.add_assoc]

/-- A powered machine that stands at the start of a program, with all else blank. -/
def holding (program : List Byte) : Machine where
  key := ⟨0, 0⟩
  dialect := .schip
  wrapMode := .wrap
  memory := Memory.zero.writeBlock 0 program
  pc := 0
  powered := true

end Chip8.Machine
