import Chip8.Proofs.Cycle

/-!
# Faults

A faulting cycle reports the word at the program counter and touches nothing
else. The machine is then stuck: the next cycle fetches the same word and gives
the same report, so every further cycle gives back the very same machine.
-/

namespace Chip8.Machine

/-- The machine stands at a word that is no instruction, and reports it. -/
structure Stuck (machine : Machine) : Prop where
  faulted : machine.faulted = true
  recorded : machine.illegalOpcode = machine.fetch
  illegal : machine.fetch.isLegal = false
  undrawn : machine.redraw = false

theorem instruction?_eq_none {machine : Machine} (illegal : machine.fetch.isLegal = false) :
    machine.instruction? = none := by
  simpa [isLegal_fetch] using illegal

theorem stuck_step {machine : Machine} (faulted : machine.step.faulted = true) :
    machine.step.Stuck := by
  have fetched : machine.instruction? = none := by
    simpa [faulted_step] using faulted
  rw [step_of_none fetched]
  have illegal : machine.fetch.isLegal = false := by simp [isLegal_fetch, fetched]
  exact ⟨rfl, rfl, illegal, rfl⟩

namespace Stuck

variable {machine : Machine}

/-- A stuck machine is a fixed point of the cycle, in every field. -/
theorem step_eq (stuck : machine.Stuck) : machine.step = machine := by
  rw [step_of_none (instruction?_eq_none stuck.illegal),
    ← stuck.recorded, ← stuck.undrawn, ← stuck.faulted]

theorem run_eq (stuck : machine.Stuck) (cycles : Nat) : machine.run cycles = machine := by
  induction cycles with
  | zero => rfl
  | succ cycles inductionHypothesis => rw [run_succ, stuck.step_eq, inductionHypothesis]

theorem withKeypad (stuck : machine.Stuck) (keypad : Keypad) :
    { machine with keypad }.Stuck :=
  ⟨stuck.faulted, stuck.recorded, stuck.illegal, stuck.undrawn⟩

theorem fault?_eq (stuck : machine.Stuck) :
    machine.fault? =
      some (.illegalOpcode machine.illegalOpcode.toNat (some machine.pc.toNat)) := by
  simp [fault?, stuck.faulted]

end Stuck

theorem stuck_run {machine : Machine} {cycles : Nat} (positive : 0 < cycles)
    (faulted : (machine.run cycles).faulted = true) : (machine.run cycles).Stuck := by
  obtain ⟨earlier, rfl⟩ := Nat.exists_eq_succ_of_ne_zero (Nat.ne_of_gt positive)
  rw [Nat.succ_eq_add_one, run_succ_last] at faulted ⊢
  exact stuck_step faulted

/-- A run that has faulted goes no further, however many cycles it is given. -/
theorem run_eq_of_faulted {machine : Machine} {fault cycles : Nat} (positive : 0 < fault)
    (within : fault ≤ cycles) (faulted : (machine.run fault).faulted = true) :
    machine.run cycles = machine.run fault := by
  obtain ⟨rest, rfl⟩ := Nat.exists_eq_add_of_le within
  rw [run_add, (stuck_run positive faulted).run_eq]

end Chip8.Machine
