import Chip8.Proofs.Fault

/-!
# What the timers show

A cycle that carries out an instruction counts both timers down at its end, and a
cycle that faults leaves them alone. So a timer shows what it was last set to, less
the cycles from the one that set it on, down to zero at the lowest.
-/

namespace Chip8.Machine

theorem toNat_countDown (timer : Byte) : (countDown timer).toNat = timer.toNat - 1 := by
  have bound := timer.isLt
  rw [countDown]
  split
  next zero => simp [zero]
  next running =>
    have positive : timer.toNat ≠ 0 := fun zero => running (BitVec.eq_of_toNat_eq zero)
    rw [BitVec.toNat_sub, show (1 : Byte).toNat = 1 from rfl]
    omega

/-! ## Cycles that carry out an instruction -/

/-- How many of the first cycles of a run carry out an instruction. -/
def performed (machine : Machine) (cycles : Nat) : Nat := machine.executed (fun _ => true) cycles

section Performed

variable {machine : Machine} {cycle cycles : Nat}

theorem performed_le : machine.performed cycles ≤ cycles := by
  rw [performed, executed]
  exact Nat.le_trans List.countP_le_length (Nat.le_of_eq List.length_range)

theorem performed_succ_of_some {instruction : Instruction}
    (fetched : (machine.run cycles).instruction? = some instruction) :
    machine.performed (cycles + 1) = machine.performed cycles + 1 := by
  rw [performed, executed_succ, fetched]
  rfl

theorem performed_succ_of_none (fetched : (machine.run cycles).instruction? = none) :
    machine.performed (cycles + 1) = machine.performed cycles := by
  rw [performed, executed_succ, fetched]
  rfl

/-- What comes before a cycle that carries out an instruction does so too. -/
theorem isSome_of_later {later : Nat} (order : cycle ≤ later)
    (fetched : (machine.run later).instruction?.isSome = true) :
    (machine.run cycle).instruction?.isSome = true := by
  obtain ⟨rest, rfl⟩ := Nat.exists_eq_add_of_le order
  cases earlier : (machine.run cycle).instruction? with
  | some instruction => rfl
  | none =>
      cases rest with
      | zero => rwa [Nat.add_zero, earlier] at fetched
      | succ rest =>
          -- Such a cycle would fault, and the machine would be stuck from then on.
          have faulted : (machine.run cycle).step.faulted = true := by
            rw [faulted_step, earlier]
            rfl
          have stuck := stuck_step faulted
          rw [run_add, run_succ, stuck.run_eq, instruction?_eq_none stuck.illegal] at fetched
          contradiction

theorem performed_eq (fetched : (machine.run cycles).instruction?.isSome = true) :
    machine.performed cycles = cycles := by
  induction cycles with
  | zero => rfl
  | succ cycles inductionHypothesis =>
      have earlier := isSome_of_later (Nat.le_succ cycles) fetched
      obtain ⟨instruction, found⟩ := Option.isSome_iff_exists.mp earlier
      rw [performed_succ_of_some found, inductionHypothesis earlier]

/-- The cycles that carry out an instruction come first. -/
theorem isSome_iff_lt_performed (bound : cycle < cycles) :
    (machine.run cycle).instruction?.isSome = true ↔ cycle < machine.performed cycles := by
  induction cycles with
  | zero => contradiction
  | succ cycles inductionHypothesis =>
      cases last : (machine.run cycles).instruction? with
      | some instruction =>
          have found : (machine.run cycles).instruction?.isSome = true := by rw [last]; rfl
          rw [performed_succ_of_some last, performed_eq found]
          exact iff_of_true (isSome_of_later (Nat.le_of_lt_succ bound) found) bound
      | none =>
          rw [performed_succ_of_none last]
          obtain earlier | rfl := Nat.lt_succ_iff_lt_or_eq.mp bound
          · exact inductionHypothesis earlier
          · have within : machine.performed cycle ≤ cycle := performed_le
            simp [last, within]

end Performed

/-! ## The two timers -/

inductive Timer where
  | delay
  | sound

namespace Timer

def value : Timer → Machine → Byte
  | .delay, machine => machine.delayTimer
  | .sound, machine => machine.soundTimer

/-- The instruction that sets the timer from a register. -/
def setting : Timer → Nibble → Instruction
  | .delay, x => .setDelay x
  | .sound, x => .setSound x

section Step

variable (timer : Timer) {machine : Machine} {x : Nibble} {instruction : Instruction}

theorem value_step_of_setting (fetched : machine.instruction? = some (timer.setting x)) :
    timer.value machine.step = countDown (machine.registers.get x) := by
  rw [step_of_some fetched]
  cases timer <;> rfl

theorem value_step_of_other (fetched : machine.instruction? = some instruction)
    (other : ∀ x, instruction ≠ timer.setting x) :
    timer.value machine.step = countDown (timer.value machine) := by
  rw [step_of_some fetched]
  cases timer with
  | delay =>
      cases instruction with
      | setDelay x => exact absurd rfl (other x)
      | _ => rfl
  | sound =>
      cases instruction with
      | setSound x => exact absurd rfl (other x)
      | _ => rfl

theorem value_step_of_none (fetched : machine.instruction? = none) :
    timer.value machine.step = timer.value machine := by
  rw [step_of_none fetched]
  cases timer <;> rfl

end Step

/-! ## Runs -/

section Run

variable (timer : Timer) {machine : Machine} {cycles : Nat}

theorem toNat_value_run_of_unset
    (unset : ∀ cycle < cycles, ∀ x, (machine.run cycle).instruction? ≠ some (timer.setting x)) :
    (timer.value (machine.run cycles)).toNat =
      (timer.value machine).toNat - machine.performed cycles := by
  induction cycles with
  | zero => rfl
  | succ cycles inductionHypothesis =>
      have earlier := inductionHypothesis fun cycle bound => unset cycle (by omega)
      rw [run_succ_last]
      cases fetched : (machine.run cycles).instruction? with
      | none =>
          rw [timer.value_step_of_none fetched, performed_succ_of_none fetched, earlier]
      | some instruction =>
          have other (x : Nibble) : instruction ≠ timer.setting x := by
            rintro rfl
            exact unset cycles (by omega) x fetched
          rw [timer.value_step_of_other fetched other, toNat_countDown, earlier,
            performed_succ_of_some fetched, Nat.sub_sub]

/-- The cycle that sets a timer already counts it down. -/
theorem toNat_value_run_of_set {last : Nat} {x : Nibble} (bound : last < cycles)
    (fetched : (machine.run last).instruction? = some (timer.setting x))
    (unset : ∀ cycle < cycles, last < cycle →
      ∀ y, (machine.run cycle).instruction? ≠ some (timer.setting y)) :
    (timer.value (machine.run cycles)).toNat =
      ((machine.run last).registers.get x).toNat - (machine.performed cycles - last) := by
  obtain ⟨rest, rfl⟩ := Nat.exists_eq_add_of_le (Nat.succ_le_of_lt bound)
  have since : (timer.value ((machine.run (last + 1)).run rest)).toNat =
      (timer.value (machine.run (last + 1))).toNat -
        (machine.run (last + 1)).performed rest := by
    apply timer.toNat_value_run_of_unset
    intro cycle within
    rw [← run_add]
    exact unset _ (by omega) (by omega)
  have counted : machine.performed (last + 1 + rest) =
      last + 1 + (machine.run (last + 1)).performed rest := by
    have before : machine.performed last = last := performed_eq (by rw [fetched]; rfl)
    rw [performed, executed_add, ← performed, ← performed, performed_succ_of_some fetched, before]
  rw [Nat.succ_eq_add_one, counted, run_add, since, run_succ_last,
    timer.value_step_of_setting fetched, toNat_countDown]
  omega

/-- A byte is what the timer has to show after a run. -/
structure Shows (timer : Timer) (machine : Machine) (cycles : Nat) (byte : Byte) : Prop where
  /-- The value of the last setting, less the cycles from the one that set it on. -/
  set : ∀ last < cycles, ∀ x, (machine.run last).instruction? = some (timer.setting x) →
    (∀ cycle < cycles, last < cycle →
      ∀ y, (machine.run cycle).instruction? ≠ some (timer.setting y)) →
    byte.toNat =
      ((machine.run last).registers.get x).toNat - (machine.performed cycles - last)
  /-- Without a setting, the value at the start less all cycles. -/
  unset : (∀ cycle < cycles, ∀ x, (machine.run cycle).instruction? ≠ some (timer.setting x)) →
    byte.toNat = (timer.value machine).toNat - machine.performed cycles

theorem shows_value_run (machine : Machine) (cycles : Nat) :
    timer.Shows machine cycles (timer.value (machine.run cycles)) where
  set _ bound _ fetched unset := timer.toNat_value_run_of_set bound fetched unset
  unset := timer.toNat_value_run_of_unset

end Run

end Timer

theorem get_step_of_readDelay {machine : Machine} {x : Nibble}
    (fetched : machine.instruction? = some (.readDelay x)) :
    machine.step.registers.get x = machine.delayTimer := by
  rw [step_of_some fetched]
  exact (Registers.get_set _ _ _ _).trans (if_pos rfl)

/-- The cycles that do not fault come first, and after a run each timer shows what it
was last set to, less those of them from the one that set it on; without a setting it
counts from what it showed at the start. A cycle that faults moves no timer, and what
a program reads is what the delay timer has to show. -/
theorem timers_of_run (machine : Machine) (cycles : Nat) :
    machine.performed cycles ≤ cycles ∧
      (∀ cycle < cycles,
        ((machine.run (cycle + 1)).faulted = false ↔ cycle < machine.performed cycles)) ∧
      (∀ timer : Timer, timer.Shows machine cycles (timer.value (machine.run cycles))) ∧
      (∀ timer : Timer, (machine.run (cycles + 1)).faulted = true →
        timer.value (machine.run (cycles + 1)) = timer.value (machine.run cycles)) ∧
      ∀ x, (machine.run cycles).instruction? = some (.readDelay x) →
        Timer.delay.Shows machine cycles ((machine.run (cycles + 1)).registers.get x) := by
  refine ⟨performed_le, ?_, fun timer => timer.shows_value_run machine cycles, ?_, ?_⟩
  · intro cycle bound
    rw [← isSome_iff_lt_performed bound, run_succ_last, faulted_step]
    cases (machine.run cycle).instruction? <;> simp
  · intro timer faulted
    rw [run_succ_last, faulted_step, Option.isNone_iff_eq_none] at faulted
    rw [run_succ_last, timer.value_step_of_none faulted]
  · intro x fetched
    rw [run_succ_last, get_step_of_readDelay fetched]
    exact Timer.delay.shows_value_run machine cycles

/-- Both timers are set to five, the delay timer is read in between, and then the
program runs out of words. -/
def countingDown : Machine := holding [0x60, 0x05, 0xF0, 0x15, 0xF1, 0x07, 0xF0, 0x18]

theorem countingDown_timers :
    countingDown.performed 9 = 4 ∧
      ((countingDown.run 1).instruction? = some (Timer.delay.setting 0) ∧
        (countingDown.run 9).delayTimer.toNat = 5 - (4 - 1)) ∧
      ((countingDown.run 3).instruction? = some (Timer.sound.setting 0) ∧
        (countingDown.run 9).soundTimer.toNat = 5 - (4 - 3)) ∧
      ((∀ cycle < 2, ∀ x, (countingDown.run cycle).instruction? ≠ some (Timer.sound.setting x)) ∧
        (countingDown.run 2).soundTimer.toNat = 0 - 2) ∧
      ((countingDown.run 10).faulted = true ∧
        (countingDown.run 10).soundTimer = (countingDown.run 9).soundTimer) ∧
      (countingDown.run 2).instruction? = some (.readDelay 1) ∧
        ((countingDown.run 3).registers.get 1).toNat = 5 - (2 - 1) := by
  have performed : countingDown.performed 9 = 4 := by decide +kernel
  have delaySet : ∀ cycle < 9, 1 < cycle →
      ∀ y, (countingDown.run cycle).instruction? ≠ some (Timer.delay.setting y) := by
    decide +kernel
  have soundSet : ∀ cycle < 9, 3 < cycle →
      ∀ y, (countingDown.run cycle).instruction? ≠ some (Timer.sound.setting y) := by
    decide +kernel
  have soundUnset : ∀ cycle < 2,
      ∀ x, (countingDown.run cycle).instruction? ≠ some (Timer.sound.setting x) := by
    decide +kernel
  have faulted : (countingDown.run 10).faulted = true := by decide +kernel
  obtain ⟨-, -, shown, still, -⟩ := timers_of_run countingDown 9
  obtain ⟨-, -, early, -, read⟩ := timers_of_run countingDown 2
  refine ⟨performed, ⟨rfl, ?_⟩, ⟨rfl, ?_⟩, ⟨soundUnset, (early .sound).unset soundUnset⟩,
    ⟨faulted, still .sound faulted⟩, rfl, ?_⟩
  · exact (shown .delay).set 1 (by decide) 0 rfl delaySet
  · exact (shown .sound).set 3 (by decide) 0 rfl soundSet
  · exact (read 1 rfl).set 1 (by decide) 0 rfl (by omega)

end Chip8.Machine
