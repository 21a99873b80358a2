import Chip8.Proofs.ProgramCounter
import Chip8.Proofs.Timers

/-!
# Waiting for a key

A cycle that waits while no key is down counts the timers down and leaves all else as it was,
so the next cycle fetches the same word and waits again. Cycles of waiting add up to one count
of the timers, and the first cycle that finds a key down goes on behind the word.
-/

namespace Chip8.Machine

/-! ## Counting down over several cycles -/

/-- What a timer has come down to after some cycles. -/
def lowered (timer : Byte) (cycles : Nat) : Byte := BitVec.ofNat 8 (timer.toNat - cycles)

section Lowered

variable (timer : Byte)

theorem toNat_lowered (cycles : Nat) : (lowered timer cycles).toNat = timer.toNat - cycles := by
  have bound := timer.isLt
  rw [lowered, BitVec.toNat_ofNat]
  omega

theorem lowered_lowered (first second : Nat) :
    lowered (lowered timer first) second = lowered timer (first + second) := by
  apply BitVec.eq_of_toNat_eq
  rw [toNat_lowered, toNat_lowered, toNat_lowered, Nat.sub_sub]

theorem countDown_eq_lowered : countDown timer = lowered timer 1 := by
  apply BitVec.eq_of_toNat_eq
  rw [toNat_countDown, toNat_lowered]

end Lowered

/-- The machine after some cycles that did nothing but count the timers down. -/
def waited (machine : Machine) (cycles : Nat) : Machine :=
  { machine with
    delayTimer := lowered machine.delayTimer cycles
    soundTimer := lowered machine.soundTimer cycles
    redraw := false
    faulted := false }

theorem waited_waited (machine : Machine) (first second : Nat) :
    (machine.waited first).waited second = machine.waited (first + second) := by
  simp only [waited, lowered_lowered]

theorem waited_withKeypad (machine : Machine) (keypad : Keypad) (cycles : Nat) :
    { machine with keypad }.waited cycles = { machine.waited cycles with keypad } := rfl

theorem tickTimers_clearReports (machine : Machine) :
    machine.clearReports.tickTimers = machine.waited 1 := by
  simp only [tickTimers, clearReports, waited, countDown_eq_lowered]

/-! ## One cycle -/

section Step

variable {machine : Machine}

theorem instruction?_of_isMisc (waiting : machine.fetch.IsMisc 0x0A) :
    machine.instruction? = some (.awaitKey machine.fetch.x) :=
  Instruction.decode_eq_some_iff.mpr (Word.Spells.awaitKey waiting.1 waiting.2).encode_eq

theorem perform_awaitKey (x : Nibble) :
    machine.perform (.awaitKey x) =
      { machine with pc := machine.pc + if machine.keypad.anyDown then next else stay } := rfl

/-- A key that is down ends the wait. -/
theorem step_of_key (waiting : machine.fetch.IsMisc 0x0A)
    (down : ∃ key, machine.keypad.isDown key = true) :
    machine.step = { machine.waited 1 with pc := machine.pc + next } := by
  have found : machine.clearReports.keypad.anyDown = true := machine.keypad.anyDown_iff.mpr down
  rw [step_of_some (instruction?_of_isMisc waiting), perform_awaitKey, if_pos found,
    ← tickTimers_clearReports]
  rfl

theorem step_of_waits (waits : machine.Waits machine.fetch) : machine.step = machine.waited 1 := by
  rcases waits with ⟨waiting, up⟩
  have none : ¬machine.clearReports.keypad.anyDown = true := by
    rw [Keypad.anyDown_iff]
    rintro ⟨key, down⟩
    exact absurd down (by simp [clearReports, up])
  rw [step_of_some (instruction?_of_isMisc waiting), perform_awaitKey, if_neg none, add_stay,
    ← tickTimers_clearReports]

end Step

/-! ## Runs -/

/-- The word, its place and the keys are still the same, so each cycle waits as the first. -/
theorem run_of_waits {machine : Machine} (waits : machine.Waits machine.fetch) (cycles : Nat) :
    machine.run (cycles + 1) = machine.waited (cycles + 1) := by
  induction cycles with
  | zero => exact step_of_waits waits
  | succ cycles inductionHypothesis =>
      have again : (machine.waited (cycles + 1)).Waits (machine.waited (cycles + 1)).fetch := waits
      rw [run_succ_last, inductionHypothesis, step_of_waits again, waited_waited]

/-- Cycles that wait for a key while none is down come to one count of both timers, and
nothing is drawn or at fault. With any keypad that has a key down the cycle after them moves the
program counter behind the word, counts the timers once more and changes nothing else. -/
theorem waiting_for_key (machine : Machine) (cycles : Nat)
    (waiting : machine.fetch.IsMisc 0x0A) (up : ∀ key, machine.keypad.isDown key = false)
    (positive : 1 ≤ cycles) :
    machine.run cycles =
        { machine with
          delayTimer := BitVec.ofNat 8 (machine.delayTimer.toNat - cycles)
          soundTimer := BitVec.ofNat 8 (machine.soundTimer.toNat - cycles)
          redraw := false
          faulted := false } ∧
      ∀ keypad : Keypad, (∃ key, keypad.isDown key = true) →
        { machine.run cycles with keypad }.step =
          { machine with
            keypad
            pc := machine.pc + 2
            delayTimer := BitVec.ofNat 8 (machine.delayTimer.toNat - (cycles + 1))
            soundTimer := BitVec.ofNat 8 (machine.soundTimer.toNat - (cycles + 1))
            redraw := false
            faulted := false } := by
  obtain ⟨earlier, rfl⟩ := Nat.exists_eq_add_of_le' positive
  have waited := run_of_waits ⟨waiting, up⟩ earlier
  refine ⟨waited, ?_⟩
  intro keypad down
  have fetched : { machine.waited (earlier + 1) with keypad }.fetch.IsMisc 0x0A := waiting
  rw [waited, step_of_key fetched down, waited_withKeypad, waited_waited]
  rfl

/-- A machine whose word is the last of memory and goes on at the first, with one timer about
to run out and the reports of an earlier cycle still raised. -/
def waitingAcrossTheEnd : Machine :=
  { holding [] with
    memory := (Memory.zero.write 0xFFF 0xF7).write 0 0x0A
    pc := 0xFFFF
    delayTimer := 3
    soundTimer := 200
    redraw := true
    faulted := true }

theorem waitingAcrossTheEnd_waits :
    waitingAcrossTheEnd.fetch.IsMisc 0x0A ∧
      (∀ key, waitingAcrossTheEnd.keypad.isDown key = false) ∧
      (waitingAcrossTheEnd.run 100).pc = 0xFFFF ∧
      (waitingAcrossTheEnd.run 100).delayTimer = 0 ∧
      (waitingAcrossTheEnd.run 100).soundTimer = 100 ∧
      (∃ key, (Keypad.allUp.set 5 true).isDown key = true) ∧
      { waitingAcrossTheEnd.run 100 with keypad := Keypad.allUp.set 5 true }.step.pc = 1 ∧
      { waitingAcrossTheEnd.run 100 with keypad := Keypad.allUp.set 5 true }.step.soundTimer =
        99 := by
  have waiting : waitingAcrossTheEnd.fetch.IsMisc 0x0A :=
    ⟨by decide +kernel, by decide +kernel⟩
  have up : ∀ key, waitingAcrossTheEnd.keypad.isDown key = false := Keypad.isDown_allUp
  have down : ∃ key, (Keypad.allUp.set 5 true).isDown key = true := ⟨5, by decide⟩
  obtain ⟨waited, resumed⟩ := waiting_for_key waitingAcrossTheEnd 100 waiting up (by decide)
  refine ⟨waiting, up, ?_, ?_, ?_, down, ?_, ?_⟩
  · rw [waited]
    rfl
  · rw [waited]
    rfl
  · rw [waited]
    rfl
  · rw [resumed _ down]
    rfl
  · rw [resumed _ down]
    rfl

end Chip8.Machine
