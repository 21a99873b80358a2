import Chip8.Proofs.Fault

/-!
# What a program cannot see

Two machines that agree outside of one part go on to agree outside of it for as long
as no instruction looks at the part. No instruction looks at the sound timer, at the
power or at what was reported of earlier cycles, so that a program runs the same
whatever these were.
-/

namespace Chip8

/-- A field of the machine, or some fields together. -/
inductive Part where
  /-- What no instruction looks at: the sound timer, the power and all that is
  reported of a cycle. -/
  | hidden
  /-- The hidden fields that a cycle does not set anew: the sound timer, the power and
  the word of the last fault. -/
  | lasting
  | keypad
  | delayTimer
  | generator
  | screen

namespace Part

/-- The machine with the part of another one. -/
def graft (part : Part) (donor machine : Machine) : Machine :=
  match part with
  | .hidden =>
      { machine with
        soundTimer := donor.soundTimer
        redraw := donor.redraw
        powered := donor.powered
        faulted := donor.faulted
        illegalOpcode := donor.illegalOpcode }
  | .lasting =>
      { machine with
        soundTimer := donor.soundTimer
        powered := donor.powered
        illegalOpcode := donor.illegalOpcode }
  | .keypad => { machine with keypad := donor.keypad }
  | .delayTimer => { machine with delayTimer := donor.delayTimer }
  | .generator => { machine with key := donor.key }
  | .screen => { machine with screen := donor.screen }

/-- Whether an instruction looks at the part. -/
def isReadBy : Part → Instruction → Bool
  | .keypad, .skipIfKey _ | .keypad, .skipUnlessKey _ | .keypad, .awaitKey _ => true
  | .delayTimer, .readDelay _ => true
  | .generator, .random _ _ => true
  | .screen, .draw _ _ _ => true
  | _, _ => false

/-- The machines agree in everything outside of the part. -/
def AgreeOutside (part : Part) (machine other : Machine) : Prop :=
  other = part.graft other machine

namespace AgreeOutside

variable {part : Part} {machine other : Machine} (agree : part.AgreeOutside machine other)

include agree

theorem exists_graft : ∃ donor, other = part.graft donor machine := ⟨other, agree⟩

/-! ## One cycle -/

theorem fetch_eq : other.fetch = machine.fetch := by
  obtain ⟨donor, rfl⟩ := agree.exists_graft
  cases part <;> rfl

theorem instruction?_eq : other.instruction? = machine.instruction? := by
  rw [Machine.instruction?, Machine.instruction?, agree.fetch_eq]

theorem clearReports : part.AgreeOutside machine.clearReports other.clearReports := by
  obtain ⟨donor, rfl⟩ := agree.exists_graft
  cases part <;> rfl

theorem perform {instruction : Instruction} (unread : part.isReadBy instruction = false) :
    part.AgreeOutside (machine.perform instruction) (other.perform instruction) := by
  obtain ⟨donor, rfl⟩ := agree.exists_graft
  cases part with
  | hidden | lasting => cases instruction <;> rfl
  | keypad =>
      cases instruction with
      | skipIfKey | skipUnlessKey | awaitKey => contradiction
      | _ => rfl
  | delayTimer =>
      cases instruction with
      | readDelay => contradiction
      | _ => rfl
  | generator =>
      cases instruction with
      | random => contradiction
      | _ => rfl
  | screen =>
      cases instruction with
      | draw => contradiction
      | _ => rfl

theorem tickTimers : part.AgreeOutside machine.tickTimers other.tickTimers := by
  obtain ⟨donor, rfl⟩ := agree.exists_graft
  cases part <;> rfl

theorem fault (word : Word) :
    part.AgreeOutside { machine with redraw := false, faulted := true, illegalOpcode := word }
      { other with redraw := false, faulted := true, illegalOpcode := word } := by
  obtain ⟨donor, rfl⟩ := agree.exists_graft
  cases part <;> rfl

theorem step (unread : machine.instruction?.any part.isReadBy = false) :
    part.AgreeOutside machine.step other.step := by
  have same := agree.instruction?_eq
  cases fetched : machine.instruction? with
  | none =>
      rw [Machine.step_of_none fetched, Machine.step_of_none (same.trans fetched), agree.fetch_eq]
      exact agree.fault _
  | some instruction =>
      rw [fetched, Option.any_some] at unread
      rw [Machine.step_of_some fetched, Machine.step_of_some (same.trans fetched)]
      exact (agree.clearReports.perform unread).tickTimers

/-! ## Runs -/

theorem run {cycles : Nat}
    (unread : ∀ cycle < cycles, (machine.run cycle).instruction?.any part.isReadBy = false) :
    part.AgreeOutside (machine.run cycles) (other.run cycles) := by
  induction cycles with
  | zero => exact agree
  | succ cycles inductionHypothesis =>
      have earlier := inductionHypothesis fun cycle bound => unread cycle (by omega)
      rw [Machine.run_succ_last, Machine.run_succ_last]
      exact earlier.step (unread cycles (by omega))

end AgreeOutside

/-! ## The hidden fields -/

theorem any_isReadBy_lasting (fetched : Option Instruction) :
    fetched.any Part.lasting.isReadBy = false := by
  cases fetched <;> rfl

namespace AgreeOutside

variable {machine other : Machine}

/-- A cycle starts by forgetting the reports of the one before. -/
theorem lasting_step (agree : Part.hidden.AgreeOutside machine other) :
    Part.lasting.AgreeOutside machine.step other.step := by
  have cleared : Part.lasting.AgreeOutside machine.clearReports other.clearReports := by
    obtain ⟨donor, rfl⟩ := agree.exists_graft
    rfl
  exact cleared.step (any_isReadBy_lasting _)

theorem lasting_run (agree : Part.hidden.AgreeOutside machine other) {cycles : Nat}
    (positive : 0 < cycles) : Part.lasting.AgreeOutside (machine.run cycles) (other.run cycles) := by
  obtain ⟨cycles, rfl⟩ := Nat.exists_eq_succ_of_ne_zero (Nat.ne_of_gt positive)
  exact agree.lasting_step.run fun _ _ => any_isReadBy_lasting _

/-- From the first fault on, both machines report the word that they fetch in vain. -/
theorem illegalOpcode_run (agree : Part.hidden.AgreeOutside machine other) {fault cycles : Nat}
    (positive : 0 < fault) (within : fault ≤ cycles)
    (faulted : (machine.run fault).faulted = true) :
    (other.run cycles).illegalOpcode = (machine.run cycles).illegalOpcode := by
  have related := agree.lasting_run positive
  have faultedToo : (other.run fault).faulted = true := by
    rw [related]
    exact faulted
  rw [Machine.run_eq_of_faulted positive within faulted,
    Machine.run_eq_of_faulted positive within faultedToo,
    (Machine.stuck_run positive faulted).recorded,
    (Machine.stuck_run positive faultedToo).recorded, related.fetch_eq]

end AgreeOutside

/-- Whatever the hidden fields were, after a cycle only those of them differ that no
cycle sets anew, and the word of the last fault no longer once a cycle has faulted.
Machines that agree outside of another part do so until an instruction looks at it. -/
theorem runs_agree_outside (machine other : Machine) (cycles : Nat) :
    (Part.hidden.AgreeOutside machine other → 0 < cycles →
        Part.lasting.AgreeOutside (machine.run cycles) (other.run cycles) ∧
        ∀ fault, 0 < fault → fault ≤ cycles → (machine.run fault).faulted = true →
          (other.run cycles).illegalOpcode = (machine.run cycles).illegalOpcode) ∧
      ∀ part : Part, part.AgreeOutside machine other →
        (∀ cycle < cycles, (machine.run cycle).instruction?.any part.isReadBy = false) →
        part.AgreeOutside (machine.run cycles) (other.run cycles) :=
  ⟨fun agree positive =>
      ⟨agree.lasting_run positive, fun _ first within => agree.illegalOpcode_run first within⟩,
    fun _ agree unread => agree.run unread⟩

/-- The sound timer is set, and then the program runs out of words. -/
def soundingProgram : Machine := .holding [0x60, 0x05, 0xF0, 0x18]

/-- The same program with other hidden fields and a key that is down. -/
def soundingStranger : Machine :=
  { soundingProgram with
    soundTimer := 9
    redraw := true
    powered := false
    faulted := true
    illegalOpcode := 0xFFFF
    keypad := Keypad.allUp.set 3 true }

theorem soundingProgram_agrees :
    Part.hidden.AgreeOutside soundingProgram (Part.hidden.graft soundingStranger soundingProgram) ∧
      Part.lasting.AgreeOutside (soundingProgram.run 3)
        ((Part.hidden.graft soundingStranger soundingProgram).run 3) ∧
      (soundingProgram.run 3).faulted = true ∧
      ((Part.hidden.graft soundingStranger soundingProgram).run 3).illegalOpcode = 0 ∧
      Part.keypad.AgreeOutside soundingProgram (Part.keypad.graft soundingStranger soundingProgram) ∧
      (∀ cycle < 3, (soundingProgram.run cycle).instruction?.any Part.keypad.isReadBy = false) ∧
      Part.keypad.AgreeOutside (soundingProgram.run 3)
        ((Part.keypad.graft soundingStranger soundingProgram).run 3) := by
  have hidden : Part.hidden.AgreeOutside soundingProgram
      (Part.hidden.graft soundingStranger soundingProgram) := rfl
  have keyed : Part.keypad.AgreeOutside soundingProgram
      (Part.keypad.graft soundingStranger soundingProgram) := rfl
  have faulted : (soundingProgram.run 3).faulted = true := by decide +kernel
  have unread : ∀ cycle < 3,
      (soundingProgram.run cycle).instruction?.any Part.keypad.isReadBy = false := by
    decide +kernel
  obtain ⟨unseen, -⟩ := runs_agree_outside _ _ 3
  obtain ⟨-, apart⟩ := runs_agree_outside _ _ 3
  obtain ⟨lasting, reported⟩ := unseen hidden (by decide)
  refine ⟨hidden, lasting, faulted, ?_, keyed, unread, apart .keypad keyed unread⟩
  rw [reported 3 (by decide) (by decide) faulted]
  decide +kernel

end Part

end Chip8
