import Chip8.Proofs.Fault
import Chip8.Session

/-!
# Many cycles at once

A run of several cycles does not look at faults until it is over, whereas a host
that gives one cycle after another stops at the first fault. Both end the same
way: a faulted machine is a fixed point of the cycle, so the cycles that a run
goes on with after a fault change nothing. Neither does watching the run.
-/

namespace Chip8

theorem scan_fst {State Input Output : Type} (body : State → Input → State × Output)
    (state : State) (inputs : List Input) :
    (scan body state inputs).1 =
      inputs.foldl (fun state input => (body state input).1) state := by
  induction inputs generalizing state with
  | nil => rfl
  | cons input inputs inductionHypothesis =>
      simp only [scan, List.foldl_cons]
      exact inductionHypothesis _

theorem Progress.Meter.final_scan {State Output : Type} (meter : Meter)
    (body : State → Nat → State × Output) (start : State) :
    (meter.scan body start).final =
      (List.range meter.total.toNat).foldl
        (fun state iteration => (body state iteration).1) start :=
  scan_fst (meter.watch body) start _

namespace Machine

theorem foldl_step (machine : Machine) {Input : Type} (inputs : List Input) :
    inputs.foldl (fun state _ => state.step) machine = machine.run inputs.length := by
  induction inputs generalizing machine with
  | nil => rfl
  | cons input inputs inductionHypothesis =>
      rw [List.foldl_cons, inductionHypothesis, List.length_cons, run_succ]

@[simp] theorem runReporting_fst (machine : Machine) (cycles : Nat) :
    (machine.runReporting cycles).1 = machine.run cycles := by
  have final := (Progress.cyclesMeter cycles).final_scan
    (fun (state : Machine) _ => (state.step, ())) machine
  rw [foldl_step, List.length_range] at final
  exact final

end Machine

namespace Session

variable {session : Session} {machine : Machine}

/-! ## Taking over a machine that has run -/

theorem settle_of_sound (sound : machine.faulted = false) (answer : Option Bool)
    (events : List Progress.Event) :
    session.settle machine answer events =
      ({ session with machine }, { result := .ok answer, events }) := by
  simp [settle, Machine.fault?, sound]

theorem settle_of_fault {error : Error} (fault : machine.fault? = some error)
    (answer : Option Bool) (events : List Progress.Event) :
    session.settle machine answer events =
      ({ machine, logger := (session.logger.log .error (error.message?.getD "")).1 },
        { result := .error error
          lines := (session.logger.log .error (error.message?.getD "")).2.toList
          events }) := by
  simp [settle, fault]

@[simp] theorem machine_settle (answer : Option Bool) (events : List Progress.Event) :
    (session.settle machine answer events).1.machine = machine := by
  cases fault : machine.fault? <;> simp [settle, fault]

/-- What the bar was told is passed on and decides nothing. -/
theorem settle_events (answer : Option Bool) (events : List Progress.Event) :
    session.settle machine answer events =
      ((session.settle machine answer []).1,
        { (session.settle machine answer []).2 with events }) := by
  cases fault : machine.fault? <;> simp [settle, fault]

/-- A command that runs a machine fails only by an illegal word. -/
theorem result_settle (answer : Option Bool) (events : List Progress.Event) :
    (session.settle machine answer events).2.result = .ok answer ∨
      ∃ opcode address, (session.settle machine answer events).2.result =
        .error (.illegalOpcode opcode (some address)) := by
  cases faulted : machine.faulted with
  | false => exact .inl (by rw [settle_of_sound faulted])
  | true =>
      have fault : machine.fault? = some
          (.illegalOpcode machine.illegalOpcode.toNat (some machine.pc.toNat)) := by
        simp [Machine.fault?, faulted]
      exact .inr ⟨_, _, by rw [settle_of_fault fault]⟩

theorem run_of_powered (powered : session.machine.powered = true) (cycles : Nat)
    (progress : Bool) :
    session.run cycles progress =
      session.settle (session.machine.run cycles) none
        (if progress then (session.machine.runReporting cycles).2 else []) := by
  cases progress <;> simp [run, powered]

theorem run_eq_settle (powered : session.machine.powered = true) (cycles : Nat)
    (progress : Bool) :
    ∃ events, session.run cycles progress =
      session.settle (session.machine.run cycles) none events :=
  ⟨_, run_of_powered powered cycles progress⟩

/-! ## One cycle after another -/

/-- Single cycles up to a number of them. The first that fails is the last. -/
def stepUpTo (session : Session) : (cycles : Nat) → Session × Reply
  | 0 => (session, { result := .ok none })
  | cycles + 1 =>
      let (stepped, reply) := session.step
      match reply.result with
      | .error _ => (stepped, reply)
      | .ok _ =>
          let (final, rest) := stepped.stepUpTo cycles
          (final, { rest with
            lines := reply.lines ++ rest.lines
            events := reply.events ++ rest.events })

/-- Going cycle by cycle, a host meets the machine that the whole run leaves. -/
theorem stepUpTo_eq_settle (session : Session) (cycles : Nat)
    (powered : session.machine.powered = true)
    (due : 0 < cycles ∨ session.machine.faulted = false) :
    session.stepUpTo cycles = session.settle (session.machine.run cycles) none [] := by
  induction cycles generalizing session with
  | zero =>
      have sound : session.machine.faulted = false := due.resolve_left (by simp)
      rw [Machine.run_zero, settle_of_sound sound, stepUpTo]
  | succ cycles inductionHypothesis =>
      have stepped : session.step =
          session.settle session.machine.step (some session.machine.step.redraw) [] := by
        simp [step, powered]
      rw [stepUpTo, stepped, Machine.run_succ]
      cases faulted : session.machine.step.faulted with
      | false =>
          have rest := inductionHypothesis { session with machine := session.machine.step }
            (by simpa using powered) (.inr faulted)
          rw [settle_of_sound faulted]
          simp only [rest, List.nil_append]
          rfl
      | true =>
          -- The run goes on after the fault, but in vain.
          have stuck := Machine.stuck_step faulted
          rw [stuck.run_eq, settle_of_fault stuck.fault?_eq, settle_of_fault stuck.fault?_eq]

/-- A run, watched or not, and the same number of single cycles up to the first
fault leave the same session, fail alike and log the same lines. After a fault
nothing moves, however many cycles the run has left. -/
theorem run_agrees_with_single_cycles (session : Session) (cycles : Nat) (progress : Bool)
    (powered : session.machine.powered = true)
    (due : 0 < cycles ∨ session.machine.faulted = false) :
    (session.run cycles progress).1 = (session.stepUpTo cycles).1 ∧
      (session.run cycles progress).2.result = (session.stepUpTo cycles).2.result ∧
      (session.run cycles progress).2.lines = (session.stepUpTo cycles).2.lines ∧
      ((session.run cycles progress).2.result = .ok none ∨
        ∃ opcode address, (session.run cycles progress).2.result =
          .error (.illegalOpcode opcode (some address))) ∧
      ∀ fault, 0 < fault → fault ≤ cycles →
        (session.machine.run fault).faulted = true →
        (session.run cycles progress).1.machine = session.machine.run fault := by
  obtain ⟨events, batch⟩ := run_eq_settle powered cycles progress
  rw [batch, stepUpTo_eq_settle session cycles powered due, settle_events none events]
  refine ⟨rfl, rfl, rfl, result_settle none [], ?_⟩
  intro fault positive within faulted
  rw [machine_settle]
  exact Machine.run_eq_of_faulted positive within faulted

/-- A new session whose logger keeps to warnings and leaves out the time. -/
def fresh : Session where
  machine := { key := ⟨0, 0⟩, dialect := .schip, wrapMode := .wrap }
  logger := {
    name := "M", threshold := .warning, colored := false, stamped := false, start := 0.0
    clock := { reading := fun _ => 0.0 } }

/-- A program of one instruction, about to run out of words. -/
def oneInstruction : Session := { fresh with machine := .holding [0x60, 0x07] }

theorem oneInstruction_run_agrees :
    oneInstruction.machine.powered = true ∧
      (oneInstruction.run 5 true).1 = (oneInstruction.stepUpTo 5).1 ∧
      (oneInstruction.stepUpTo 5).2.result = .error (.illegalOpcode 0 (some 2)) ∧
      (oneInstruction.run 5 true).1.machine = oneInstruction.machine.run 2 := by
  have powered : oneInstruction.machine.powered = true := rfl
  obtain ⟨session, result, -, -, stopped⟩ :=
    run_agrees_with_single_cycles oneInstruction 5 true powered (.inl (by decide))
  exact ⟨powered, session, by rw [← result]; rfl, stopped 2 (by decide) (by decide) rfl⟩

end Session

end Chip8
