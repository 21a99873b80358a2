import Chip8.Proofs.History
import Mathlib.Data.List.Induction

/-!
# Fault reports over histories

The fault flag, the stored word and the program counter of a machine belong to
one another after every history of commands: a flag that is set stands for the
illegal word at the program counter, and without a flag no word is stored. A
set flag stays, and every request for cycles fails with one and the same error,
until the machine is started afresh.
-/

namespace Chip8

/-- The fault fields of a machine say what is the case. -/
structure Machine.Truthful (machine : Machine) : Prop where
  stuck : machine.faulted = true → machine.Stuck
  powered : machine.faulted = true → machine.powered = true
  cleared : machine.faulted = false → machine.illegalOpcode = 0

namespace Machine.Truthful

variable {machine : Machine}

theorem step (truthful : machine.Truthful) (powered : machine.powered = true) :
    machine.step.Truthful where
  stuck := stuck_step
  powered _ := by rw [powered_step, powered]
  cleared sound := by
    cases fetched : machine.instruction? with
    | none => simp [faulted_step, fetched] at sound
    | some instruction =>
        -- A fault is never lost: a machine that is sound now was sound before.
        have before : machine.faulted = false := by
          apply Bool.eq_false_iff.mpr
          intro faulted
          have none := instruction?_eq_none (truthful.stuck faulted).illegal
          rw [fetched] at none
          contradiction
        rw [step_of_some fetched]
        simpa [tickTimers, clearReports] using truthful.cleared before

theorem run (truthful : machine.Truthful) (powered : machine.powered = true) (cycles : Nat) :
    (machine.run cycles).Truthful := by
  induction cycles with
  | zero => exact truthful
  | succ cycles inductionHypothesis =>
      rw [run_succ_last]
      exact inductionHypothesis.step (by simpa using powered)

theorem withKeypad (truthful : machine.Truthful) (keypad : Keypad) :
    { machine with keypad }.Truthful where
  stuck faulted := (truthful.stuck faulted).withKeypad keypad
  powered := truthful.powered
  cleared := truthful.cleared

theorem of_sound (sound : machine.faulted = false) (cleared : machine.illegalOpcode = 0) :
    machine.Truthful where
  stuck faulted := by simp [sound] at faulted
  powered faulted := by simp [sound] at faulted
  cleared _ := cleared

end Machine.Truthful

namespace Session

theorem Effect.truthful {session : Session} {command : Command} {outcome : Session × Reply}
    (effect : Effect session command outcome) (truthful : session.machine.Truthful) :
    outcome.1.machine.Truthful := by
  cases effect with
  | restarted => exact .of_sound rfl rfl
  | refused => exact truthful
  | ran _ powered =>
      rw [machine_settle]
      exact truthful.run powered _
  | keyed => exact truthful.withKeypad _

theorem truthful_after {start : Session} (created : start.Created) (history : List Command) :
    (start.after history).machine.Truthful := by
  apply after_invariant fun session => session.machine.Truthful
  · intro session command truthful
    exact (session.effect_perform command).truthful truthful
  · obtain ⟨key, dialect, wrapMode, fresh⟩ := created.machine_eq
    rw [fresh]
    exact .of_sound rfl rfl

/-! ## A fault lasts -/

def faultError (session : Session) : Error :=
  .illegalOpcode session.machine.illegalOpcode.toNat (some session.machine.pc.toNat)

/-- From now on, unless the machine is started afresh, every request for cycles
fails with this error and only the keys can change. -/
def FailsUntilRestart (session : Session) (error : Error) : Prop :=
  ∀ later : List Command, (∀ command ∈ later, command.restarts = false) →
    (∃ keypad, (session.after later).machine = { session.machine with keypad }) ∧
      ∀ command, command.runs = true →
        ((session.after later).perform command).2.result = .error error

/-- The error was raised by a request for cycles that met a sound machine, and
the machine was not started afresh since. -/
def FirstRaised (start : Session) (history : List Command) (error : Error) : Prop :=
  ∃ before command between,
    history = before ++ command :: between ∧
      (start.after before).machine.faulted = false ∧
      command.runs = true ∧
      ((start.after before).perform command).2.result = .error error ∧
      ∀ later ∈ between, later.restarts = false

theorem Effect.of_stuck {session : Session} {command : Command} {outcome : Session × Reply}
    (effect : Effect session command outcome) (stuck : session.machine.Stuck)
    (powered : session.machine.powered = true) (kept : command.restarts = false) :
    (∃ keypad, outcome.1.machine = { session.machine with keypad }) ∧
      (command.runs = true → outcome.2.result = .error session.faultError) := by
  cases effect with
  | restarted restarts => simp [kept] at restarts
  | refused _ unpowered =>
      refine ⟨⟨session.machine.keypad, rfl⟩, ?_⟩
      intro runs
      have off := unpowered runs
      simp [powered] at off
  | ran =>
      rw [stuck.run_eq, settle_of_fault stuck.fault?_eq]
      exact ⟨⟨session.machine.keypad, rfl⟩, fun _ => rfl⟩
  | @keyed keypad _ idle =>
      refine ⟨⟨keypad, rfl⟩, ?_⟩
      intro runs
      simp [idle] at runs

section Stuck

variable (session : Session) (stuck : session.machine.Stuck)
  (powered : session.machine.powered = true)

include stuck powered

theorem stuck_of_keys {other : Session} {keypad : Keypad}
    (same : other.machine = { session.machine with keypad }) :
    other.machine.Stuck ∧ other.machine.powered = true := by
  rw [same]
  exact ⟨stuck.withKeypad keypad, powered⟩

theorem machine_after_of_stuck (later : List Command)
    (kept : ∀ command ∈ later, command.restarts = false) :
    ∃ keypad, (session.after later).machine = { session.machine with keypad } := by
  induction later using List.reverseRecOn with
  | nil => exact ⟨session.machine.keypad, rfl⟩
  | append_singleton earlier command inductionHypothesis =>
      obtain ⟨keypad, same⟩ := inductionHypothesis
        fun command member => kept command (List.mem_append_left _ member)
      obtain ⟨stuckNow, poweredNow⟩ := stuck_of_keys session stuck powered same
      obtain ⟨⟨keypad, changed⟩, -⟩ :=
        (effect_perform _ command).of_stuck stuckNow poweredNow (kept command (by simp))
      refine ⟨keypad, ?_⟩
      rw [after_append, after_cons, after_nil, changed, same]

theorem failsUntilRestart_of_stuck : session.FailsUntilRestart session.faultError := by
  intro later kept
  obtain ⟨keypad, same⟩ := machine_after_of_stuck session stuck powered later kept
  obtain ⟨stuckNow, poweredNow⟩ := stuck_of_keys session stuck powered same
  refine ⟨⟨keypad, same⟩, ?_⟩
  intro command runs
  obtain ⟨-, failed⟩ :=
    (effect_perform _ command).of_stuck stuckNow poweredNow (Command.restarts_of_runs runs)
  rw [failed runs, faultError, faultError, same]

end Stuck

/-! ## Where a fault comes from -/

theorem Effect.sound_of_restarts {session : Session} {command : Command}
    {outcome : Session × Reply} (effect : Effect session command outcome)
    (restarts : command.restarts = true) : outcome.1.machine.faulted = false := by
  cases effect with
  | restarted => rfl
  | refused kept => simp [restarts] at kept
  | ran runs => simp [Command.restarts_of_runs runs] at restarts
  | keyed kept => simp [restarts] at kept

/-- Only a cycle can fault a sound machine, and it raises the error at once. -/
theorem Effect.raised_of_sound {session : Session} {command : Command}
    {outcome : Session × Reply} (effect : Effect session command outcome)
    (sound : session.machine.faulted = false) (faulted : outcome.1.machine.faulted = true) :
    command.runs = true ∧ outcome.2.result = .error outcome.1.faultError := by
  cases effect with
  | restarted => simp [Machine.reset] at faulted
  | refused => simp [refuse, sound] at faulted
  | ran runs =>
      rw [machine_settle] at faulted
      have fault : (session.machine.run _).fault? = some _ := if_pos faulted
      refine ⟨runs, ?_⟩
      rw [settle_of_fault fault]
      rfl
  | keyed => simp [update, sound] at faulted

theorem firstRaised_of_faulted {start : Session} (created : start.Created)
    (history : List Command) (faulted : (start.after history).machine.faulted = true) :
    FirstRaised start history (start.after history).faultError := by
  induction history using List.reverseRecOn with
  | nil =>
      obtain ⟨key, dialect, wrapMode, fresh⟩ := created.machine_eq
      simp [fresh] at faulted
  | append_singleton earlier command inductionHypothesis =>
      have truthful := truthful_after created earlier
      rw [after_append, after_cons, after_nil] at faulted ⊢
      have effect := (start.after earlier).effect_perform command
      cases before : (start.after earlier).machine.faulted with
      | false =>
          obtain ⟨runs, raised⟩ := effect.raised_of_sound before faulted
          exact ⟨earlier, command, [], rfl, before, runs, raised, by simp⟩
      | true =>
          have kept : command.restarts = false := by
            apply Bool.eq_false_iff.mpr
            intro restarts
            simp [effect.sound_of_restarts restarts] at faulted
          obtain ⟨first, cycle, between, split, sound, runs, raised, quiet⟩ :=
            inductionHypothesis before
          obtain ⟨keypad, same⟩ :=
            (effect.of_stuck (truthful.stuck before) (truthful.powered before) kept).1
          refine ⟨first, cycle, between ++ [command], by simp [split], sound, runs, ?_, ?_⟩
          · rw [raised, faultError, faultError, same]
          · intro later member
            rcases List.mem_append.mp member with inside | last
            · exact quiet later inside
            · rw [List.mem_singleton.mp last, kept]

/-- After every history of commands, failed ones included, the fault fields are
true of the word at the program counter. A fault came from a cycle that raised
its error, and the error is raised again by every cycle until the machine is
started afresh. -/
theorem fault_fields_after_history (start : Session) (created : start.Created)
    (history : List Command) :
    ((start.after history).machine.faulted = true →
        (start.after history).machine.illegalOpcode = (start.after history).machine.fetch ∧
        (start.after history).machine.fetch.isLegal = false ∧
        (start.after history).machine.redraw = false ∧
        FirstRaised start history (start.after history).faultError ∧
        (start.after history).FailsUntilRestart (start.after history).faultError) ∧
      ((start.after history).machine.faulted = false →
        (start.after history).machine.illegalOpcode = 0) := by
  have truthful := truthful_after created history
  refine ⟨fun faulted => ?_, truthful.cleared⟩
  have stuck := truthful.stuck faulted
  exact ⟨stuck.recorded, stuck.illegal, stuck.undrawn,
    firstRaised_of_faulted created history faulted,
    failsUntilRestart_of_stuck _ stuck (truthful.powered faulted)⟩

/-- A program that runs out of words, and a host that goes on all the same. -/
theorem fault_fields_after_run :
    fresh.Created ∧
      (fresh.after [.load [0x60, 0x07], .run 9 true]).machine.faulted = true ∧
      (fresh.after [.load [0x60, 0x07], .run 9 true]).machine.illegalOpcode =
        (fresh.after [.load [0x60, 0x07], .run 9 true]).machine.fetch ∧
      (((fresh.after [.load [0x60, 0x07], .run 9 true]).after
          [.press 3, .press 16]).perform (.run 0 false)).2.result =
        .error (.illegalOpcode 0 (some 0x202)) := by
  have faulted : (fresh.after [.load [0x60, 0x07], .run 9 true]).machine.faulted = true := by
    decide +kernel
  have error : (fresh.after [.load [0x60, 0x07], .run 9 true]).faultError =
      .illegalOpcode 0 (some 0x202) := by
    decide +kernel
  obtain ⟨recorded, -, -, -, fails⟩ :=
    (fault_fields_after_history fresh created_fresh [.load [0x60, 0x07], .run 9 true]).1 faulted
  rw [error] at fails
  exact ⟨created_fresh, faulted, recorded,
    (fails [.press 3, .press 16] (by decide)).2 (.run 0 false) rfl⟩

end Session

end Chip8
