import Chip8.Proofs.Batch

/-!
# Histories of commands

A host may give commands in any order, and some of them fail. `Session.Effect`
says the four things that a command can do to a session: start the machine
afresh, refuse, run it, or change its keys. What holds of a new session and
survives each of the four holds after every history.
-/

namespace Chip8

namespace Command

/-- Whether a command asks for cycles. -/
def runs : Command → Bool
  | .step | .run _ _ => true
  | _ => false

/-- Whether a command starts the machine afresh: a reset, or a load of a program
that fits. -/
def restarts : Command → Bool
  | .reset => true
  | .load program | .loadFile (.ok program) => program.length ≤ Memory.programCapacity
  | _ => false

theorem restarts_of_runs {command : Command} (runs : command.runs = true) :
    command.restarts = false := by
  cases command with
  | step => rfl
  | run => rfl
  | _ => simp [Command.runs] at runs

end Command

/-- A new machine has the key of its seed and its two choices, and all else at power-on. -/
theorem Machine.of_create? {seed dialect wrapMode : Setting} {machine : Machine}
    (built : create? seed dialect wrapMode = .ok machine) :
    ∃ key dialect wrapMode,
      Random.Key.ofSetting? seed = .ok key ∧ machine = { key, dialect, wrapMode } := by
  simp only [create?, Error.bind_eq_ok_iff, pure, Except.pure, Except.ok.injEq] at built
  obtain ⟨key, keyed, dialect, -, wrapMode, -, made⟩ := built
  exact ⟨key, dialect, wrapMode, keyed, made.symm⟩

namespace Session

/-! ## One command -/

inductive Effect (session : Session) (command : Command) : Session × Reply → Prop where
  | restarted {memory : Memory} {powered : Bool} {logger : Log.Logger} {reply : Reply} :
      command.restarts = true →
      Effect session command
        ({ machine := { session.machine.reset with memory, powered }, logger }, reply)
  /-- A refusal leaves no trace. Cycles are only refused without power. -/
  | refused {error : Error} :
      command.restarts = false →
      (command.runs = true → session.machine.powered = false) →
      Effect session command (session.refuse error)
  | ran {cycles : Nat} {answer : Option Bool} {events : List Progress.Event} :
      command.runs = true →
      session.machine.powered = true →
      Effect session command (session.settle (session.machine.run cycles) answer events)
  | keyed {keypad : Keypad} :
      command.restarts = false →
      command.runs = false →
      Effect session command (session.update { session.machine with keypad })

theorem effect_load (session : Session) {command : Command} {program : List Byte}
    (restarts : command.restarts = decide (program.length ≤ Memory.programCapacity))
    (idle : command.runs = false) :
    Effect session command (session.load program) := by
  by_cases fits : program.length ≤ Memory.programCapacity
  · simp only [load, Machine.load?, if_pos fits]
    exact .restarted (by simpa using restarts.trans (decide_eq_true fits))
  · simp only [load, Machine.load?, if_neg fits]
    exact .refused (restarts.trans (decide_eq_false fits)) (by simp [idle])

/-- How many cycles a command carries out. -/
def cycleCount (session : Session) : Command → Nat
  | .step => if session.machine.powered then 1 else 0
  | .run cycles _ => if session.machine.powered then cycles else 0
  | _ => 0

theorem cycleCount_of_unpowered {session : Session} (unpowered : session.machine.powered = false)
    (command : Command) : session.cycleCount command = 0 := by
  cases command <;> simp [cycleCount, unpowered]

theorem perform_of_unpowered {session : Session} {command : Command}
    (runs : command.runs = true) (unpowered : session.machine.powered = false) :
    session.perform command = session.refuse .notPowered := by
  cases command with
  | step => simp [perform, step, unpowered]
  | run => simp [perform, run, unpowered]
  | _ => simp [Command.runs] at runs

theorem perform_of_powered {session : Session} {command : Command}
    (runs : command.runs = true) (powered : session.machine.powered = true) :
    ∃ answer events, session.perform command =
      session.settle (session.machine.run (session.cycleCount command)) answer events := by
  cases command with
  | step =>
      refine ⟨some session.machine.step.redraw, [], ?_⟩
      simp only [perform, step, cycleCount, if_pos powered]
      rfl
  | run cycles progress =>
      obtain ⟨events, settled⟩ := run_eq_settle powered cycles progress
      exact ⟨none, events, by rw [perform, settled, cycleCount, if_pos powered]⟩
  | _ => simp [Command.runs] at runs

theorem machine_perform_of_runs (session : Session) (command : Command)
    (runs : command.runs = true) :
    (session.perform command).1.machine = session.machine.run (session.cycleCount command) := by
  cases powered : session.machine.powered with
  | false =>
      rw [perform_of_unpowered runs powered, cycleCount_of_unpowered powered]
      rfl
  | true =>
      obtain ⟨answer, events, settled⟩ := perform_of_powered runs powered
      rw [settled, machine_settle]

theorem effect_of_runs (session : Session) {command : Command} (runs : command.runs = true) :
    Effect session command (session.perform command) := by
  cases powered : session.machine.powered with
  | false =>
      rw [perform_of_unpowered runs powered]
      exact .refused (Command.restarts_of_runs runs) (fun _ => powered)
  | true =>
      obtain ⟨answer, events, settled⟩ := perform_of_powered runs powered
      rw [settled]
      exact .ran runs powered

theorem effect_setKey (session : Session) {command : Command}
    (kept : command.restarts = false) (idle : command.runs = false) (key : Int)
    (down : Bool) : Effect session command (session.setKey key down) := by
  rw [setKey]
  split
  next name found => exact .keyed kept idle
  next error failed => exact .refused kept (by simp [idle])

theorem effect_setKeys (session : Session) (states : Nested Bool) :
    Effect session (.setKeys states) (session.setKeys states) := by
  rw [setKeys]
  split
  next keypad found => exact .keyed rfl rfl
  next error failed => exact .refused rfl (by simp [Command.runs])

theorem effect_perform (session : Session) (command : Command) :
    Effect session command (session.perform command) := by
  cases command with
  | reset => exact @Effect.restarted session .reset Font.memory false _ _ rfl
  | load program => exact session.effect_load rfl rfl
  | loadFile contents =>
      cases contents with
      | error fault => exact .refused rfl (by simp [Command.runs])
      | ok program => exact session.effect_load rfl rfl
  | step => exact session.effect_of_runs rfl
  | run cycles progress => exact session.effect_of_runs rfl
  | press key => exact session.effect_setKey rfl rfl key true
  | release key => exact session.effect_setKey rfl rfl key false
  | setKeys states => exact session.effect_setKeys states

/-- A load answers without an error exactly when it starts the machine afresh. -/
theorem result_load_eq_ok_iff (session : Session) (program : List Byte) :
    (session.load program).2.result = .ok none ↔ (Command.load program).restarts = true := by
  by_cases fits : program.length ≤ Memory.programCapacity
  · simp [load, Machine.load?, fits, accept, Command.restarts]
  · simp [load, Machine.load?, fits, refuse, Command.restarts]

/-! ## Sequences of commands -/

theorem machine_of_create? {logger : Log.Logger} {seed dialect wrapMode : Setting}
    {session : Session} (built : create? logger seed dialect wrapMode = .ok session) :
    Machine.create? seed dialect wrapMode = .ok session.machine := by
  simp only [create?, Error.bind_eq_ok_iff, pure, Except.pure, Except.ok.injEq] at built
  obtain ⟨machine, made, rfl⟩ := built
  exact made

/-- A session that no command has touched. -/
def Created (session : Session) : Prop :=
  ∃ logger seed dialect wrapMode, create? logger seed dialect wrapMode = .ok session

theorem Created.machine_eq {session : Session} (created : session.Created) :
    ∃ key dialect wrapMode, session.machine = { key, dialect, wrapMode } := by
  obtain ⟨logger, seed, dialect, wrapMode, built⟩ := created
  obtain ⟨key, spoken, wrapped, -, made⟩ := Machine.of_create? (machine_of_create? built)
  exact ⟨key, spoken, wrapped, made⟩

theorem created_fresh : fresh.Created :=
  ⟨fresh.logger, .number 0, .text "schip", .text "wrap", rfl⟩

def after (session : Session) (history : List Command) : Session :=
  (session.performAll history).1

@[simp] theorem after_nil (session : Session) : session.after [] = session := rfl

@[simp] theorem after_cons (session : Session) (command : Command) (rest : List Command) :
    session.after (command :: rest) = (session.perform command).1.after rest := rfl

theorem after_append (session : Session) (first second : List Command) :
    session.after (first ++ second) = (session.after first).after second := by
  induction first generalizing session with
  | nil => rfl
  | cons command rest inductionHypothesis =>
      rw [List.cons_append, after_cons, after_cons, inductionHypothesis]

theorem after_invariant (Holds : Session → Prop)
    (kept : ∀ session command, Holds session → Holds (session.perform command).1)
    {session : Session} (start : Holds session) (history : List Command) :
    Holds (session.after history) := by
  induction history generalizing session with
  | nil => exact start
  | cons command rest inductionHypothesis => exact inductionHypothesis (kept _ command start)

end Session

end Chip8
