import Chip8.Proofs.History
import Mathlib.Logic.Function.Iterate

/-!
# Where random bytes come from

Nothing but a draw moves the generator, and nothing sets it back: its key is the
key of the seed, moved on once for each draw since the machine was made, whatever
the host did in between. A load forgets everything else, so that two machines that
were made alike and have drawn equally often cannot be told apart after it.
-/

namespace Chip8

namespace Random.Key

/-- The key of a seed that is accepted. -/
def ofSeed (seed : Int) : Key := ⟨0, BitVec.ofInt 32 seed⟩

/-- The byte that the second half of a split gives. -/
def drawn (half : Key) : Byte :=
  let block := encipher half.split.2 ⟨0, 0⟩
  (block.high ^^^ block.low).setWidth 8

theorem byte_eq_drawn (key : Key) : key.byte = key.split.2.drawn := rfl

theorem eq_ofSeed {seed : Int} {key : Key} (accepted : ofSeed? seed = .ok key) :
    key = ofSeed seed := by
  rw [ofSeed?] at accepted
  split at accepted
  next => exact (Except.ok.inj accepted).symm
  next => simp at accepted

end Random.Key

def Instruction.isRandom : Instruction → Bool
  | .random _ _ => true
  | _ => false

/-- A reply but for the lines that were logged. -/
def Reply.answer (reply : Reply) : Except Error (Option Bool) × List Progress.Event :=
  (reply.result, reply.events)

/-! ## Runs -/

namespace Machine

variable (machine : Machine)

theorem key_step_eq_iterate :
    machine.step.key =
      Random.Key.next^[if machine.instruction?.any (·.isRandom) then 1 else 0] machine.key := by
  rw [key_step]
  cases machine.instruction? with
  | none => rfl
  | some instruction => cases instruction <;> rfl

/-- A run moves the key on once for each draw. -/
theorem key_run (cycles : Nat) :
    (machine.run cycles).key =
      Random.Key.next^[machine.executed (·.isRandom) cycles] machine.key := by
  induction cycles with
  | zero => rfl
  | succ cycles inductionHypothesis =>
      rw [run_succ_last, key_step_eq_iterate, inductionHypothesis, executed_succ,
        ← Function.iterate_add_apply, Nat.add_comm]

theorem get_step_of_random {machine : Machine} {x : Nibble} {mask : Byte}
    (fetched : machine.instruction? = some (.random x mask)) :
    machine.step.registers.get x = machine.key.byte &&& mask := by
  rw [step_of_some fetched]
  exact (Registers.get_set _ _ _ _).trans (if_pos rfl)

theorem reset_perform (instruction : Instruction) :
    (machine.perform instruction).reset =
      { machine.reset with key := (machine.perform instruction).key } := by
  cases instruction <;> rfl

theorem reset_step :
    machine.step.reset = { machine.reset with key := machine.step.key } := by
  cases fetched : machine.instruction? with
  | none =>
      rw [step_of_none fetched]
      rfl
  | some instruction =>
      rw [step_of_some fetched]
      exact machine.clearReports.reset_perform instruction

/-- Of what a run does, the key alone outlasts a reset. -/
theorem reset_run (cycles : Nat) :
    (machine.run cycles).reset = { machine.reset with key := (machine.run cycles).key } := by
  induction cycles with
  | zero => rfl
  | succ cycles inductionHypothesis => rw [run_succ_last, reset_step, inductionHypothesis]

end Machine

namespace Session

/-! ## Histories -/

/-- How many of the cycles of a history draw a random byte. -/
def draws (session : Session) : List Command → Nat
  | [] => 0
  | command :: rest =>
      session.machine.executed (·.isRandom) (session.cycleCount command) +
        (session.perform command).1.draws rest

section Perform

variable (session : Session) (command : Command)

theorem cycleCount_of_idle (idle : command.runs = false) : session.cycleCount command = 0 := by
  cases command with
  | step | run => simp [Command.runs] at idle
  | _ => rfl

theorem reset_perform_of_idle (idle : command.runs = false) :
    (session.perform command).1.machine.reset = session.machine.reset := by
  have effect := session.effect_perform command
  generalize session.perform command = outcome at effect ⊢
  cases effect with
  | ran runs => simp [idle] at runs
  | restarted | refused | keyed => rfl

theorem key_perform_of_idle (idle : command.runs = false) :
    (session.perform command).1.machine.key = session.machine.key := by
  have kept := congrArg Machine.key (session.reset_perform_of_idle command idle)
  exact kept

theorem key_perform :
    (session.perform command).1.machine.key =
      Random.Key.next^[session.machine.executed (·.isRandom) (session.cycleCount command)]
        session.machine.key := by
  cases runs : command.runs with
  | true => rw [session.machine_perform_of_runs command runs, Machine.key_run]
  | false =>
      rw [session.cycleCount_of_idle command runs, session.key_perform_of_idle command runs]
      rfl

/-- Of what a command does, the key alone outlasts a reset. -/
theorem reset_perform :
    (session.perform command).1.machine.reset =
      { session.machine.reset with key := (session.perform command).1.machine.key } := by
  cases runs : command.runs with
  | true => rw [session.machine_perform_of_runs command runs, Machine.reset_run]
  | false =>
      rw [session.reset_perform_of_idle command runs, session.key_perform_of_idle command runs]
      rfl

end Perform

theorem key_after (session : Session) (history : List Command) :
    (session.after history).machine.key =
      Random.Key.next^[session.draws history] session.machine.key := by
  induction history generalizing session with
  | nil => rfl
  | cons command rest inductionHypothesis =>
      rw [after_cons, inductionHypothesis, key_perform, draws, Nat.add_comm,
        Function.iterate_add_apply]

theorem reset_after (session : Session) (history : List Command) :
    (session.after history).machine.reset =
      { session.machine.reset with key := (session.after history).machine.key } := by
  induction history generalizing session with
  | nil => rfl
  | cons command rest inductionHypothesis =>
      rw [after_cons, inductionHypothesis, reset_perform]

/-! ## Sessions with the same machine -/

/-- The machine that a command leaves, and its answer. -/
def view (outcome : Session × Reply) :
    Machine × Except Error (Option Bool) × List Progress.Event :=
  (outcome.1.machine, outcome.2.answer)

section View

variable (session : Session) (machine : Machine)

theorem view_refuse (error : Error) :
    view (session.refuse error) = (session.machine, .error error, []) := rfl

theorem view_accept (level : Log.Level) (message : String) :
    view (session.accept machine level message) = (machine, .ok none, []) := rfl

theorem view_update : view (session.update machine) = (machine, .ok none, []) := rfl

theorem view_settle (answer : Option Bool) (events : List Progress.Event) :
    view (session.settle machine answer events) =
      (machine, match machine.fault? with
        | none => .ok answer
        | some error => .error error, events) := by
  cases fault : machine.fault? <;> simp [view, Reply.answer, settle, fault]

end View

/-- The logger decides nothing but what is logged. -/
theorem view_perform_congr {session other : Session} (same : session.machine = other.machine)
    (command : Command) : view (session.perform command) = view (other.perform command) := by
  have loaded (program : List Byte) :
      view (session.load program) = view (other.load program) := by
    rw [load, load, same]
    cases other.machine.load? program with
    | ok machine => simp only [view_accept]
    | error error => simp only [view_refuse, same]
  have ran (cycles : Nat) (progress : Bool) :
      view (session.run cycles progress) = view (other.run cycles progress) := by
    simp only [run, same]
    split
    next => split <;> simp only [view_settle]
    next => simp only [view_refuse, same]
  have keyed (key : Int) (down : Bool) :
      view (session.setKey key down) = view (other.setKey key down) := by
    rw [setKey, setKey, same]
    cases Keypad.key? key with
    | ok name => simp only [view_update]
    | error error => simp only [view_refuse, same]
  cases command with
  | reset => simp only [perform, reset, view_accept, same]
  | load program => exact loaded program
  | loadFile contents =>
      cases contents with
      | ok program => exact loaded program
      | error fault => simp only [perform, loadFile, view_refuse, same]
  | step =>
      simp only [perform, step, same]
      split
      next => simp only [view_settle]
      next => simp only [view_refuse, same]
  | run cycles progress => exact ran cycles progress
  | press key => exact keyed key true
  | release key => exact keyed key false
  | setKeys states =>
      simp only [perform, setKeys, same]
      cases Keypad.ofNested? states with
      | ok keypad => simp only [view_update]
      | error error => simp only [view_refuse, same]

theorem performAll_congr {session other : Session} (same : session.machine = other.machine)
    (commands : List Command) :
    (session.after commands).machine = (other.after commands).machine ∧
      (session.performAll commands).2.map (·.answer) =
        (other.performAll commands).2.map (·.answer) := by
  induction commands generalizing session other with
  | nil => exact ⟨same, rfl⟩
  | cons command rest inductionHypothesis =>
      obtain ⟨machine, answered⟩ := Prod.mk.inj (view_perform_congr same command)
      obtain ⟨final, answers⟩ := inductionHypothesis machine
      refine ⟨final, ?_⟩
      simp only [performAll, List.map_cons, answered, answers]

/-! ## Sessions that were made alike -/

/-- The session was made with a seed and the two choices. -/
def MadeWith (session : Session) (seed : Int) (dialect wrapMode : Setting) : Prop :=
  ∃ logger, create? logger (.number seed) dialect wrapMode = .ok session

namespace MadeWith

variable {session other : Session} {seed : Int} {dialect wrapMode : Setting}
  (made : session.MadeWith seed dialect wrapMode)

include made

theorem key_eq : session.machine.key = .ofSeed seed := by
  obtain ⟨logger, built⟩ := made
  obtain ⟨key, dialect, wrapMode, keyed, machine⟩ :=
    Machine.of_create? (machine_of_create? built)
  rw [machine]
  exact Random.Key.eq_ofSeed keyed

theorem machine_eq (otherMade : other.MadeWith seed dialect wrapMode) :
    session.machine = other.machine := by
  obtain ⟨logger, built⟩ := made
  obtain ⟨otherLogger, otherBuilt⟩ := otherMade
  exact Except.ok.inj ((machine_of_create? built).symm.trans (machine_of_create? otherBuilt))

theorem key_after (history : List Command) :
    (session.after history).machine.key =
      Random.Key.next^[session.draws history] (.ofSeed seed) := by
  rw [Session.key_after, made.key_eq]

/-- After histories that drew equally often, a reset leaves no difference. -/
theorem reset_after_eq (otherMade : other.MadeWith seed dialect wrapMode)
    {history otherHistory : List Command}
    (drawn : other.draws otherHistory = session.draws history) :
    (session.after history).machine.reset = (other.after otherHistory).machine.reset := by
  rw [reset_after, reset_after, made.key_after, otherMade.key_after, drawn,
    made.machine_eq otherMade]

end MadeWith

/-- A load starts from what a reset leaves. -/
theorem load_congr {session other : Session}
    (same : session.machine.reset = other.machine.reset) (program : List Byte) :
    (session.load program).2.result = (other.load program).2.result ∧
      ((session.load program).2.result = .ok none →
        (session.load program).1.machine = (other.load program).1.machine) := by
  have loaded : session.machine.load? program = other.machine.load? program := by
    rw [Machine.load?, Machine.load?, same]
  rw [load, load, loaded]
  cases other.machine.load? program with
  | ok machine => exact ⟨rfl, fun _ => rfl⟩
  | error error =>
      refine ⟨rfl, ?_⟩
      intro accepted
      simp [refuse] at accepted

/-- A draw, a reset and another program that is about to draw. -/
def drawnOnce : List Command :=
  [.load [0xC0, 0xFF, 0xC1, 0x0F], .run 1 true, .reset, .load [0xC2, 0xFF]]

/-- A draw that stores nothing, a key that does not exist and a run into a fault. -/
def drawnInVain : List Command :=
  [.load [0xC7, 0x00], .press 99, .run 3 false]

/-- The new session with a logger that writes everything. -/
def verbose : Session := { fresh with logger := { fresh.logger with threshold := .debug } }

end Session

end Chip8
