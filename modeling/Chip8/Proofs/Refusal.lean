import Chip8.Proofs.History

/-!
# Commands that are refused

A command is refused when it asks for cycles without power, or brings a program, a
file, a key or key states that do not fit. A refusal leaves the session as it was and
writes nothing, so that a history without its refused commands runs the same. A fault
is no refusal: the cycles that led to it have been carried out.
-/

namespace Chip8

/-! ## Keys that do not fit -/

namespace Keypad

theorem key?_of_named {key : Int} (named : 0 ≤ key ∧ key ≤ 15) :
    key? key = .ok (BitVec.ofInt 4 key) := by
  rw [key?, size, if_pos (by omega)]

theorem key?_of_unnamed {key : Int} (unnamed : ¬(0 ≤ key ∧ key ≤ 15)) :
    key? key = .error (.keyOutOfRange key) := by
  rw [key?, size, if_neg (by omega)]

section Nested

variable {states : Nested Bool} {shape : List Nat}

theorem exists_ofNested? (row : states.shape? = some [16]) :
    ∃ keypad, ofNested? states = .ok keypad := by
  rw [ofNested?, Nested.arrayShape?, row]
  exact ⟨_, rfl⟩

/-- An array of another shape is named by it, unless it has too many dimensions. -/
def shapeError (shape : List Nat) : Error :=
  if shape.length ≤ 64 then .keyStatesShape shape else .shapelessKeyStates

theorem ofNested?_of_shape_ne (rectangular : states.shape? = some shape) (other : shape ≠ [16]) :
    ofNested? states = .error (shapeError shape) := by
  rw [ofNested?, Nested.arrayShape?, rectangular, shapeError, Option.filter_some,
    Nested.maxDimensions]
  by_cases shallow : shape.length ≤ 64
  · simp [shallow, other, size]
  · simp [shallow]

end Nested

end Keypad

/-- Whether the reply is an error other than a fault. -/
def Reply.isRefusal (reply : Reply) : Bool :=
  match reply.result with
  | .ok _ | .error (.illegalOpcode _ _) => false
  | .error _ => true

namespace Session

variable (session : Session)

/-! ## Which commands are refused -/

theorem result_load (program : List Byte) :
    (session.load program).2.result =
      if 3584 < program.length then .error (.programTooLong program.length) else .ok none := by
  have capacity : Memory.programCapacity = 3584 := rfl
  rw [load, Machine.load?, capacity]
  by_cases long : 3584 < program.length
  · rw [if_pos long, if_neg (Nat.not_le.mpr long)]
    rfl
  · rw [if_neg long, if_pos (Nat.not_lt.mp long)]
    rfl

theorem result_setKey (key : Int) (down : Bool) :
    (session.setKey key down).2.result =
      if 0 ≤ key ∧ key ≤ 15 then .ok none else .error (.keyOutOfRange key) := by
  rw [setKey]
  by_cases named : 0 ≤ key ∧ key ≤ 15
  · rw [if_pos named, Keypad.key?_of_named named]
    rfl
  · rw [if_neg named, Keypad.key?_of_unnamed named]
    rfl

theorem result_setKeys {states : Nested Bool} {shape : List Nat}
    (rectangular : states.shape? = some shape) :
    (session.setKeys states).2.result =
      if shape = [16] then .ok none else .error (Keypad.shapeError shape) := by
  rw [setKeys]
  by_cases row : shape = [16]
  · obtain ⟨keypad, found⟩ := Keypad.exists_ofNested? (row ▸ rectangular)
    rw [if_pos row, found]
    rfl
  · rw [if_neg row, Keypad.ofNested?_of_shape_ne rectangular row]
    rfl

/-- Taking over a machine that has run fails exactly if it has faulted. -/
theorem fails_settle_iff (machine : Machine) (answer : Option Bool)
    (events : List Progress.Event) :
    (∃ opcode address, (session.settle machine answer events).2.result =
        .error (.illegalOpcode opcode address)) ↔
      machine.faulted = true := by
  cases faulted : machine.faulted with
  | false => simp [settle_of_sound faulted]
  | true => simp [settle, Machine.fault?, faulted]

theorem not_isRefusal_settle (machine : Machine) (answer : Option Bool)
    (events : List Progress.Event) :
    (session.settle machine answer events).2.isRefusal = false := by
  obtain done | ⟨opcode, address, failed⟩ := @result_settle session machine answer events
  · rw [Reply.isRefusal, done]
  · rw [Reply.isRefusal, failed]

section Runs

variable {session : Session} {command : Command} (runs : command.runs = true)

include runs

theorem result_eq_notPowered_iff :
    (session.perform command).2.result = .error .notPowered ↔
      session.machine.powered = false := by
  cases powered : session.machine.powered with
  | false => simp [perform_of_unpowered runs powered, refuse]
  | true =>
      obtain ⟨answer, events, settled⟩ := perform_of_powered runs powered
      obtain done | ⟨opcode, address, failed⟩ := @result_settle session
        (session.machine.run (session.cycleCount command)) answer events
      · simp [settled, done]
      · simp [settled, failed]

/-- The cycles of a powered machine are kept, whether or not they end in a fault. -/
theorem perform_keeps_run (powered : session.machine.powered = true) :
    (session.perform command).1.machine = session.machine.run (session.cycleCount command) ∧
      ((∃ opcode address, (session.perform command).2.result =
          .error (.illegalOpcode opcode address)) ↔
        (session.perform command).1.machine.faulted = true) := by
  have kept := session.machine_perform_of_runs command runs
  refine ⟨kept, ?_⟩
  obtain ⟨answer, events, settled⟩ := perform_of_powered runs powered
  rw [kept, settled]
  exact session.fails_settle_iff _ answer events

end Runs

/-! ## What a refusal leaves -/

section Trace

variable {session : Session} {command : Command}

theorem eq_refuse_of_load {program : List Byte}
    (refused : (session.load program).2.isRefusal = true) :
    ∃ error, session.load program = session.refuse error := by
  rw [load] at refused ⊢
  cases outcome : session.machine.load? program with
  | ok machine =>
      rw [outcome] at refused
      contradiction
  | error error => exact ⟨_, rfl⟩

theorem eq_refuse_of_setKey {key : Int} {down : Bool}
    (refused : (session.setKey key down).2.isRefusal = true) :
    ∃ error, session.setKey key down = session.refuse error := by
  rw [setKey] at refused ⊢
  cases outcome : Keypad.key? key with
  | ok name =>
      rw [outcome] at refused
      contradiction
  | error error => exact ⟨_, rfl⟩

theorem eq_refuse_of_setKeys {states : Nested Bool}
    (refused : (session.setKeys states).2.isRefusal = true) :
    ∃ error, session.setKeys states = session.refuse error := by
  rw [setKeys] at refused ⊢
  cases outcome : Keypad.ofNested? states with
  | ok keypad =>
      rw [outcome] at refused
      contradiction
  | error error => exact ⟨_, rfl⟩

theorem eq_refuse_of_runs (runs : command.runs = true)
    (refused : (session.perform command).2.isRefusal = true) :
    ∃ error, session.perform command = session.refuse error := by
  cases powered : session.machine.powered with
  | false => exact ⟨_, perform_of_unpowered runs powered⟩
  | true =>
      obtain ⟨answer, events, settled⟩ := perform_of_powered runs powered
      rw [settled, not_isRefusal_settle] at refused
      contradiction

/-- Nothing is done before a command is refused. -/
theorem eq_refuse_of_isRefusal (refused : (session.perform command).2.isRefusal = true) :
    ∃ error, session.perform command = session.refuse error := by
  cases command with
  | reset => contradiction
  | load program => exact eq_refuse_of_load refused
  | loadFile contents =>
      cases contents with
      | ok program => exact eq_refuse_of_load refused
      | error fault => exact ⟨_, rfl⟩
  | step | run => exact eq_refuse_of_runs rfl refused
  | press key | release key => exact eq_refuse_of_setKey refused
  | setKeys states => exact eq_refuse_of_setKeys refused

end Trace

/-! ## Histories without refusals -/

/-- The commands of a history that are not refused when their turn comes. -/
def accepted (session : Session) : List Command → List Command
  | [] => []
  | command :: rest =>
      let (next, reply) := session.perform command
      if reply.isRefusal then next.accepted rest else command :: next.accepted rest

theorem performAll_accepted (history : List Command) :
    session.performAll (session.accepted history) =
      (session.after history,
        (session.performAll history).2.filter fun reply => !reply.isRefusal) := by
  induction history generalizing session with
  | nil => rfl
  | cons command rest inductionHypothesis =>
      rw [after_cons, accepted, performAll]
      cases refused : (session.perform command).2.isRefusal with
      | true =>
          -- The rest runs from the same session, and the filter drops the reply.
          obtain ⟨error, trace⟩ := eq_refuse_of_isRefusal refused
          have kept : (session.perform command).1 = session := by
            rw [trace]
            rfl
          simpa [refused, kept] using inductionHypothesis session
      | false => simp [refused, performAll, inductionHypothesis]

/-- What is refused, and that nothing comes of it. Cycles are refused without power, a
program by its length, a key by its number, key states by their shape, and a file if it
could not be read. A refused command leaves the session as it was, logs nothing and
tells the bar nothing, and a history without the refused commands ends in the same
session with the same replies to all others. With power, a command that asks for cycles
leaves the machine that its cycles lead to, and fails exactly if that machine has
faulted. -/
theorem refusals_leave_no_trace (session : Session) :
    (∀ command : Command, command.runs = true →
        ((session.perform command).2.result = .error .notPowered ↔
          session.machine.powered = false)) ∧
      (∀ program, (session.perform (.load program)).2.result =
          if 3584 < program.length then .error (.programTooLong program.length)
          else .ok none) ∧
      (∀ program, session.perform (.loadFile (.ok program)) = session.perform (.load program)) ∧
      (∀ fault, (session.perform (.loadFile (.error fault))).2.result =
          .error (.fileNotRead fault)) ∧
      (∀ key command, command = .press key ∨ command = .release key →
        (session.perform command).2.result =
          if 0 ≤ key ∧ key ≤ 15 then .ok none else .error (.keyOutOfRange key)) ∧
      (∀ states shape, states.shape? = some shape →
        (session.perform (.setKeys states)).2.result =
          if shape = [16] then .ok none else .error (Keypad.shapeError shape)) ∧
      (∀ command, (session.perform command).2.isRefusal = true →
        (session.perform command).1 = session ∧
          (session.perform command).2.lines = [] ∧
          (session.perform command).2.events = []) ∧
      (∀ history, session.performAll (session.accepted history) =
        (session.after history,
          (session.performAll history).2.filter fun reply => !reply.isRefusal)) ∧
      ∀ command : Command, command.runs = true → session.machine.powered = true →
        (session.perform command).1.machine =
            session.machine.run (session.cycleCount command) ∧
          ((∃ opcode address, (session.perform command).2.result =
              .error (.illegalOpcode opcode address)) ↔
            (session.perform command).1.machine.faulted = true) := by
  refine ⟨fun _ => result_eq_notPowered_iff, session.result_load, fun _ => rfl, fun _ => rfl,
    ?_, fun _ _ => session.result_setKeys, ?_, session.performAll_accepted,
    fun _ => perform_keeps_run⟩
  · rintro key command (rfl | rfl)
    · exact session.result_setKey key true
    · exact session.result_setKey key false
  · intro command refused
    obtain ⟨error, trace⟩ := eq_refuse_of_isRefusal refused
    rw [trace]
    exact ⟨rfl, rfl, rfl⟩

/-- A host that gives four commands in vain around a program that runs out of words. -/
def carelessHost : List Command :=
  [.press 16, .step, .load [0x60, 0x07], .setKeys (.row [.leaf true]),
    .loadFile (.error .missing), .run 9 false]

theorem carelessHost_refusals :
    (Command.step.runs = true ∧ (fresh.perform .step).2.result = .error .notPowered) ∧
      (fresh.perform (.press 16)).2.result = .error (.keyOutOfRange 16) ∧
      ((Nested.row [.leaf true]).shape? = some [1] ∧
        (fresh.perform (.setKeys (.row [.leaf true]))).2.result =
          .error (.keyStatesShape [1])) ∧
      ((fresh.perform (.press 16)).2.isRefusal = true ∧
        (fresh.perform (.press 16)).1 = fresh) ∧
      ((fresh.accepted carelessHost).length = 2 ∧
        (fresh.performAll (fresh.accepted carelessHost)).1 = fresh.after carelessHost) ∧
      (fresh.after [.load [0x60, 0x07]]).machine.powered = true ∧
      ∃ opcode address, ((fresh.after [.load [0x60, 0x07]]).perform (.run 9 false)).2.result =
        .error (.illegalOpcode opcode address) := by
  have accepted : (fresh.accepted carelessHost).length = 2 := by decide +kernel
  have powered : (fresh.after [.load [0x60, 0x07]]).machine.powered = true := by decide +kernel
  have faulted : ((fresh.after [.load [0x60, 0x07]]).perform
      (.run 9 false)).1.machine.faulted = true := by
    decide +kernel
  obtain ⟨unpowered, -, -, -, keyed, shaped, traceless, same, -⟩ := refusals_leave_no_trace fresh
  obtain ⟨-, -, -, -, -, -, -, -, kept⟩ :=
    refusals_leave_no_trace (fresh.after [.load [0x60, 0x07]])
  refine ⟨⟨rfl, (unpowered .step rfl).mpr rfl⟩, keyed 16 (.press 16) (.inl rfl),
    ⟨rfl, shaped _ [1] rfl⟩, ⟨rfl, (traceless (.press 16) rfl).1⟩, ⟨accepted, ?_⟩, powered, ?_⟩
  · rw [same]
  · exact (kept (.run 9 false) rfl powered).2.mpr faulted

end Session

end Chip8
