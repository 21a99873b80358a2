import Chip8.Proofs.Refusal
import Mathlib.Data.List.Induction

/-!
# What the host decides

Power, keys and the two choices belong to the host. The choices are made once. Power
comes with a load and goes with a reset, and a key is as the last command left it that
spoke of it, up for a machine that was started afresh since. No cycle touches any of
them, and neither does a command that fails.
-/

namespace Chip8

/-! ## Key states as a row -/

namespace Nested

variable {α : Type}

/-- The value at a place of a row of values. -/
def item? : Nested α → Nat → Option α
  | .row items, place =>
      match items[place]? with
      | some (.leaf value) => some value
      | _ => none
  | _, _ => none

theorem exists_leaf {nested : Nested α} (single : nested.shape? = some []) :
    ∃ value, nested = .leaf value := by
  cases nested with
  | leaf value => exact ⟨value, rfl⟩
  | hole => simp [shape?] at single
  | row items => simp [shape?] at single

theorem commonShape?_cons {item : Nested α} {items : List (Nested α)}
    (flat : commonShape? (item :: items) = some []) :
    item.shape? = some [] ∧ commonShape? items = some [] := by
  cases items with
  | nil => exact ⟨by simpa [commonShape?] using flat, rfl⟩
  | cons next rest =>
      simp only [commonShape?] at flat
      split at flat
      next shape other single common =>
        rw [Option.ite_none_right_eq_some, Option.some.injEq] at flat
        obtain ⟨rfl, rfl⟩ := flat
        exact ⟨single, common⟩
      next => contradiction

theorem getElem?_leavesOfAll {items : List (Nested α)} (flat : commonShape? items = some [])
    (place : Nat) : (leavesOfAll items)[place]? = (row items).item? place := by
  induction items generalizing place with
  | nil => simp [leavesOfAll, item?]
  | cons item items inductionHypothesis =>
      obtain ⟨single, rest⟩ := commonShape?_cons flat
      obtain ⟨value, rfl⟩ := exists_leaf single
      rw [leavesOfAll, leaves]
      cases place with
      | zero => rfl
      | succ place => exact inductionHypothesis rest place

theorem length_leavesOfAll {items : List (Nested α)} (flat : commonShape? items = some []) :
    (leavesOfAll items).length = items.length := by
  induction items with
  | nil => rfl
  | cons item items inductionHypothesis =>
      obtain ⟨single, rest⟩ := commonShape?_cons flat
      obtain ⟨value, rfl⟩ := exists_leaf single
      rw [leavesOfAll, leaves, List.singleton_append, List.length_cons, List.length_cons,
        inductionHypothesis rest]

end Nested

namespace Keypad

variable {states : Nested Bool} {keypad : Keypad} (read : ofNested? states = .ok keypad)

include read

theorem shape?_of_ofNested? : states.shape? = some [16] := by
  cases shaped : states.shape? with
  | none => simp [ofNested?, Nested.arrayShape?, shaped] at read
  | some shape =>
      by_cases row : shape = [16]
      · rw [row]
      · rw [ofNested?_of_shape_ne shaped row] at read
        contradiction

/-- Key states that are taken over are a row of sixteen values. -/
theorem item?_of_ofNested? (key : Nibble) :
    states.item? key.toNat = some (keypad.isDown key) := by
  have bound := key.toNat_lt
  have row := shape?_of_ofNested? read
  have taken : (⟨Vector.ofFn fun key => states.leaves.getD key false⟩ : Keypad) = keypad := by
    rw [ofNested?, Nested.arrayShape?, row] at read
    exact Except.ok.inj read
  cases states with
  | leaf | hole => simp [Nested.shape?] at row
  | row items =>
      rw [Nested.shape?, Option.map_eq_some_iff] at row
      obtain ⟨inner, flat, sizes⟩ := row
      obtain ⟨sixteen, rfl⟩ := List.cons.inj sizes
      have length := Nested.length_leavesOfAll flat
      rw [← Nested.getElem?_leavesOfAll flat, ← taken]
      simp [isDown, Nested.leaves, length, sixteen, bound]

end Keypad

/-! ## What a command says -/

namespace Command

def isLoad : Command → Bool
  | .load _ | .loadFile _ => true
  | _ => false

/-- What a command says of a key. -/
def keyState? (key : Nibble) : Command → Option Bool
  | .press number => if number = key.toNat then some true else none
  | .release number => if number = key.toNat then some false else none
  | .setKeys states => states.item? key.toNat
  | _ => none

theorem keyState?_of_isLoad {command : Command} (load : command.isLoad = true) (key : Nibble) :
    command.keyState? key = none := by
  cases command with
  | load | loadFile => rfl
  | _ => contradiction

/-- Whether what was said of a key before a command no longer counts after it. -/
def Overrides (key : Nibble) (command : Command) : Prop :=
  (command.keyState? key).isSome ∨ command = .reset ∨ command.isLoad = true

end Command

/-! ## Parts of the machine that no cycle touches -/

namespace Machine

theorem choices_of_create? {seed dialect wrapMode : Setting} {machine : Machine}
    (built : create? seed dialect wrapMode = .ok machine) :
    Dialect.ofSetting? dialect = .ok machine.dialect ∧
      WrapMode.ofSetting? wrapMode = .ok machine.wrapMode := by
  simp only [create?, Error.bind_eq_ok_iff, pure, Except.pure, Except.ok.injEq] at built
  obtain ⟨key, -, dialect, spoken, wrapMode, wrapped, rfl⟩ := built
  exact ⟨spoken, wrapped⟩

structure HostOwned where
  powered : Bool
  keypad : Keypad
  dialect : Dialect
  wrapMode : WrapMode

/-- The parts of a machine that belong to its host. -/
def hostOwned (machine : Machine) : HostOwned :=
  ⟨machine.powered, machine.keypad, machine.dialect, machine.wrapMode⟩

@[simp] theorem hostOwned_perform (machine : Machine) (instruction : Instruction) :
    (machine.perform instruction).hostOwned = machine.hostOwned := by
  cases instruction <;> rfl

@[simp] theorem hostOwned_step (machine : Machine) :
    machine.step.hostOwned = machine.hostOwned := by
  rw [part_step hostOwned machine fun _ => rfl]
  cases machine.instruction? with
  | none => rfl
  | some instruction => exact hostOwned_perform machine.clearReports instruction

@[simp] theorem hostOwned_run (machine : Machine) (cycles : Nat) :
    (machine.run cycles).hostOwned = machine.hostOwned := by
  induction cycles with
  | zero => rfl
  | succ cycles inductionHypothesis => rw [run_succ_last, hostOwned_step, inductionHypothesis]

end Machine

namespace Session

/-! ## The last command of a kind -/

/-- A command is carried out: it is answered without an error. -/
def CarriesOut (session : Session) (command : Command) : Prop :=
  ∃ answer, (session.perform command).2.result = .ok answer

/-- The command at a place of a history, if it was carried out when its turn came. -/
def CarriedOutAt (start : Session) (history : List Command) (place : Nat) (command : Command) :
    Prop :=
  history[place]? = some command ∧ (start.after (history.take place)).CarriesOut command

/-- A command of one kind was carried out, and none of another kind since. -/
def Since (start : Session) (history : List Command) (event barrier : Command → Prop) : Prop :=
  ∃ place command, start.CarriedOutAt history place command ∧ event command ∧
    ∀ later other, place < later → start.CarriedOutAt history later other → ¬barrier other

theorem carriedOutAt_append_singleton {start : Session} {history : List Command}
    {last command : Command} {place : Nat} :
    start.CarriedOutAt (history ++ [last]) place command ↔
      start.CarriedOutAt history place command ∨
        place = history.length ∧ command = last ∧ (start.after history).CarriesOut last := by
  obtain earlier | rfl | later := Nat.lt_trichotomy place history.length
  · rw [CarriedOutAt, CarriedOutAt, List.getElem?_append_left earlier,
      List.take_append_of_le_length (Nat.le_of_lt earlier)]
    simp [Nat.ne_of_lt earlier]
  · simp only [CarriedOutAt, List.getElem?_concat_length, List.take_left, Option.some.injEq,
      List.getElem?_eq_none (Nat.le_refl _), reduceCtorEq, false_and, false_or, true_and]
    constructor
    · rintro ⟨rfl, carried⟩
      exact ⟨rfl, carried⟩
    · rintro ⟨rfl, carried⟩
      exact ⟨rfl, carried⟩
  · have absent : (history ++ [last])[place]? = none := by simp; omega
    have absentBefore : history[place]? = none := by simp; omega
    simp [CarriedOutAt, absent, absentBefore, Nat.ne_of_gt later]

section Since

variable {start : Session} {history : List Command} {last : Command}
  {event other barrier : Command → Prop}

theorem not_since_nil : ¬start.Since [] event barrier := by
  rintro ⟨place, command, ⟨found, -⟩, -⟩
  simp at found

theorem since_append_singleton :
    start.Since (history ++ [last]) event barrier ↔
      ((start.after history).CarriesOut last ∧ event last) ∨
        start.Since history event barrier ∧
          ¬((start.after history).CarriesOut last ∧ barrier last) := by
  constructor
  · rintro ⟨place, command, carried, happened, quiet⟩
    obtain earlier | ⟨rfl, rfl, carried⟩ := carriedOutAt_append_singleton.mp carried
    · have bound : place < history.length := (List.getElem?_eq_some_iff.mp earlier.1).1
      refine .inr ⟨⟨place, command, earlier, happened, ?_⟩, ?_⟩
      · intro later other order carried
        exact quiet later other order (carriedOutAt_append_singleton.mpr (.inl carried))
      · rintro ⟨carried, ends⟩
        exact quiet _ _ bound
          (carriedOutAt_append_singleton.mpr (.inr ⟨rfl, rfl, carried⟩)) ends
    · exact .inl ⟨carried, happened⟩
  · rintro (⟨carried, happened⟩ | ⟨⟨place, command, carried, happened, quiet⟩, kept⟩)
    · refine ⟨history.length, last, carriedOutAt_append_singleton.mpr
        (.inr ⟨rfl, rfl, carried⟩), happened, ?_⟩
      intro later other order carried
      have bound := (List.getElem?_eq_some_iff.mp carried.1).1
      rw [List.length_append, List.length_singleton] at bound
      omega
    · refine ⟨place, command, carriedOutAt_append_singleton.mpr (.inl carried), happened, ?_⟩
      intro later other order carried ends
      obtain earlier | ⟨rfl, rfl, carried⟩ := carriedOutAt_append_singleton.mp carried
      · exact quiet later other order earlier ends
      · exact kept ⟨carried, ends⟩

/-- Of two kinds of commands that end each other's effect, the last one decides. -/
theorem Since.exists_both (one : start.Since history event barrier)
    (another : start.Since history other barrier)
    (ends : ∀ command, event command → barrier command)
    (otherEnds : ∀ command, other command → barrier command) :
    ∃ command, event command ∧ other command := by
  obtain ⟨place, command, carried, happened, quiet⟩ := one
  obtain ⟨otherPlace, otherCommand, otherCarried, otherHappened, otherQuiet⟩ := another
  obtain earlier | rfl | later := Nat.lt_trichotomy place otherPlace
  · exact absurd (otherEnds _ otherHappened) (quiet _ _ earlier otherCarried)
  · obtain rfl := Option.some.inj (carried.1.symm.trans otherCarried.1)
    exact ⟨command, happened, otherHappened⟩
  · exact absurd (ends _ happened) (otherQuiet _ _ later carried)

/-- A flag that a command of one kind sets, one of another kind clears and nothing else
changes tells whether one of the first kind was carried out since the last of the second. -/
theorem flag_after_iff (flag : Machine → Bool) (clear : flag start.machine = false)
    (moved : ∀ (session : Session) command,
      flag (session.perform command).1.machine = true ↔
        (session.CarriesOut command ∧ event command) ∨
          flag session.machine = true ∧ ¬(session.CarriesOut command ∧ barrier command))
    (history : List Command) :
    flag (start.after history).machine = true ↔ start.Since history event barrier := by
  induction history using List.reverseRecOn with
  | nil => simp [clear, not_since_nil]
  | append_singleton earlier command inductionHypothesis =>
      rw [after_append, after_cons, after_nil, moved, inductionHypothesis,
        since_append_singleton]

end Since

/-! ## One command -/

/-- What a command leaves of the host's parts of the machine. -/
inductive HandsOver (session : Session) (command : Command) : Machine.HostOwned → Prop where
  | failed :
      ¬session.CarriesOut command →
      HandsOver session command session.machine.hostOwned
  | reset :
      session.CarriesOut command →
      command = .reset →
      HandsOver session command
        { session.machine.hostOwned with powered := false, keypad := .allUp }
  | loaded :
      session.CarriesOut command →
      command.isLoad = true →
      HandsOver session command
        { session.machine.hostOwned with powered := true, keypad := .allUp }
  /-- Keys that the command does not speak of stay as they are. -/
  | kept {keypad : Keypad} :
      session.CarriesOut command →
      command ≠ .reset →
      command.isLoad = false →
      (∀ key, keypad.isDown key =
        (command.keyState? key).getD (session.machine.keypad.isDown key)) →
      HandsOver session command { session.machine.hostOwned with keypad }

theorem not_carriesOut_of_refuse {session : Session} {command : Command} {error : Error}
    (refused : session.perform command = session.refuse error) :
    ¬session.CarriesOut command := by
  rw [CarriesOut, refused]
  rintro ⟨answer, done⟩
  contradiction

section Commands

variable (session : Session) {command : Command}

theorem handsOver_load {program : List Byte} (load : command.isLoad = true)
    (performed : session.perform command = session.load program) :
    session.HandsOver command (session.perform command).1.machine.hostOwned := by
  by_cases fits : program.length ≤ Memory.programCapacity
  · have carried : session.CarriesOut command := by
      rw [CarriesOut, performed]
      exact ⟨none, by simp [Session.load, Machine.load?, fits, accept]⟩
    have owned : (session.perform command).1.machine.hostOwned =
        { session.machine.hostOwned with powered := true, keypad := .allUp } := by
      rw [performed]
      simp [Session.load, Machine.load?, fits, accept, Machine.hostOwned, Machine.reset]
    rw [owned]
    exact .loaded carried load
  · have refused : session.perform command =
        session.refuse (.programTooLong program.length) := by
      simp [performed, Session.load, Machine.load?, fits]
    rw [refused]
    exact .failed (not_carriesOut_of_refuse refused)

theorem handsOver_of_runs (runs : command.runs = true)
    (silent : ∀ key, command.keyState? key = none) :
    session.HandsOver command (session.perform command).1.machine.hostOwned := by
  rw [machine_perform_of_runs session command runs, Machine.hostOwned_run]
  by_cases carried : session.CarriesOut command
  · apply HandsOver.kept carried
    · rintro rfl
      contradiction
    · cases command with
      | load | loadFile => contradiction
      | _ => rfl
    · intro key
      rw [silent key, Option.getD_none]
  · exact .failed carried

theorem handsOver_setKey {number : Int} {down : Bool}
    (performed : session.perform command = session.setKey number down)
    (still : command ≠ .reset ∧ command.isLoad = false)
    (said : ∀ key, command.keyState? key = if number = key.toNat then some down else none) :
    session.HandsOver command (session.perform command).1.machine.hostOwned := by
  by_cases named : 0 ≤ number ∧ number ≤ 15
  · have updated : session.perform command =
        session.update (session.machine.setKey (BitVec.ofInt 4 number) down) := by
      rw [performed, setKey, Keypad.key?_of_named named]
    have carried : session.CarriesOut command := by
      rw [CarriesOut, updated]
      exact ⟨none, rfl⟩
    rw [updated]
    refine @HandsOver.kept session command
      (session.machine.keypad.set (BitVec.ofInt 4 number) down) carried still.1 still.2 ?_
    intro key
    have same : key = BitVec.ofInt 4 number ↔ number = key.toNat := by
      rw [← BitVec.toNat_inj, BitVec.toNat_ofInt]
      omega
    rw [Keypad.isDown_set, said]
    simp only [same]
    split <;> rfl
  · have refused : session.perform command = session.refuse (.keyOutOfRange number) := by
      rw [performed, setKey, Keypad.key?_of_unnamed named]
    rw [refused]
    exact .failed (not_carriesOut_of_refuse refused)

theorem handsOver_setKeys (states : Nested Bool) :
    session.HandsOver (.setKeys states)
      (session.perform (.setKeys states)).1.machine.hostOwned := by
  cases read : Keypad.ofNested? states with
  | ok keypad =>
      have updated : session.perform (.setKeys states) =
          session.update { session.machine with keypad } := by
        rw [perform, setKeys, read]
      have carried : session.CarriesOut (.setKeys states) := by
        rw [CarriesOut, updated]
        exact ⟨none, rfl⟩
      rw [updated]
      refine @HandsOver.kept session _ keypad carried (by simp) rfl ?_
      intro key
      rw [Command.keyState?, Keypad.item?_of_ofNested? read, Option.getD_some]
  | error error =>
      have refused : session.perform (.setKeys states) = session.refuse error := by
        rw [perform, setKeys, read]
      rw [refused]
      exact .failed (not_carriesOut_of_refuse refused)

theorem handsOver_perform (command : Command) :
    session.HandsOver command (session.perform command).1.machine.hostOwned := by
  cases command with
  | reset => exact .reset ⟨none, rfl⟩ rfl
  | load program => exact session.handsOver_load rfl rfl
  | loadFile contents =>
      cases contents with
      | ok program => exact session.handsOver_load rfl rfl
      | error fault => exact .failed (not_carriesOut_of_refuse rfl)
  | step | run => exact session.handsOver_of_runs rfl fun _ => rfl
  | press number | release number =>
      exact session.handsOver_setKey rfl ⟨by simp, rfl⟩ fun _ => rfl
  | setKeys states => exact session.handsOver_setKeys states

end Commands

namespace HandsOver

variable {session : Session} {command : Command} {owned : Machine.HostOwned}
  (effect : session.HandsOver command owned)

include effect

theorem powered_iff :
    owned.powered = true ↔
      (session.CarriesOut command ∧ command.isLoad = true) ∨
        session.machine.powered = true ∧
          ¬(session.CarriesOut command ∧ command = .reset) := by
  cases effect with
  | failed failed => simp [failed, Machine.hostOwned]
  | reset carried reset =>
      subst reset
      simp [carried, Command.isLoad]
  | loaded carried load => simp [carried, load]
  | kept carried still unloaded => simp [still, unloaded, Machine.hostOwned]

theorem isDown_iff (key : Nibble) :
    owned.keypad.isDown key = true ↔
      (session.CarriesOut command ∧ command.keyState? key = some true) ∨
        session.machine.keypad.isDown key = true ∧
          ¬(session.CarriesOut command ∧ command.Overrides key) := by
  cases effect with
  | failed failed => simp [failed, Machine.hostOwned]
  | reset carried reset =>
      subst reset
      simp [carried, Command.Overrides, Command.keyState?]
  | loaded carried load =>
      simp [carried, load, Command.Overrides, Command.keyState?_of_isLoad load]
  | kept carried still unloaded said =>
      rw [said]
      cases spoken : command.keyState? key with
      | none => simp [carried, still, unloaded, Command.Overrides, spoken]
      | some state => simp [carried, Command.Overrides, spoken]

theorem choices_eq :
    owned.dialect = session.machine.dialect ∧ owned.wrapMode = session.machine.wrapMode := by
  cases effect <;> exact ⟨rfl, rfl⟩

end HandsOver

/-! ## Histories -/

/-- The last command that was carried out and spoke of a key, since the machine was last
started afresh, left it so. -/
def LastSaid (start : Session) (history : List Command) (key : Nibble) (state : Bool) : Prop :=
  start.Since history (·.keyState? key = some state) (·.Overrides key)

theorem LastSaid.unique {start : Session} {history : List Command} {key : Nibble}
    {state other : Bool} (said : start.LastSaid history key state)
    (also : start.LastSaid history key other) : state = other := by
  obtain ⟨command, first, second⟩ := said.exists_both also
    (fun command spoken => .inl (by simp [spoken])) (fun command spoken => .inl (by simp [spoken]))
  exact Option.some.inj (first.symm.trans second)

section History

variable {start : Session} (created : start.Created) (history : List Command)

include created

theorem powered_after_iff :
    (start.after history).machine.powered = true ↔
      start.Since history (·.isLoad = true) (· = .reset) := by
  apply flag_after_iff Machine.powered
  · obtain ⟨key, dialect, wrapMode, fresh⟩ := created.machine_eq
    rw [fresh]
  · intro session command
    exact (session.handsOver_perform command).powered_iff

theorem isDown_after_iff (key : Nibble) :
    (start.after history).machine.keypad.isDown key = true ↔
      start.LastSaid history key true := by
  apply flag_after_iff fun machine => machine.keypad.isDown key
  · obtain ⟨name, dialect, wrapMode, fresh⟩ := created.machine_eq
    rw [fresh]
    exact Keypad.isDown_allUp key
  · intro session command
    exact (session.handsOver_perform command).isDown_iff key

end History

theorem choices_after (start : Session) (history : List Command) :
    (start.after history).machine.dialect = start.machine.dialect ∧
      (start.after history).machine.wrapMode = start.machine.wrapMode := by
  apply after_invariant fun session =>
    session.machine.dialect = start.machine.dialect ∧
      session.machine.wrapMode = start.machine.wrapMode
  · intro session command same
    obtain ⟨dialect, wrapMode⟩ := (session.handsOver_perform command).choices_eq
    exact ⟨dialect.trans same.1, wrapMode.trans same.2⟩
  · exact ⟨rfl, rfl⟩

/-- After any history of commands the machine has power exactly if a load was carried out
since the last reset; a key is as the last command that was carried out and spoke of it
left it, and up if there was none since the machine was started afresh; the two choices
are those that the machine was made with. Cycles touch none of it. -/
theorem host_state_of_history (logger : Log.Logger) (seed dialect wrapMode : Setting)
    (start : Session) (built : create? logger seed dialect wrapMode = .ok start)
    (history : List Command) :
    ((start.after history).machine.powered = true ↔
        start.Since history (·.isLoad = true) (· = .reset)) ∧
      (∀ key state, start.LastSaid history key state →
        (start.after history).machine.keypad.isDown key = state) ∧
      (∀ key, (∀ state, ¬start.LastSaid history key state) →
        (start.after history).machine.keypad.isDown key = false) ∧
      Dialect.ofSetting? dialect = .ok (start.after history).machine.dialect ∧
      WrapMode.ofSetting? wrapMode = .ok (start.after history).machine.wrapMode ∧
      (∀ machine cycles, (Machine.run machine cycles).hostOwned = machine.hostOwned) ∧
      ∀ command, command.runs = true →
        ((start.after history).perform command).1.machine.hostOwned =
          (start.after history).machine.hostOwned := by
  have created : start.Created := ⟨logger, seed, dialect, wrapMode, built⟩
  obtain ⟨spoken, wrapped⟩ := Machine.choices_of_create? (machine_of_create? built)
  obtain ⟨sameDialect, sameWrapMode⟩ := start.choices_after history
  refine ⟨powered_after_iff created history, ?_, ?_, ?_, ?_, Machine.hostOwned_run, ?_⟩
  · intro key state said
    cases state with
    | true => exact (isDown_after_iff created history key).mpr said
    | false =>
        apply Bool.eq_false_iff.mpr
        intro down
        have other := ((isDown_after_iff created history key).mp down).unique said
        contradiction
  · intro key silent
    apply Bool.eq_false_iff.mpr
    intro down
    exact silent true ((isDown_after_iff created history key).mp down)
  · rw [spoken, sameDialect]
  · rw [wrapped, sameWrapMode]
  · intro command runs
    rw [machine_perform_of_runs _ command runs, Machine.hostOwned_run]

/-- A key before a load, then another one, a key that there is not, and a fault. -/
def keyedHistory : List Command :=
  [.press 3, .load [0x60, 0x07], .press 4, .press 16, .run 9 true]

theorem keyedHistory_host_state :
    create? fresh.logger (.number 0) (.text "schip") (.text "wrap") = .ok fresh ∧
      (fresh.after keyedHistory).machine.powered = true ∧
      (fresh.LastSaid keyedHistory 4 true ∧
        (fresh.after keyedHistory).machine.keypad.isDown 4 = true) ∧
      ((∀ state, ¬fresh.LastSaid keyedHistory 3 state) ∧
        (fresh.after keyedHistory).machine.keypad.isDown 3 = false) ∧
      Command.step.runs = true ∧
      ((fresh.after keyedHistory).perform .step).1.machine.hostOwned =
        (fresh.after keyedHistory).machine.hostOwned := by
  have built : create? fresh.logger (.number 0) (.text "schip") (.text "wrap") = .ok fresh := rfl
  have loaded : fresh.CarriedOutAt keyedHistory 1 (.load [0x60, 0x07]) :=
    ⟨rfl, none, (result_load_eq_ok_iff _ _).mpr rfl⟩
  have said : fresh.LastSaid keyedHistory 4 true := by
    refine ⟨2, .press 4, ⟨rfl, none, rfl⟩, rfl, ?_⟩
    rintro later other order ⟨found, -⟩
    obtain rfl | rfl | beyond : later = 3 ∨ later = 4 ∨ 5 ≤ later := by omega
    · obtain rfl := Option.some.inj found
      simp [Command.Overrides, Command.keyState?, Command.isLoad]
    · obtain rfl := Option.some.inj found
      simp [Command.Overrides, Command.keyState?, Command.isLoad]
    · exact absurd (List.getElem?_eq_some_iff.mp found).1 (Nat.not_lt.mpr beyond)
  have silent : ∀ state, ¬fresh.LastSaid keyedHistory 3 state := by
    rintro state ⟨place, command, ⟨found, -⟩, spoken, quiet⟩
    obtain rfl | later : place = 0 ∨ 1 ≤ place := by omega
    · exact quiet 1 _ (by decide) loaded (.inr (.inr rfl))
    · have unspoken : ∀ other ∈ keyedHistory.drop 1, other.keyState? 3 = none := by decide
      have member : command ∈ keyedHistory.drop 1 :=
        List.mem_of_getElem? (i := place - 1) (by
          rw [List.getElem?_drop, Nat.add_sub_cancel' later, found])
      rw [unspoken command member] at spoken
      contradiction
  obtain ⟨powered, keyed, unkeyed, -, -, -, kept⟩ :=
    host_state_of_history fresh.logger (.number 0) (.text "schip") (.text "wrap") fresh built
      keyedHistory
  refine ⟨built, powered.mpr ?_, ⟨said, keyed 4 true said⟩, ⟨silent, unkeyed 3 silent⟩, rfl,
    kept .step rfl⟩
  refine ⟨1, _, loaded, rfl, ?_⟩
  rintro later other order ⟨found, -⟩ rfl
  have unmet : Command.reset ∉ keyedHistory := by simp [keyedHistory]
  exact unmet (List.mem_of_getElem? found)

end Session

end Chip8
