import Chip8.Headless.Run
import Chip8.Picture.Library
import Chip8.Proofs.Batch
import Chip8.Proofs.Frames
import Chip8.Proofs.Logging
import Chip8.Proofs.Watching

/-!
# The outcome of a headless run

A run that has all it needs to load its program (a `Plan`) says how it was configured, what
it loaded, whether the machine faulted and where it stands, and saves the last frame of a
machine that did not fault if there is one. A run that lacks anything ends with an error
after it has said how it was configured. What the run shows of its progress decides nothing.
-/

namespace Chip8

theorem Session.load_of_long {session : Session} {program : List Byte}
    (long : 3584 < program.length) :
    session.load program = session.refuse (.programTooLong program.length) := by
  have capacity : Memory.programCapacity = 3584 := rfl
  rw [load, Machine.load?, capacity, if_neg (Nat.not_le.mpr long)]

namespace Headless

/-- The logger of a run. -/
def loggerOf (surroundings : Surroundings) (clock : Log.Clock) (config : Config)
    (threshold : Log.Level) : Log.Logger :=
  .ofThreshold clock { threshold := config.logLevel } surroundings.terminal threshold

/-- All that a run needs to load its program. -/
structure Plan (surroundings : Surroundings) (config : Config) where
  threshold : Log.Level
  dialect : Dialect
  wrapMode : WrapMode
  key : Random.Key
  path : String
  program : List Byte
  named : Log.Level.ofSetting? config.logLevel = some threshold
  spoken : Dialect.ofSetting? config.dialect = .ok dialect
  wrapped : WrapMode.ofSetting? config.wrapMode = .ok wrapMode
  keyed : Random.Key.ofSetting? config.seed = .ok key
  placed : Path.ofSetting? surroundings.directory config.rom = .ok path
  found : surroundings.files.read? path = .ok program
  fits : program.length ≤ 3584

/-! ## What is said -/

def loadReport (loaded : Machine) (program : List Byte) : List (Log.Level × String) :=
  [(.info, Session.loadedMessage loaded program.length)]

def faultReport (final : Machine) : List (Log.Level × String) :=
  if final.faulted then
    [(.error, Error.illegalOpcodeText final.illegalOpcode.toNat (some final.pc.toNat)),
      (.critical, "Execution halted")]
  else []

def saveReport (saved : Option (String × Picture.Frame)) : List (Log.Level × String) :=
  saved.toList.map fun frame => (.info, "Frame saved: " ++ frame.1)

/-! ## Loading -/

section Loading

variable {surroundings : Surroundings} {config : Config}

theorem Config.machine?_eq_ok_iff {machine : Machine} :
    config.machine? = .ok machine ↔
      ∃ dialect wrapMode key,
        Dialect.ofSetting? config.dialect = .ok dialect ∧
        WrapMode.ofSetting? config.wrapMode = .ok wrapMode ∧
        Random.Key.ofSetting? config.seed = .ok key ∧
        { key, dialect, wrapMode } = machine := by
  simp only [machine?, Error.bind_eq_ok_iff, pure, Except.pure, Except.ok.injEq]
  constructor
  · rintro ⟨dialect, spoken, wrapMode, wrapped, key, keyed, rfl⟩
    exact ⟨dialect, wrapMode, key, spoken, wrapped, keyed, rfl⟩
  · rintro ⟨dialect, wrapMode, key, spoken, wrapped, keyed, rfl⟩
    exact ⟨dialect, spoken, wrapMode, wrapped, key, keyed, rfl⟩

namespace Plan

variable (plan : Plan surroundings config) (clock : Log.Clock)

/-- The machine of a run before it is loaded. -/
def machine : Machine :=
  { key := plan.key, dialect := plan.dialect, wrapMode := plan.wrapMode }

/-- The machine of a run once it is loaded. -/
def loaded : Machine :=
  { plan.machine with
    memory := Font.memory.writeBlock Memory.programStart plan.program
    powered := true }

theorem load?_machine : plan.machine.load? plan.program = .ok plan.loaded :=
  if_pos plan.fits

def logger : Log.Logger := loggerOf surroundings clock config plan.threshold

/-- What is said until the program is loaded. -/
def opening : List (Log.Level × String) :=
  config.announcement ++ loadReport plan.loaded plan.program

theorem start?_eq :
    start? surroundings clock config =
      (((plan.logger clock).logAll plan.opening).2,
        .ok { machine := plan.loaded
              logger := ((plan.logger clock).logAll plan.opening).1 }) := by
  have created : Log.Logger.create? clock { threshold := config.logLevel }
      surroundings.terminal = .ok (plan.logger clock) :=
    Log.Logger.create?_of_named clock _ surroundings.terminal plan.named
  have made : config.machine? = .ok plan.machine :=
    Config.machine?_eq_ok_iff.mpr ⟨_, _, _, plan.spoken, plan.wrapped, plan.keyed, rfl⟩
  rw [opening, Log.Logger.logAll_append, loadReport, Log.Logger.logAll_singleton]
  simp only [start?, created, made, plan.placed, plan.found, bind, Except.bind, pure,
    Except.pure, Session.loadFile, Session.load, plan.load?_machine]
  generalize plan.loaded = loaded
  generalize (plan.logger clock).logAll config.announcement = shown
  rfl

end Plan

/-- What a run says that lacks something: how it was configured, if it has a logger. -/
def announced (surroundings : Surroundings) (clock : Log.Clock) (config : Config) :
    List String :=
  match Log.Level.ofSetting? config.logLevel with
  | none => []
  | some threshold => (loggerOf surroundings clock config threshold).linesOf config.announcement

theorem start?_of_isEmpty (lacking : IsEmpty (Plan surroundings config)) (clock : Log.Clock) :
    ∃ error, start? surroundings clock config =
      (announced surroundings clock config, .error error) := by
  cases named : Log.Level.ofSetting? config.logLevel with
  | none =>
      obtain ⟨error, refused⟩ := Log.Logger.create?_of_unnamed clock
        { threshold := config.logLevel } surroundings.terminal named
      exact ⟨error, by simp only [start?, refused, announced, named]⟩
  | some threshold =>
      have created := Log.Logger.create?_of_named clock
        { threshold := config.logLevel } surroundings.terminal named
      simp only [start?, created, announced, named, loggerOf, Log.Logger.logAll_eq]
      cases made : config.machine? with
      | error error => exact ⟨error, by simp [bind, Except.bind]⟩
      | ok machine =>
          cases placed : Path.ofSetting? surroundings.directory config.rom with
          | error error => exact ⟨error, by simp [bind, Except.bind]⟩
          | ok path =>
              cases found : surroundings.files.read? path with
              | error fault =>
                  exact ⟨.fileNotRead fault, by
                    simp [found, bind, Except.bind, pure, Except.pure, Except.map,
                      Session.loadFile, Session.refuse]⟩
              | ok program =>
                  have long : 3584 < program.length := by
                    by_contra fits
                    obtain ⟨dialect, wrapMode, key, spoken, wrapped, keyed, -⟩ :=
                      Config.machine?_eq_ok_iff.mp made
                    exact lacking.elim ⟨threshold, dialect, wrapMode, key, path, program, named,
                      spoken, wrapped, keyed, placed, found, Nat.le_of_not_lt fits⟩
                  exact ⟨.programTooLong program.length, by
                    simp [found, bind, Except.bind, pure, Except.pure, Except.map,
                      Session.loadFile, Session.load_of_long long, Session.refuse]⟩

end Loading

/-! ## Running and saving -/

section Finishing

variable (surroundings : Surroundings) (config : Config)

/-- What saving asks of the surroundings and shows of the screen. -/
theorem Config.save?_eq_ok_iff {screen : Screen} {path : String} {frame : Picture.Frame} :
    config.save? surroundings screen = .ok (path, frame) ↔
      Path.ofSetting? surroundings.directory config.screenshot = .ok path ∧
        surroundings.library.CanWrite surroundings.files path frame.format ∧
        frame.image.Shows surroundings.host screen config.scale config.colorScheme := by
  simp only [save?, Error.bind_eq_ok_iff, pure, Except.pure, Except.ok.injEq, Prod.mk.injEq,
    Picture.Frame.save?_eq_ok_iff]
  constructor
  · rintro ⟨_, placed, _, saved, rfl, rfl⟩
    exact ⟨placed, saved⟩
  · rintro ⟨placed, saved⟩
    exact ⟨path, placed, frame, saved, rfl, rfl⟩

/-- How a run ends: the frame that is saved, if any, and the error, if any. -/
def Config.ending (final : Machine) : Option (String × Picture.Frame) × Option Error :=
  match final.fault? with
  | some error => (none, some error)
  | none =>
      if config.screenshot.holds then
        match config.save? surroundings final.screen with
        | .error error => (none, some error)
        | .ok frame => (some frame, none)
      else (none, none)

theorem Config.sparesOpcodes_save? (screen : Screen) :
    Error.SparesOpcodes (config.save? surroundings screen) := by
  have place : Error.SparesOpcodes
      (Path.ofSetting? surroundings.directory config.screenshot) := by
    unfold Path.ofSetting?
    split <;> exact fun _ _ => nofun
  exact .bind place fun path =>
    .bind (Picture.Frame.sparesOpcodes_save? _ _ _ _ path _ _) fun _ => .pure _

theorem Config.ending_of_faulted {final : Machine} (faulted : final.faulted = true) :
    config.ending surroundings final =
      (none, some (.illegalOpcode final.illegalOpcode.toNat (some final.pc.toNat))) := by
  simp [ending, Machine.fault?, faulted]

theorem Config.ending_fst_eq_some_iff (final : Machine) {frame : String × Picture.Frame} :
    (config.ending surroundings final).1 = some frame ↔
      final.faulted = false ∧ config.screenshot.holds = true ∧
        config.save? surroundings final.screen = .ok frame := by
  cases faulted : final.faulted with
  | true => simp [config.ending_of_faulted surroundings faulted]
  | false =>
      simp only [ending, Machine.fault?, faulted]
      cases config.screenshot.holds with
      | false => simp
      | true => cases config.save? surroundings final.screen <;> simp

theorem Config.ending_snd_eq_illegalOpcode_iff (final : Machine) {opcode : Int}
    {address : Option Int} :
    (config.ending surroundings final).2 = some (.illegalOpcode opcode address) ↔
      final.faulted = true ∧ opcode = final.illegalOpcode.toNat ∧
        address = some ↑final.pc.toNat := by
  cases faulted : final.faulted with
  | true => simp [config.ending_of_faulted surroundings faulted, eq_comm]
  | false =>
      have spares := config.sparesOpcodes_save? surroundings final.screen opcode address
      simp only [ending, Machine.fault?, faulted]
      cases config.screenshot.holds with
      | false => simp
      | true =>
          cases saved : config.save? surroundings final.screen with
          | error error => simpa [saved] using spares
          | ok frame => simp

/-- What is said from the end of the program on. -/
def closing (final : Machine) (saved : Option (String × Picture.Frame)) :
    List (Log.Level × String) :=
  faultReport final ++ summary final ++ saveReport saved

theorem finish_eq {session : Session} (powered : session.machine.powered = true) {cycles : Nat}
    (counted : config.cycles = .number cycles) :
    finish surroundings config session =
      { lines := (session.logger.logAll (closing (session.machine.run cycles)
          (config.ending surroundings (session.machine.run cycles)).1)).2
        events :=
          if config.progress.holds then (session.machine.runReporting cycles).2 else []
        saved := (config.ending surroundings (session.machine.run cycles)).1
        error := (config.ending surroundings (session.machine.run cycles)).2 } := by
  have executed : config.execute session =
      session.settle (session.machine.run cycles) none
        (if config.progress.holds then (session.machine.runReporting cycles).2 else []) := by
    rw [Config.execute, Config.cycles?, counted]
    exact Session.run_of_powered powered cycles _
  generalize (if config.progress.holds then (session.machine.runReporting cycles).2
    else []) = events at executed ⊢
  generalize session.machine.run cycles = final at executed ⊢
  cases faulted : final.faulted with
  | true =>
      have fault : final.fault? =
          some (.illegalOpcode final.illegalOpcode.toNat (some final.pc.toNat)) := by
        simp [Machine.fault?, faulted]
      rw [finish, executed, Session.settle_of_fault fault]
      simp only [Config.ending, fault, closing, faultReport, faulted, saveReport, if_true,
        Option.toList_none, List.map_nil, List.append_nil]
      rfl
  | false =>
      have sound : final.fault? = none := by simp [Machine.fault?, faulted]
      rw [finish, executed, Session.settle_of_sound faulted]
      simp only [Config.ending, sound, closing, faultReport, faulted, saveReport]
      cases config.screenshot.holds with
      | false => simp
      | true =>
          cases saved : config.save? surroundings final.screen with
          | error error => simp
          | ok frame => simp [Log.Logger.logAll_append, Log.Logger.logAll_singleton]

end Finishing

/-! ## The whole run -/

namespace Plan

variable {surroundings : Surroundings} {config : Config} (plan : Plan surroundings config)
  (clock : Log.Clock)

theorem run_eq {cycles : Nat} (counted : config.cycles = .number cycles) :
    run surroundings clock config =
      { lines := (plan.logger clock).linesOf
          (plan.opening ++ closing (plan.loaded.run cycles)
            (config.ending surroundings (plan.loaded.run cycles)).1)
        events :=
          if config.progress.holds then (plan.loaded.runReporting cycles).2 else []
        saved := (config.ending surroundings (plan.loaded.run cycles)).1
        error := (config.ending surroundings (plan.loaded.run cycles)).2 } := by
  have powered : ∀ logger, (Session.mk plan.loaded logger).machine.powered = true :=
    fun _ => rfl
  rw [run, plan.start?_eq clock]
  simp only [finish_eq surroundings config (powered _) counted, Log.Logger.linesOf_append]

/-- What a run with a plan comes to, in terms of the machine that it loads and of the machine
that it ends with. -/
structure ComesTo (cycles : Nat) (loaded final : Machine) (outcome : Outcome) : Prop where
  /-- A word is called illegal only where the machine has faulted, and then it is that word. -/
  error_iff : ∀ opcode address,
    outcome.error = some (.illegalOpcode opcode address) ↔
      final.faulted = true ∧ opcode = final.illegalOpcode.toNat ∧ address = some ↑final.pc.toNat
  lines_eq :
    outcome.lines = (plan.logger clock).linesOf
      (config.announcement ++ loadReport loaded plan.program ++ faultReport final ++
        summary final ++ saveReport outcome.saved)
  saved_iff : ∀ path frame,
    outcome.saved = some (path, frame) ↔
      final.faulted = false ∧ config.screenshot.holds = true ∧
        Path.ofSetting? surroundings.directory config.screenshot = .ok path ∧
        surroundings.library.CanWrite surroundings.files path frame.format ∧
        frame.image.Shows surroundings.host final.screen config.scale config.colorScheme
  events_eq :
    outcome.events =
      if config.progress.holds = true ∧ 0 < cycles then
        (Progress.cyclesMeter cycles).eventsToTotal
      else []

theorem comesTo {cycles : Nat} (counted : config.cycles = .number cycles) :
    plan.ComesTo clock cycles plan.loaded (plan.loaded.run cycles)
      (run surroundings clock config) := by
  rw [plan.run_eq clock counted]
  generalize plan.loaded.run cycles = final
  refine ⟨?error, ?lines, ?saved, ?events⟩
  case lines => simp only [opening, closing, List.append_assoc]
  case events => rw [Machine.runReporting_snd, ite_and]
  case error =>
    intro opcode address
    exact config.ending_snd_eq_illegalOpcode_iff surroundings final
  case saved =>
    intro path frame
    rw [← Config.save?_eq_ok_iff]
    exact config.ending_fst_eq_some_iff surroundings final

end Plan

section Progress

variable (config : Config)

/-- The line that shows whether a run shows its progress. -/
def progressLine : Nat := 6

theorem Config.announcement_withProgress (progress : Setting)
    (later : List (Log.Level × String)) :
    { config with progress }.announcement ++ later =
      config.announcement.take progressLine ++
        (.info, "  " ++ "progress" ++ ": " ++ progress.plain) ::
          (config.announcement.drop (progressLine + 1) ++ later) :=
  rfl

theorem Config.level_of_mem_announcement :
    ∀ message ∈ config.announcement, message.1 = .info := by
  simp only [announcement, List.forall_mem_cons, List.forall_mem_map, implies_true, and_self]

theorem filter_announcement_take {logger : Log.Logger} {text : String}
    (written : logger.writes (.info, text) = true) :
    (config.announcement.take progressLine).filter logger.writes =
      config.announcement.take progressLine := by
  refine List.filter_eq_self.mpr fun message isBefore => ?_
  have level := config.level_of_mem_announcement message (List.mem_of_mem_take isBefore)
  rw [← written, Log.Logger.writes, Log.Logger.writes, level]

theorem getElem?_lines_withProgress (logger : Log.Logger) (progress : Setting)
    (later : List (Log.Level × String)) {place : Nat} (elsewhere : place ≠ progressLine) :
    (logger.linesOf ({ config with progress }.announcement ++ later))[place]? =
      (logger.linesOf (config.announcement ++ later))[place]? := by
  rw [config.announcement_withProgress progress later,
    show config.announcement ++ later = _ from
      config.announcement_withProgress config.progress later]
  refine logger.getElem?_linesOf_replace fun written => ?_
  rw [filter_announcement_take config written]
  exact elsewhere

theorem getElem?_lines_progressLine {logger : Log.Logger}
    (written : logger.writes (.info, "  " ++ "progress" ++ ": " ++ config.progress.plain) = true)
    (later : List (Log.Level × String)) :
    (logger.linesOf (config.announcement ++ later))[progressLine]? =
      some (logger.lineAt progressLine
        (.info, "  " ++ "progress" ++ ": " ++ config.progress.plain)) := by
  rw [show config.announcement ++ later = _ from
      config.announcement_withProgress config.progress later,
    Log.Logger.linesOf, List.getElem?_mapIdx, List.filter_append, List.filter_cons, if_pos written,
    filter_announcement_take config written]
  rfl

end Progress

/-! ## Every run -/

section Runs

variable (surroundings : Surroundings) (clock : Log.Clock) (config : Config)

/-- Two outcomes that may differ in the line about the progress and in what the bar was told. -/
structure Outcome.AgreesButForProgress (outcome other : Outcome) : Prop where
  error_eq : outcome.error = other.error
  saved_eq : outcome.saved = other.saved
  line_eq : ∀ place, place ≠ progressLine → outcome.lines[place]? = other.lines[place]?

theorem agreesButForProgress {surroundings : Surroundings} {config : Config}
    (plan : Plan surroundings config) (clock : Log.Clock) {cycles : Nat}
    (counted : config.cycles = .number cycles) (progress : Setting) :
    (run surroundings clock { config with progress }).AgreesButForProgress
      (run surroundings clock config) := by
  -- What a run needs has nothing to do with its progress.
  let other : Plan surroundings { config with progress } := { plan with }
  rw [plan.run_eq clock counted, other.run_eq clock counted]
  refine ⟨rfl, rfl, fun place elsewhere => ?_⟩
  simp only [Plan.opening, List.append_assoc]
  exact getElem?_lines_withProgress config (plan.logger clock) progress _ elsewhere

end Runs

/-! ## A program that jumps in place -/

/-- A directory whose every file is the program, with room for anything. -/
def jumpingInPlace : Surroundings where
  directory := "/home"
  files := { contents := fun _ => .ok [0x12, 0x00], writable := fun _ => .ok () }
  host := { holds := fun _ _ => true }
  library := .standard

def clockAtRest : Log.Clock := { reading := fun _ => 0.0 }

def savingFrame : Config :=
  { rom := .text "rom.ch8", cycles := .number 1, screenshot := .text "frame.png" }

theorem resolve_of_single {path : String} (relative : Path.root path = "")
    (single : Path.parts path = [path]) :
    Path.resolve "/home" path = Path.write "/" ["home", path] := by
  have root : Path.root "/home" = "/" := by decide +kernel
  have parts : Path.parts "/home" = ["home"] := by
    simp +decide [Path.parts, String.splitOn, String.splitOnAux]
  rw [Path.resolve, if_pos relative, root, parts, single, List.singleton_append]

theorem resolve_rom : Path.resolve "/home" "rom.ch8" = "/home/rom.ch8" :=
  resolve_of_single (by decide +kernel)
    (by simp +decide [Path.parts, String.splitOn, String.splitOnAux])

theorem resolve_frame : Path.resolve "/home" "frame.png" = "/home/frame.png" :=
  resolve_of_single (by decide +kernel)
    (by simp +decide [Path.parts, String.splitOn, String.splitOnAux])

theorem canWrite_frame :
    jumpingInPlace.library.CanWrite jumpingInPlace.files "/home/frame.png" .png := by
  have extension : Picture.Library.extension "/home/frame.png" = "png" := by decide +kernel
  have lower : "png".toLower = "png" := by decide +kernel
  refine ⟨?_, rfl⟩
  change Picture.Library.ofExtension? (Picture.Library.extension "/home/frame.png") = _
  rw [extension, Picture.Library.ofExtension?, lower]
  rfl

def savingPlan : Plan jumpingInPlace savingFrame where
  threshold := .info
  dialect := .schip
  wrapMode := .wrap
  key := ⟨0, 0⟩
  path := "/home/rom.ch8"
  program := [0x12, 0x00]
  named := by decide +kernel
  spoken := rfl
  wrapped := rfl
  keyed := rfl
  placed := congrArg Except.ok resolve_rom
  found := rfl
  fits := by decide

end Headless

end Chip8
