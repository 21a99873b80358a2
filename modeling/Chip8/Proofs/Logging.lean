import Chip8.Log.Logger
import Mathlib.Data.List.Basic

/-!
# What a logger writes

Of the messages that it is given a logger writes those that are heavy enough, in their
order. The stamp of a line comes from the reading of the clock at the line's place among
the lines that are written: messages that are not written cost no reading.
-/

namespace Chip8.Log

/-- The level that a setting names; only a text names one. -/
def Level.ofSetting? : Setting → Option Level
  | .text name => ofName? name
  | _ => none

namespace Logger

/-- The logger that a request gets once its threshold is known. -/
def ofThreshold (clock : Clock) (request : Request) (terminal : Bool) (threshold : Level) :
    Logger where
  name := request.name
  threshold
  colored := request.colored && terminal
  stamped := request.stamped
  start := clock.read.1
  clock := clock.read.2

section Creation

variable (clock : Clock) (request : Request) (terminal : Bool)

theorem create?_of_named {threshold : Level}
    (named : Level.ofSetting? request.threshold = some threshold) :
    create? clock request terminal = .ok (ofThreshold clock request terminal threshold) := by
  cases asked : request.threshold with
  | text name =>
      rw [asked, Level.ofSetting?] at named
      simp only [create?, asked, Level.nameOfSetting?, bind, Except.bind, named]
      rfl
  | _ => simp [asked, Level.ofSetting?] at named

theorem create?_of_unnamed (unnamed : Level.ofSetting? request.threshold = none) :
    ∃ error, create? clock request terminal = .error error := by
  cases asked : request.threshold with
  | text name =>
      rw [asked, Level.ofSetting?] at unnamed
      exact ⟨.unknownThreshold name, by
        simp only [create?, asked, Level.nameOfSetting?, bind, Except.bind, unnamed]⟩
  | _ =>
      exact ⟨.levelNotText, by
        simp only [create?, asked, Level.nameOfSetting?, bind, Except.bind]⟩

end Creation

variable (logger : Logger)

/-- Whether a message is heavy enough to be written. -/
def writes (message : Level × String) : Bool := logger.threshold.rank ≤ message.1.rank

/-- The stamp of a line, by its place among the lines to come. -/
def stampAt (place : Nat) : String :=
  if logger.stamped then
    stamp (logger.clock.reading (logger.clock.taken + place) - logger.start)
  else ""

/-- The line of a message, by its place among the lines to come. -/
def lineAt (place : Nat) (message : Level × String) : String :=
  logger.stampAt place ++ tag logger.colored message.1 ++ "[" ++ logger.name ++ "] " ++
    message.2

theorem lineAt_inj {place : Nat} {level : Level} {text other : String} :
    logger.lineAt place (level, text) = logger.lineAt place (level, other) ↔ text = other := by
  simp [lineAt]

/-- The lines that messages become. -/
def linesOf (messages : List (Level × String)) : List String :=
  (messages.filter logger.writes).mapIdx logger.lineAt

/-- The logger after so many lines. -/
def past (lines : Nat) : Logger :=
  { logger with clock := { logger.clock with
      taken := if logger.stamped then logger.clock.taken + lines else logger.clock.taken } }

@[simp] theorem past_zero : logger.past 0 = logger := by
  simp [past]

theorem past_of_unstamped (unstamped : logger.stamped = false) (lines : Nat) :
    logger.past lines = logger := by
  simp only [past, if_neg (Bool.eq_false_iff.mp unstamped)]

theorem past_past (first second : Nat) :
    (logger.past first).past second = logger.past (first + second) := by
  cases stamps : logger.stamped <;> simp [past, stamps, Nat.add_assoc]

@[simp] theorem writes_past (lines : Nat) : (logger.past lines).writes = logger.writes := rfl

theorem lineAt_past (lines place : Nat) :
    (logger.past lines).lineAt place = logger.lineAt (lines + place) := by
  funext message
  cases stamps : logger.stamped <;> simp [past, stamps, lineAt, stampAt, Nat.add_assoc]

theorem log_of_writes {message : Level × String} (written : logger.writes message = true) :
    logger.log message.1 message.2 = (logger.past 1, some (logger.lineAt 0 message)) := by
  have heavy : ¬message.1.rank < logger.threshold.rank := by
    simpa [writes] using written
  cases stamps : logger.stamped with
  | false => simp [log, heavy, takeStamp, stamps, lineAt, stampAt, past_of_unstamped]
  | true => simp [log, heavy, takeStamp, stamps, past, lineAt, stampAt, Clock.read]

theorem log_of_not_writes {message : Level × String}
    (unwritten : logger.writes message = false) :
    logger.log message.1 message.2 = (logger, none) := by
  have light : message.1.rank < logger.threshold.rank := by
    simpa [writes] using unwritten
  rw [log, if_pos light]

theorem logAll_eq (messages : List (Level × String)) :
    logger.logAll messages =
      (logger.past (messages.filter logger.writes).length, logger.linesOf messages) := by
  induction messages generalizing logger with
  | nil => simp [logAll, linesOf]
  | cons message rest inductionHypothesis =>
      cases written : logger.writes message with
      | false =>
          simp only [logAll, log_of_not_writes logger written, inductionHypothesis, linesOf,
            List.filter_cons, written]
          rfl
      | true =>
          have later : (logger.past 1).lineAt = fun place => logger.lineAt (place + 1) :=
            funext fun place => by rw [lineAt_past, Nat.add_comm]
          simp [logAll, log_of_writes logger written, inductionHypothesis, linesOf, written,
            past_past, later, List.mapIdx_cons, Nat.add_comm]

theorem logAll_singleton (message : Level × String) :
    logger.logAll [message] =
      ((logger.log message.1 message.2).1, (logger.log message.1 message.2).2.toList) := by
  simp [logAll]

/-- Messages may be given in two parts. -/
theorem logAll_append (first second : List (Level × String)) :
    logger.logAll (first ++ second) =
      (((logger.logAll first).1.logAll second).1,
        (logger.logAll first).2 ++ ((logger.logAll first).1.logAll second).2) := by
  induction first generalizing logger with
  | nil => rfl
  | cons message rest inductionHypothesis =>
      simp only [List.cons_append, logAll, inductionHypothesis, List.append_assoc]

theorem linesOf_append (first second : List (Level × String)) :
    logger.linesOf (first ++ second) =
      (logger.logAll first).2 ++ ((logger.logAll first).1.logAll second).2 := by
  have lines := congrArg Prod.snd (logger.logAll_append first second)
  rwa [logAll_eq] at lines

/-- To give a message another text changes no other line. -/
theorem getElem?_linesOf_replace {level : Level} {text other : String}
    {before after : List (Level × String)} {place : Nat}
    (elsewhere : logger.writes (level, text) = true →
      place ≠ (before.filter logger.writes).length) :
    (logger.linesOf (before ++ (level, other) :: after))[place]? =
      (logger.linesOf (before ++ (level, text) :: after))[place]? := by
  have alike : logger.writes (level, other) = logger.writes (level, text) := rfl
  simp only [linesOf, List.getElem?_mapIdx, List.filter_append]
  cases written : logger.writes (level, text) with
  | false => simp [alike, written]
  | true =>
      simp only [List.filter_cons, alike, written, if_true, List.getElem?_append]
      rcases Nat.lt_or_gt_of_ne (elsewhere written) with earlier | later
      · rw [if_pos earlier, if_pos earlier]
      · obtain ⟨rest, split⟩ := Nat.exists_eq_add_of_lt later
        simp [split, Nat.add_assoc]

end Logger

end Chip8.Log
