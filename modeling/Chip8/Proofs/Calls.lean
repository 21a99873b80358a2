import Chip8.Proofs.Hundredths
import Chip8.Proofs.Logging

/-!
# Calls to a logger

A call names its level, in letters of any case, and may name one that there is not. Such a call
fails, and the logger is as it was before; any other is answered with an entry exactly if its
level is heavy enough. The entries are those of a logger for every level, less the light ones,
and the stamp of an entry comes from the reading of the clock at its place among them.
What an entry says is spelled out here, from its stamp to its text.
-/

namespace Chip8.Log

namespace Level

theorem ofName?_eq_some_iff {name : String} {level : Level} :
    ofName? name = some level ↔ Text.upperCase name = level.name := by
  constructor
  · intro found
    have named := List.find?_some found
    exact (beq_iff_eq.mp named).symm
  · intro named
    rw [ofName?, named]
    cases level <;> decide

theorem isSome_ofName?_iff {name : String} :
    (ofName? name).isSome = true ↔ ∃ level : Level, Text.upperCase name = level.name := by
  simp only [Option.isSome_iff_exists, ofName?_eq_some_iff]

/-- A level as entries show it without a colour. -/
def label : Level → String
  | .debug => "[   DEBUG]"
  | .info => "[    INFO]"
  | .warning => "[ WARNING]"
  | .error => "[   ERROR]"
  | .critical => "[CRITICAL]"

/-- What turns a terminal to the colour of a level: cyan, green, yellow, red and magenta. -/
def escape : Level → String
  | .debug => "\x1b[36m"
  | .info => "\x1b[32m"
  | .warning => "\x1b[33m"
  | .error => "\x1b[31m"
  | .critical => "\x1b[35m"

/-- The level of an entry, plain or in its colour. -/
def shown (level : Level) : Bool → String
  | false => level.label
  | true => level.escape ++ level.label ++ "\x1b[0m"

theorem tag_eq_shown (colored : Bool) (level : Level) :
    Logger.tag colored level = level.shown colored := by
  cases colored <;> cases level <;> rfl

end Level

/-- A text to be written at a level that is given by its name. -/
structure Call where
  level : String
  text : String
  deriving DecidableEq

namespace Call

/-- The level of the call is one that there is. -/
def Named (call : Call) : Prop :=
  ∃ level : Level, Text.upperCase call.level = level.name

/-- The level of the call is at a threshold or above it. -/
def Reaches (threshold : Level) (call : Call) : Prop :=
  ∃ level : Level, Text.upperCase call.level = level.name ∧ threshold.rank ≤ level.rank

instance (call : Call) : Decidable call.Named :=
  decidable_of_iff _ Level.isSome_ofName?_iff

instance (threshold : Level) (call : Call) : Decidable (call.Reaches threshold) :=
  decidable_of_iff ((Level.ofName? call.level).any fun level => threshold.rank ≤ level.rank)
    (by simp only [Option.any_eq_true, decide_eq_true_eq, Level.ofName?_eq_some_iff, Reaches])

theorem reaches_iff {threshold level : Level} {call : Call}
    (spelled : Text.upperCase call.level = level.name) :
    call.Reaches threshold ↔ threshold.rank ≤ level.rank := by
  constructor
  · rintro ⟨other, otherwise, heavy⟩
    have known := Level.ofName?_eq_some_iff.mpr spelled
    rw [Level.ofName?_eq_some_iff.mpr otherwise, Option.some.injEq] at known
    exact known ▸ heavy
  · intro heavy
    exact ⟨level, spelled, heavy⟩

end Call

namespace Logger

/-- The answer to a call: an entry, none if the call is too light, or an error. -/
abbrev Answer := Except Error (Option String)

/-- The entry that an answer prints, if any. -/
def Answer.printed? : Answer → Option String
  | .ok entry => entry
  | .error _ => none

variable (logger : Logger)

/-- Answer a call. One that fails leaves the logger as it is. -/
def answer (call : Call) : Logger × Answer :=
  match logger.logNamed? call.level call.text with
  | .ok (next, entry) => (next, .ok entry)
  | .error error => (logger, .error error)

def answerAll (logger : Logger) : List Call → Logger × List Answer
  | [] => (logger, [])
  | call :: rest =>
      let (next, answer) := logger.answer call
      let (last, answers) := next.answerAll rest
      (last, answer :: answers)

/-- The logger once it has answered calls. -/
def after (calls : List Call) : Logger := (logger.answerAll calls).1

/-- What is printed for calls: each entry with the call that it answers. -/
def transcript (calls : List Call) : List (Call × String) :=
  (calls.zip (logger.answerAll calls).2).filterMap fun (call, answer) =>
    answer.printed?.map fun entry => (call, entry)

/-- The calls that are answered with an entry. -/
def answered (calls : List Call) : List Call :=
  calls.filter fun call => call.Reaches logger.threshold

/-- The entry for a call, by its place among the entries to come. -/
def entryAt (place : Nat) (call : Call) : String :=
  ((Level.ofName? call.level).map fun level => logger.lineAt place (level, call.text)).getD ""

theorem entryAt_past (entries place : Nat) (call : Call) :
    (logger.past entries).entryAt place call = logger.entryAt (entries + place) call := by
  simp only [entryAt, lineAt_past]

/-! ## One call -/

section Answer

variable {call : Call} {level : Level}

theorem answer_of_not_named (unnamed : ¬call.Named) :
    logger.answer call = (logger, .error .unknownLevel) := by
  have unknown : Level.ofName? call.level = none :=
    Option.not_isSome_iff_eq_none.mp (Level.isSome_ofName?_iff.not.mpr unnamed)
  simp only [answer, logNamed?, unknown]

theorem answer_of_named (spelled : Text.upperCase call.level = level.name) :
    logger.answer call =
      ((logger.log level call.text).1, .ok (logger.log level call.text).2) := by
  simp only [answer, logNamed?, Level.ofName?_eq_some_iff.mpr spelled]

theorem answer_of_light (spelled : Text.upperCase call.level = level.name)
    (light : level.rank < logger.threshold.rank) : logger.answer call = (logger, .ok none) := by
  have unwritten : logger.writes (level, call.text) = false := by
    simpa [writes] using light
  rw [logger.answer_of_named spelled, logger.log_of_not_writes unwritten]

theorem answer_of_reaches (reached : call.Reaches logger.threshold) :
    logger.answer call = (logger.past 1, .ok (some (logger.entryAt 0 call))) := by
  obtain ⟨level, spelled, heavy⟩ := reached
  have written : logger.writes (level, call.text) = true := by
    simpa [writes] using heavy
  rw [logger.answer_of_named spelled, logger.log_of_writes written, entryAt,
    Level.ofName?_eq_some_iff.mpr spelled]
  rfl

/-- A call that does not reach the threshold, named or unnamed, prints nothing and leaves the
logger as it is. -/
theorem exists_answer_of_not_reaches (quiet : ¬call.Reaches logger.threshold) :
    ∃ answer : Answer, logger.answer call = (logger, answer) ∧ answer.printed? = none := by
  by_cases named : call.Named
  · obtain ⟨level, spelled⟩ := named
    have light := Nat.lt_of_not_le ((Call.reaches_iff spelled).not.mp quiet)
    exact ⟨_, logger.answer_of_light spelled light, rfl⟩
  · exact ⟨_, logger.answer_of_not_named named, rfl⟩

/-- A call at a level that there is does not fail, and prints if it reaches the threshold. -/
theorem exists_entry_of_named (named : call.Named) :
    ∃ entry, (logger.answer call).2 = .ok entry ∧
      (entry.isSome = true ↔ call.Reaches logger.threshold) := by
  obtain ⟨level, spelled⟩ := named
  by_cases reached : call.Reaches logger.threshold
  · exact ⟨_, congrArg Prod.snd (logger.answer_of_reaches reached), by simp [reached]⟩
  · have light := Nat.lt_of_not_le ((Call.reaches_iff spelled).not.mp reached)
    exact ⟨none, congrArg Prod.snd (logger.answer_of_light spelled light), by simp [reached]⟩

end Answer

/-! ## Rows of calls -/

theorem answerAll_cons (call : Call) (rest : List Call) :
    logger.answerAll (call :: rest) =
      (((logger.answer call).1.answerAll rest).1,
        (logger.answer call).2 :: ((logger.answer call).1.answerAll rest).2) := rfl

theorem after_cons (call : Call) (rest : List Call) :
    logger.after (call :: rest) = (logger.answer call).1.after rest := rfl

theorem transcript_cons (call : Call) (rest : List Call) :
    logger.transcript (call :: rest) =
      ((logger.answer call).2.printed?.map fun entry => (call, entry)).toList ++
        (logger.answer call).1.transcript rest := by
  cases brought : (logger.answer call).2.printed? <;>
    simp [transcript, answerAll_cons, brought]

theorem answered_cons_of_reaches {call : Call} (reached : call.Reaches logger.threshold)
    (rest : List Call) : logger.answered (call :: rest) = call :: logger.answered rest :=
  List.filter_cons_of_pos (decide_eq_true reached)

theorem answered_cons_of_not_reaches {call : Call} (quiet : ¬call.Reaches logger.threshold)
    (rest : List Call) : logger.answered (call :: rest) = logger.answered rest :=
  List.filter_cons_of_neg (by simpa using quiet)

theorem after_eq (calls : List Call) :
    logger.after calls = logger.past (logger.answered calls).length := by
  induction calls generalizing logger with
  | nil => exact logger.past_zero.symm
  | cons call rest inductionHypothesis =>
      by_cases reached : call.Reaches logger.threshold
      · rw [after_cons, logger.answer_of_reaches reached, inductionHypothesis,
          answered_cons_of_reaches logger reached, past_past, List.length_cons, Nat.add_comm]
        rfl
      · obtain ⟨answer, unchanged, -⟩ := logger.exists_answer_of_not_reaches reached
        rw [after_cons, unchanged, inductionHypothesis,
          answered_cons_of_not_reaches logger reached]

theorem transcript_eq (calls : List Call) :
    logger.transcript calls =
      (logger.answered calls).mapIdx fun place call => (call, logger.entryAt place call) := by
  induction calls generalizing logger with
  | nil => rfl
  | cons call rest inductionHypothesis =>
      by_cases reached : call.Reaches logger.threshold
      · -- The entry of this call puts those of the rest one place further.
        rw [transcript_cons, logger.answer_of_reaches reached,
          inductionHypothesis (logger.past 1), answered_cons_of_reaches logger reached,
          List.mapIdx_cons]
        simp only [entryAt_past, Nat.add_comm]
        rfl
      · obtain ⟨answer, unchanged, silent⟩ := logger.exists_answer_of_not_reaches reached
        rw [transcript_cons, unchanged, silent, inductionHypothesis,
          answered_cons_of_not_reaches logger reached]
        rfl

theorem map_fst_transcript (calls : List Call) :
    (logger.transcript calls).map Prod.fst = logger.answered calls := by
  apply List.ext_getElem?
  intro place
  simp [transcript_eq, Function.comp_def]

theorem length_transcript (calls : List Call) :
    (logger.transcript calls).length = (logger.answered calls).length := by
  rw [transcript_eq, List.length_mapIdx]

/-- Without the calls that fail, the logger ends as it does with them and gives the same answers
to all others. -/
theorem answerAll_named (calls : List Call) :
    logger.answerAll (calls.filter fun call => call.Named) =
      (logger.after calls, (logger.answerAll calls).2.filter Except.isOk) := by
  induction calls generalizing logger with
  | nil => rfl
  | cons call rest inductionHypothesis =>
      by_cases named : call.Named
      · obtain ⟨entry, answered, -⟩ := logger.exists_entry_of_named named
        have fine : (logger.answer call).2.isOk = true := by
          rw [answered]
          rfl
        rw [List.filter_cons, if_pos (decide_eq_true named), answerAll_cons, inductionHypothesis,
          answerAll_cons, List.filter_cons_of_pos fine]
        rfl
      · rw [List.filter_cons, if_neg (by simpa using named), inductionHypothesis, after_cons,
          answerAll_cons, logger.answer_of_not_named named]
        rfl

/-! ## Stamps and thresholds -/

theorem transcript_eq_map (unstamped : logger.stamped = false) (calls : List Call) :
    logger.transcript calls =
      (logger.answered calls).map fun call => (call, logger.entryAt 0 call) := by
  have anywhere (place : Nat) (call : Call) :
      logger.entryAt place call = logger.entryAt 0 call := by
    simp [entryAt, lineAt, stampAt, unstamped]
  apply List.ext_getElem?
  intro place
  simp [transcript_eq, anywhere]

/-- A lower threshold adds lighter calls and no more. -/
theorem answered_eq_filter {lower : Level} (below : lower.rank ≤ logger.threshold.rank)
    (calls : List Call) :
    logger.answered calls = ({ logger with threshold := lower }.answered calls).filter
      fun call => call.Reaches logger.threshold := by
  rw [answered, answered, List.filter_filter]
  apply List.filter_congr
  intro call _
  have also : call.Reaches logger.threshold → call.Reaches lower := by
    rintro ⟨level, spelled, heavy⟩
    exact ⟨level, spelled, Nat.le_trans below heavy⟩
  by_cases reached : call.Reaches logger.threshold
  · simp [reached, also reached]
  · simp [reached]

theorem transcript_eq_filter (unstamped : logger.stamped = false) {lower : Level}
    (below : lower.rank ≤ logger.threshold.rank) (calls : List Call) :
    logger.transcript calls = ({ logger with threshold := lower }.transcript calls).filter
      fun shown => shown.1.Reaches logger.threshold := by
  rw [transcript_eq_map logger unstamped,
    transcript_eq_map { logger with threshold := lower } unstamped, List.filter_map,
    answered_eq_filter logger below]
  rfl

/-- The text is the stamp of a time: the seconds with two places, at the end of a field of eight
letters or more. -/
def IsStamp (elapsed : Float) (text : String) : Prop :=
  ∃ seconds, Text.Fixed.ShowsPlaces elapsed.toModel.unpack seconds ∧
    text = "[" ++ String.ofList (List.replicate (8 - seconds.length) ' ') ++ seconds ++ "s]"

theorem isStamp_stamp (elapsed : Float) : IsStamp elapsed (stamp elapsed) :=
  ⟨Text.Fixed.twoPlaces elapsed, Text.Fixed.showsPlaces_twoPlaces elapsed, by
    simp only [stamp, Text.alignRight, String.append_assoc]⟩

theorem IsStamp.eq_stamp {elapsed : Float} {text : String} (stamped : IsStamp elapsed text) :
    text = stamp elapsed := by
  obtain ⟨seconds, shows, rfl⟩ := stamped
  rw [shows.eq_twoPlaces]
  simp only [stamp, Text.alignRight, String.append_assoc]

theorem isStamp_stampAt (place : Nat) :
    if logger.stamped = true then
      IsStamp (logger.clock.reading (logger.clock.taken + place) - logger.start)
        (logger.stampAt place)
    else logger.stampAt place = "" := by
  split_ifs with stamps
  · rw [stampAt, if_pos stamps]
    exact isStamp_stamp _
  · rw [stampAt, if_neg stamps]

theorem exists_of_getElem?_transcript {calls : List Call} {place : Nat} {call : Call}
    {entry : String} (shown : (logger.transcript calls)[place]? = some (call, entry)) :
    ∃ (level : Level) (stamp : String), Text.upperCase call.level = level.name ∧
      (if logger.stamped = true then
        IsStamp (logger.clock.reading (logger.clock.taken + place) - logger.start) stamp
      else stamp = "") ∧
      entry = stamp ++ level.shown logger.colored ++ "[" ++ logger.name ++ "] " ++ call.text := by
  rw [transcript_eq, List.getElem?_mapIdx, Option.map_eq_some_iff] at shown
  obtain ⟨found, present, pair⟩ := shown
  obtain ⟨rfl, rfl⟩ := Prod.mk.inj pair
  obtain ⟨-, reached⟩ := List.mem_filter.mp (List.mem_of_getElem? present)
  obtain ⟨level, spelled, -⟩ := of_decide_eq_true reached
  have line : logger.entryAt place found = logger.lineAt place (level, found.text) := by
    simp [entryAt, Level.ofName?_eq_some_iff.mpr spelled]
  refine ⟨level, logger.stampAt place, spelled, logger.isStamp_stampAt place, ?_⟩
  rw [line, lineAt, Level.tag_eq_shown]

theorem taken_after (stamps : logger.stamped = true) (calls : List Call) :
    (logger.after calls).clock.taken =
      logger.clock.taken + (logger.transcript calls).length := by
  rw [after_eq, length_transcript, past, if_pos stamps]

/-! ## Created loggers -/

/-- A call at an unknown level fails and leaves the logger as it is, so that all other calls are
answered as without it. Any other call is answered with an entry exactly if its level is at the
threshold or above it. Without stamps the transcript is that of a logger for every level, less
the calls below the threshold. With stamps the clock is read once when the logger is created and
once for each entry. An entry says its stamp, its level, the name of the logger and its text; the
stamp is that of the time from the first reading to the one at its place among the entries. -/
theorem answers_by_level (clock : Clock) (request : Request) (terminal : Bool) (name : String)
    (threshold : Level) (named : Text.upperCase name = threshold.name) :
    ∃ logger full : Logger,
      create? clock { request with threshold := .text name } terminal = .ok logger ∧
      create? clock { request with threshold := .text "DEBUG" } terminal = .ok full ∧
      (∀ before call, ¬call.Named →
        (logger.after before).answer call = (logger.after before, .error .unknownLevel)) ∧
      (∀ calls, logger.answerAll (calls.filter fun call => call.Named) =
        (logger.after calls, (logger.answerAll calls).2.filter Except.isOk)) ∧
      (∀ before call, call.Named → ∃ entry, ((logger.after before).answer call).2 = .ok entry ∧
        (entry.isSome = true ↔ call.Reaches threshold)) ∧
      (∀ calls, (logger.transcript calls).map Prod.fst =
        calls.filter fun call => call.Reaches threshold) ∧
      (request.stamped = false → ∀ calls, logger.transcript calls =
        (full.transcript calls).filter fun shown => shown.1.Reaches threshold) ∧
      logger.clock.taken = clock.taken + 1 ∧
      (request.stamped = true → ∀ calls, (logger.after calls).clock.taken =
        clock.taken + 1 + (logger.transcript calls).length) ∧
      (∀ calls place call entry, (logger.transcript calls)[place]? = some (call, entry) →
        ∃ (level : Level) (stamp : String), Text.upperCase call.level = level.name ∧
          (if request.stamped = true then
            IsStamp (clock.reading (clock.taken + (place + 1)) - clock.reading clock.taken) stamp
          else stamp = "") ∧
          entry = stamp ++ level.shown (request.colored && terminal) ++ "[" ++ request.name ++
            "] " ++ call.text) := by
  have created := create?_of_named clock { request with threshold := .text name } terminal
    (Level.ofName?_eq_some_iff.mpr named)
  have lightest : Level.ofName? "DEBUG" = some .debug :=
    Level.ofName?_eq_some_iff.mpr (by decide)
  have createdFull := create?_of_named clock { request with threshold := .text "DEBUG" }
    terminal lightest
  refine ⟨_, _, created, createdFull, ?unknown, answerAll_named _, ?known, map_fst_transcript _,
    ?unstamped, rfl, ?stamped, ?entries⟩
  case unknown =>
    intro before call unnamed
    exact answer_of_not_named _ unnamed
  case known =>
    intro before call known
    rw [after_eq]
    exact exists_entry_of_named _ known
  case unstamped =>
    intro unstamped calls
    exact transcript_eq_filter _ unstamped (Nat.zero_le _) calls
  case stamped =>
    intro stamped calls
    exact taken_after _ stamped calls
  case entries =>
    intro calls place call entry shown
    obtain ⟨level, stamp, spelled, isStamp, rfl⟩ := exists_of_getElem?_transcript _ shown
    have ahead : clock.taken + (place + 1) = clock.taken + 1 + place := by omega
    rw [ahead]
    exact ⟨level, stamp, spelled, isStamp, rfl⟩

/-- Calls to a logger for warnings: the second fails, and the third is too light. -/
def mixedCalls : List Call :=
  [⟨"error", "first"⟩, ⟨"verbose", "second"⟩, ⟨"Info", "third"⟩, ⟨"WARNING", "fourth"⟩]

/-- The third reading is halfway between two hundredths after the first. -/
def laterClock : Clock where
  reading := fun place => [100.25, 100.75, 103.375].getD place 104

/-- The fourth call is answered with the second entry, stamped from the second reading after the
one at the start. -/
theorem mixedCalls_answered :
    Text.upperCase "Warning" = Level.warning.name ∧
      (∃ logger,
        create? laterClock { name := "M", threshold := .text "Warning" } true = .ok logger ∧
          (logger.after (mixedCalls.take 1)).answer ⟨"verbose", "second"⟩ =
            (logger.after (mixedCalls.take 1), .error .unknownLevel) ∧
          ((logger.after (mixedCalls.take 2)).answer ⟨"Info", "third"⟩).2 = .ok none ∧
          (logger.after mixedCalls).clock.taken = 3 ∧
          (logger.transcript mixedCalls)[1]? = some (⟨"WARNING", "fourth"⟩,
            "[    3.12s]\x1b[33m[ WARNING]\x1b[0m[M] fourth")) ∧
      ∃ logger full,
        create? laterClock { threshold := .text "Warning", stamped := false } true = .ok logger ∧
          create? laterClock { threshold := .text "DEBUG", stamped := false } true = .ok full ∧
          logger.transcript mixedCalls = (full.transcript mixedCalls).filter fun shown =>
            shown.1.Reaches .warning := by
  have named : Text.upperCase "Warning" = Level.warning.name := by decide
  refine ⟨named, ?_, ?_⟩
  · obtain ⟨logger, -, created, -, unknown, -, known, reached, -, -, stamped, entries⟩ :=
      answers_by_level laterClock { name := "M" } true "Warning" .warning named
    obtain ⟨entry, answered, heavy⟩ :=
      known (mixedCalls.take 2) ⟨"Info", "third"⟩ ⟨.info, by decide⟩
    have light : entry = none :=
      Option.not_isSome_iff_eq_none.mp (heavy.not.mpr (by decide))
    have taken := stamped rfl mixedCalls
    have shown : (logger.transcript mixedCalls).map Prod.fst =
        [⟨"error", "first"⟩, ⟨"WARNING", "fourth"⟩] :=
      (reached mixedCalls).trans (by decide)
    have two : (logger.transcript mixedCalls).length = 2 := by
      simpa using congrArg List.length shown
    have second : (logger.transcript mixedCalls)[1]?.map Prod.fst =
        some ⟨"WARNING", "fourth"⟩ := by
      rw [← List.getElem?_map, shown]
      rfl
    obtain ⟨⟨call, text⟩, found, rfl⟩ := Option.map_eq_some_iff.mp second
    obtain ⟨level, stamp, spelled, isStamp, rfl⟩ := entries mixedCalls 1 _ text found
    have warning : Level.ofName? "WARNING" = some .warning := by decide
    rw [← Level.ofName?_eq_some_iff, warning, Option.some.injEq] at spelled
    rw [if_pos rfl] at isStamp
    have time : stamp = "[    3.12s]" := isStamp.eq_stamp.trans (by decide +kernel)
    rw [← spelled, time] at found
    rw [two] at taken
    exact ⟨logger, created, unknown _ _ (by decide), light ▸ answered, taken, found⟩
  · obtain ⟨logger, full, created, createdFull, -, -, -, -, restricted, -⟩ :=
      answers_by_level laterClock { stamped := false } true "Warning" .warning named
    exact ⟨logger, full, created, createdFull, restricted rfl mixedCalls⟩

end Logger

end Chip8.Log
