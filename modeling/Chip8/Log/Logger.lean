import Chip8.Log.Clock
import Chip8.Log.Level
import Chip8.Text.Fixed
import Chip8.Text.Padding

/-!
# The logger

A logger writes a line for each message at or above its threshold. The clock is
read once when the logger is made and once for each line with a time stamp; a
message below the threshold costs no reading.
-/

namespace Chip8.Log

structure Request where
  name : String := "chipjax"
  /-- The name of the lightest level that is written. -/
  threshold : Setting := .text "INFO"
  colored : Bool := true
  stamped : Bool := true

structure Logger where
  name : String
  /-- The lightest level that is written. -/
  threshold : Level
  colored : Bool
  /-- Whether lines begin with the time since the logger was made. -/
  stamped : Bool
  /-- The clock's first reading. -/
  start : Float
  clock : Clock

namespace Logger

/-- A new logger. Colours are only for terminals. -/
def create? (clock : Clock) (request : Request) (terminal : Bool) :
    Except Error Logger := do
  let name ← Level.nameOfSetting? request.threshold
  match Level.ofName? name with
  | none => .error (.unknownThreshold name)
  | some threshold =>
      let (start, clock) := clock.read
      .ok {
        name := request.name
        threshold
        colored := request.colored && terminal
        stamped := request.stamped
        start
        clock }

/-- The time since the logger was made, in seconds with two places. -/
def stamp (elapsed : Float) : String :=
  "[" ++ Text.alignRight 8 (Text.Fixed.twoPlaces elapsed) ++ "s]"

def tag (colored : Bool) (level : Level) : String :=
  let plain := "[" ++ Text.alignRight 8 level.name ++ "]"
  if colored then "\x1b[" ++ toString level.color ++ "m" ++ plain ++ "\x1b[0m" else plain

/-- Take a reading for the stamp of a line, if lines are stamped. -/
def takeStamp (logger : Logger) : Logger × String :=
  if logger.stamped then
    let (now, clock) := logger.clock.read
    ({ logger with clock }, stamp (now - logger.start))
  else (logger, "")

/-- Log a message: the line that is written, if any. -/
def log (logger : Logger) (level : Level) (message : String) : Logger × Option String :=
  if level.rank < logger.threshold.rank then (logger, none)
  else
    let (logger, stamp) := logger.takeStamp
    (logger, some (stamp ++ tag logger.colored level ++ "[" ++ logger.name ++ "] " ++ message))

def logNamed? (logger : Logger) (level : String) (message : String) :
    Except Error (Logger × Option String) :=
  match Level.ofName? level with
  | none => .error .unknownLevel
  | some level => .ok (logger.log level message)

def logAll (logger : Logger) : List (Level × String) → Logger × List String
  | [] => (logger, [])
  | (level, message) :: rest =>
      let (logger, line) := logger.log level message
      let (logger, lines) := logger.logAll rest
      (logger, line.toList ++ lines)

end Logger

end Chip8.Log
