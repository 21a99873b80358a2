import Chip8.Headless.Argument
import Chip8.Headless.Run
import Chip8.Picture.Library

/-!
# The command line

Runs a program without a window. Arguments change the configuration, such as
`rom=pong.ch8 cycles=5000 dialect=cosmac`.
-/

namespace Chip8.CommandLine

open Headless Picture

/-- Seconds on a clock that only moves forward. -/
def now : IO Float := do
  return Float.ofNat (← IO.monoNanosNow) / 1000000000

/-- A clock that stands still at the present. -/
def presentClock : IO Log.Clock := do
  let reading ← now
  return { reading := fun _ => reading }

def isDirectory (path : String) : IO Bool := do
  ((← IO.currentDir) / path).isDir

/-- Why a file could not be opened. -/
def faultOf (path : String) (error : IO.Error) : IO FileFault := do
  if ← isDirectory path then return .isDirectory
  match error with
  | .inappropriateType .. => return .notDirectory
  | .invalidArgument .. => return .nameTooLong
  | _ => return .missing

def readFile? (path : String) : IO (Except FileFault (List Byte)) := do
  try
    let bytes ← IO.FS.readBinFile path
    return .ok (bytes.toList.map (·.toBitVec))
  catch error => return .error (← faultOf path error)

/-- Whether there is a place for a file. -/
def placeFor? (path : String) : IO (Except FileFault Unit) := do
  let parent := Path.parent path
  if ← isDirectory path then return .error .isDirectory
  if ← isDirectory parent then return .ok ()
  if ← ((← IO.currentDir) / parent).pathExists then return .error .notDirectory
  return .error .missing

def writeFile (path : String) (bytes : List Byte) : IO Unit :=
  IO.FS.writeBinFile path ⟨(bytes.map UInt8.ofBitVec).toArray⟩

/-- Look at the two files that a configuration names. -/
def filesOf (directory : String) (config : Config) : IO Files := do
  let contents ← match Path.ofSetting? directory config.rom with
    | .ok path => readFile? path
    | .error _ => pure (.error .missing)
  let writable ← match Path.ofSetting? directory config.screenshot with
    | .ok path => placeFor? path
    | .error _ => pure (.error .missing)
  return { contents := fun _ => contents, writable := fun _ => writable }

/-- The directory, the files and whether the output is a terminal. Room for images is
not asked for in advance. -/
def look (config : Config) : IO Surroundings := do
  let directory := (← IO.currentDir).toString
  return {
    directory
    files := ← filesOf directory config
    host := { holds := fun _ _ => true }
    library := .standard
    terminal := ← (← IO.getStdout).isTty }

/-- Show what a run did, and whether it went well. -/
def report (outcome : Outcome) : IO UInt32 := do
  for event in outcome.events do
    if let .opened _ caption _ := event then IO.eprintln caption.plain
  for line in outcome.lines do
    IO.println line
  if let some (path, frame) := outcome.saved then
    writeFile path frame.bytes
  match outcome.error with
  | none => return 0
  | some error =>
      IO.eprintln (error.message?.getD "The run cannot be carried out")
      return 1

def runConfig (config : Config) : IO UInt32 := do
  let surroundings ← look config
  let (lines, started) := start? surroundings (← presentClock) config
  match started with
  | .error error => report { lines, error := some error }
  | .ok session =>
      let _ ← report { lines }
      let clock ← presentClock
      let logger := { session.logger with clock }
      report (finish surroundings config { session with logger })

end Chip8.CommandLine

def main (arguments : List String) : IO UInt32 := do
  match Chip8.Headless.Config.ofArguments arguments with
  | .ok config => Chip8.CommandLine.runConfig config
  | .error argument =>
      IO.eprintln ("Cannot use the argument " ++ argument)
      return 2
