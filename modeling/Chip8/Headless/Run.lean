import Chip8.Headless.Config
import Chip8.Headless.Path
import Chip8.Picture.Frame
import Chip8.Session

/-!
# Headless runs

A headless run shows its configuration, loads a program, runs it for a number of
cycles, says where the machine ended and saves the last frame if asked to. It
has two stages, because the time passes between them: `start?` ends with the
program loaded, `finish` does the rest. A run that fails in the first stage
neither says where it ended nor saves a frame.
-/

namespace Chip8.Headless

structure Surroundings where
  /-- Where relative paths start. -/
  directory : String
  files : Files
  host : Picture.Host
  library : Picture.Library
  /-- Whether lines go to a terminal. -/
  terminal : Bool := false

structure Outcome where
  lines : List String := []
  events : List Progress.Event := []
  saved : Option (String × Picture.Frame) := none
  error : Option Error := none

/-- The lines that show a configuration. -/
def Config.announcement (config : Config) : List (Log.Level × String) :=
  (.info, "Configuration:") ::
    config.entries.map fun (name, value) => (.info, "  " ++ name ++ ": " ++ value.plain)

/-- A new machine. The two choices are looked at before the seed. -/
def Config.machine? (config : Config) : Except Error Machine := do
  let dialect ← Dialect.ofSetting? config.dialect
  let wrapMode ← WrapMode.ofSetting? config.wrapMode
  let key ← Random.Key.ofSetting? config.seed
  return { key, dialect, wrapMode }

/-- Where a machine stands: the counters for everyone, the registers for those
who look closer. -/
def summary (machine : Machine) : List (Log.Level × String) :=
  let register (name : Nat) : String :=
    "V" ++ Text.Hexadecimal.padded 1 name ++ "=" ++
      Text.Hexadecimal.padded 2 (machine.registers.get (BitVec.ofNat 4 name)).toNat
  [(.info,
      "PC=0x" ++ Text.Hexadecimal.padded 3 machine.pc.toNat ++
      " I=0x" ++ Text.Hexadecimal.padded 3 machine.index.toNat ++
      " delay=" ++ toString machine.delayTimer.toNat ++
      " sound=" ++ toString machine.soundTimer.toNat),
    (.debug, "Registers: " ++
      " ".intercalate ((List.range Registers.count).map register))]

/-- Show the configuration and load the program. The lines that were written
come with the session, or with the error that ended the run. -/
def start? (surroundings : Surroundings) (clock : Log.Clock) (config : Config) :
    List String × Except Error Session :=
  match Log.Logger.create? clock { threshold := config.logLevel } surroundings.terminal with
  | .error error => ([], .error error)
  | .ok logger =>
      let (logger, shown) := logger.logAll config.announcement
      let prepared : Except Error (Machine × String) := do
        let machine ← config.machine?
        return (machine, ← Path.ofSetting? surroundings.directory config.rom)
      match prepared with
      | .error error => (shown, .error error)
      | .ok (machine, path) =>
          let program := surroundings.files.read? path
          let (session, reply) := Session.loadFile { machine, logger } program
          (shown ++ reply.lines, reply.result.map fun _ => session)

/-- Run the program for the number of cycles, if there is one. -/
def Config.execute (config : Config) (session : Session) : Session × Reply :=
  match config.cycles? with
  | .ok cycles => session.run cycles config.progress.holds
  | .error error => session.refuse error

/-- What is said when a run has failed, before it is said where the machine stands. -/
def farewell : Error → List (Log.Level × String)
  | .illegalOpcode .. => [(.critical, "Execution halted")]
  | _ => []

def Config.save? (config : Config) (surroundings : Surroundings) (screen : Screen) :
    Except Error (String × Picture.Frame) := do
  let path ← Path.ofSetting? surroundings.directory config.screenshot
  let frame ← Picture.Frame.save? surroundings.host surroundings.library surroundings.files
    screen path config.scale config.colorScheme
  return (path, frame)

def finish (surroundings : Surroundings) (config : Config) (session : Session) : Outcome :=
  let (session, reply) := config.execute session
  let machine := session.machine
  match reply.result with
  | .error error =>
      let (_, said) := session.logger.logAll (farewell error ++ summary machine)
      { lines := reply.lines ++ said, events := reply.events, error := some error }
  | .ok _ =>
      let (logger, said) := session.logger.logAll (summary machine)
      let outcome := { lines := reply.lines ++ said, events := reply.events }
      if config.screenshot.holds then
        match config.save? surroundings machine.screen with
        | .error error => { outcome with error := some error }
        | .ok (path, frame) =>
            let (_, line) := logger.log .info ("Frame saved: " ++ path)
            { outcome with
              lines := outcome.lines ++ line.toList
              saved := some (path, frame) }
      else outcome

def run (surroundings : Surroundings) (clock : Log.Clock) (config : Config) : Outcome :=
  match start? surroundings clock config with
  | (lines, .error error) => { lines, error := some error }
  | (lines, .ok session) =>
      let outcome := finish surroundings config session
      { outcome with lines := lines ++ outcome.lines }

end Chip8.Headless
