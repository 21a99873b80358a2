import Chip8.Log.Logger
import Chip8.Progress

/-!
# Sessions

A session is a machine in the hands of a host, with a logger. The host gives
commands, and each command has a reply: a result or an error, the lines that
were logged and what the progress bar was told. The machine itself never fails;
the session turns its faults into errors and refuses commands that make no sense
before they touch the machine.
-/

namespace Chip8

structure Session where
  machine : Machine
  logger : Log.Logger

inductive Command where
  | reset
  | load (program : List Byte)
  /-- Load what reading a file gave. -/
  | loadFile (contents : Except FileFault (List Byte))
  | step
  | run (cycles : Nat) (progress : Bool)
  | press (key : Int)
  | release (key : Int)
  | setKeys (states : Nested Bool)

structure Reply where
  /-- An error, or the answer of the command if it has one. -/
  result : Except Error (Option Bool)
  lines : List String := []
  events : List Progress.Event := []

namespace Session

/-- The logger of a session that was given none: it keeps quiet unless something
goes wrong. -/
def defaultLogger : Log.Request := { name := "Machine", threshold := .text "WARNING" }

def create? (logger : Log.Logger) (seed dialect wrapMode : Setting) :
    Except Error Session := do
  let machine ← Machine.create? seed dialect wrapMode
  return { machine, logger }

/-- Refuse a command without a trace. -/
def refuse (session : Session) (error : Error) : Session × Reply :=
  (session, { result := .error error })

/-- Take over a machine and log a line. -/
def accept (session : Session) (machine : Machine) (level : Log.Level) (message : String) :
    Session × Reply :=
  let (logger, line) := session.logger.log level message
  ({ machine, logger }, { result := .ok none, lines := line.toList })

/-- Take over a machine without a word. -/
def update (session : Session) (machine : Machine) : Session × Reply :=
  ({ session with machine }, { result := .ok none })

/-- Take over a machine that has run. A fault is logged and becomes an error; the
machine is kept as it faulted. -/
def settle (session : Session) (machine : Machine) (answer : Option Bool)
    (events : List Progress.Event) : Session × Reply :=
  match machine.fault? with
  | none => ({ session with machine }, { result := .ok answer, events })
  | some error =>
      let (logger, line) := session.logger.log .error (error.message?.getD "")
      ({ machine, logger }, { result := .error error, lines := line.toList, events })

def reset (session : Session) : Session × Reply :=
  session.accept session.machine.reset .debug "Machine reset"

def loadedMessage (machine : Machine) (length : Nat) : String :=
  "Loaded " ++ toString length ++ " byte ROM (" ++ machine.dialect.name ++ ", " ++
    machine.wrapMode.name ++ ")"

def load (session : Session) (program : List Byte) : Session × Reply :=
  match session.machine.load? program with
  | .ok machine => session.accept machine .info (loadedMessage machine program.length)
  | .error _ => session.refuse (.programTooLong program.length)

def loadFile (session : Session) : Except FileFault (List Byte) → Session × Reply
  | .ok program => session.load program
  | .error fault => session.refuse (.fileNotRead fault)

/-- One cycle. The answer is whether to draw the screen anew. -/
def step (session : Session) : Session × Reply :=
  if session.machine.powered then
    let machine := session.machine.step
    session.settle machine (some machine.redraw) []
  else session.refuse .notPowered

def run (session : Session) (cycles : Nat) (progress : Bool) : Session × Reply :=
  if session.machine.powered then
    if progress then
      let (machine, events) := session.machine.runReporting cycles
      session.settle machine none events
    else session.settle (session.machine.run cycles) none []
  else session.refuse .notPowered

def setKey (session : Session) (key : Int) (down : Bool) : Session × Reply :=
  match Keypad.key? key with
  | .ok name => session.update (session.machine.setKey name down)
  | .error error => session.refuse error

def setKeys (session : Session) (states : Nested Bool) : Session × Reply :=
  match Keypad.ofNested? states with
  | .ok keypad => session.update { session.machine with keypad }
  | .error error => session.refuse error

def perform (session : Session) : Command → Session × Reply
  | .reset => session.reset
  | .load program => session.load program
  | .loadFile contents => session.loadFile contents
  | .step => session.step
  | .run cycles progress => session.run cycles progress
  | .press key => session.setKey key true
  | .release key => session.setKey key false
  | .setKeys states => session.setKeys states

def performAll (session : Session) : List Command → Session × List Reply
  | [] => (session, [])
  | command :: rest =>
      let (session, reply) := session.perform command
      let (session, replies) := session.performAll rest
      (session, reply :: replies)

end Session

end Chip8
