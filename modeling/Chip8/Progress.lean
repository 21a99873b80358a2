import Chip8.Execution
import Chip8.Setting
import Chip8.Text.Grouped

/-!
# Progress reports

A meter watches a loop over the numbers from 0 up to a total and tells a
progress bar what to do: open before the first iteration, advance after every
`interval` iterations and once more by what is left over, close after the last.
A loop that is watched returns what the plain loop returns.
-/

namespace Chip8

/-- A loop that collects an output per iteration. -/
def scan {State Input Output : Type} (body : State → Input → State × Output) :
    State → List Input → State × List Output
  | state, [] => (state, [])
  | state, input :: inputs =>
      let (next, output) := body state input
      let (final, outputs) := scan body next inputs
      (final, output :: outputs)

namespace Progress

inductive Event where
  | opened (total : Int) (caption : Setting) (options : List (String × Setting))
  | advanced (count : Int)
  | closed

structure Meter where
  total : Int
  caption : Setting
  /-- Iterations between two advances, at least one. -/
  interval : Int
  /-- Options that are handed to the bar as they are. -/
  options : List (String × Setting) := []

/-- Iterations between advances when none are asked for: a twentieth of the
total, at most fifty. -/
def defaultInterval (total : Int) : Int := min (total.fdiv 20) 50

/-- The interval in use, at least one and otherwise at most the total. -/
def clampInterval (total : Int) (requested : Option Int) : Int :=
  max 1 (min (requested.getD (defaultInterval total)) total)

/-- The caption of a loop over so many things. -/
def countCaption (total : Int) (things : String) : String :=
  "Running (" ++ Text.Grouped.integer total ++ " " ++ things ++ ")"

namespace Meter

/-- A meter for a loop. A caption that does not hold counts as none. -/
def ofRequest (total : Int) (interval : Option Int) (caption : Setting)
    (options : List (String × Setting)) : Meter :=
  { total
    caption := if caption.holds then caption else .text (countCaption total "steps")
    interval := clampInterval total interval
    options }

/-- What a request names itself, so that no option of the bar may. -/
def requestNames : List String := ["n", "print_rate", "desc"]

/-- What the opening of a bar names itself, so that no option of the bar may. -/
def openingNames : List String := ["total", "unit"]

def hasOption (meter : Meter) (names : List String) : Bool :=
  meter.options.any fun option => names.contains option.1

/-- A meter for a loop whose bar has options of its own only. -/
def ofRequest? (total : Int) (interval : Option Int) (caption : Setting)
    (options : List (String × Setting)) : Except Error Meter :=
  let meter := ofRequest total interval caption options
  if meter.hasOption requestNames then .error .optionTaken else .ok meter

/-- Iterations left over after the last whole interval. -/
def remainder (meter : Meter) : Int := meter.total.fmod meter.interval

/-- What the bar is told before an iteration. -/
def eventsBefore (meter : Meter) (iteration : Nat) : List Event :=
  (if iteration = 0 then [.opened meter.total meter.caption meter.options] else []) ++
  (if (iteration + 1 : Int).fmod meter.interval = 0 then [.advanced meter.interval] else []) ++
  (if meter.remainder ≠ 0 ∧ (iteration : Int) = meter.total - 1 then
    [.advanced meter.remainder] else [])

def eventsAfter (meter : Meter) (iteration : Nat) : List Event :=
  if (iteration : Int) = meter.total - 1 then [.closed] else []

/-- A body that also reports to the bar. -/
def watch {State Output : Type} (meter : Meter) (body : State → Nat → State × Output)
    (state : State) (iteration : Nat) : State × Output × List Event :=
  let (next, output) := body state iteration
  (next, output, meter.eventsBefore iteration ++ meter.eventsAfter iteration)

structure Report (State Output : Type) where
  final : State
  outputs : List Output
  events : List Event

/-- Run a body over the numbers from 0 up to the total under a meter. -/
def scan {State Output : Type} (meter : Meter) (body : State → Nat → State × Output)
    (start : State) : Report State Output :=
  let (final, outputs) := Chip8.scan (meter.watch body) start (List.range meter.total.toNat)
  { final, outputs := outputs.map (·.1), events := outputs.flatMap (·.2) }

/-- Run a body under a meter, unless its bar cannot be opened. A loop without
iterations opens none. -/
def scan? {State Output : Type} (meter : Meter) (body : State → Nat → State × Output)
    (start : State) : Except Error (Report State Output) :=
  if 0 < meter.total ∧ meter.hasOption openingNames then .error .optionRefused
  else .ok (meter.scan body start)

end Meter

def cyclesMeter (cycles : Nat) : Meter :=
  .ofRequest cycles none (.text (countCaption cycles "cycles")) []

end Progress

def Machine.runReporting (machine : Machine) (cycles : Nat) :
    Machine × List Progress.Event :=
  let report := (Progress.cyclesMeter cycles).scan (fun state _ => (state.step, ())) machine
  (report.final, report.events)

end Chip8
