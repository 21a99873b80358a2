import Chip8.Error
import Chip8.Setting

/-!
# Configurations

What a headless run is asked to do. A configuration reads as a list of named
entries in a fixed order, and is changed entry by entry. Any entry can hold any
setting; what it means is looked at when it is used.
-/

namespace Chip8.Headless

structure Config where
  rom : Setting := .text "???"
  cycles : Setting := .number 1000
  dialect : Setting := .text "schip"
  wrapMode : Setting := .text "wrap"
  seed : Setting := .number 0
  progress : Setting := .flag true
  /-- The file that the last frame is saved to, if any. -/
  screenshot : Setting := .none
  scale : Setting := .number 8
  colorScheme : Setting := .text "classic"
  logLevel : Setting := .text "INFO"
  /-- Entries that the run shows but does not use. -/
  extra : List (String × Setting) := []

namespace Config

def entries (config : Config) : List (String × Setting) := [
  ("rom", config.rom),
  ("cycles", config.cycles),
  ("dialect", config.dialect),
  ("wrap_mode", config.wrapMode),
  ("seed", config.seed),
  ("progress", config.progress),
  ("screenshot", config.screenshot),
  ("scale", config.scale),
  ("color_scheme", config.colorScheme),
  ("log_level", config.logLevel)] ++ config.extra

/-- Give a named value to a list of entries. A new entry goes to the end. -/
def put (entries : List (String × Setting)) (name : String) (value : Setting) :
    List (String × Setting) :=
  if entries.any (·.1 == name) then
    entries.map fun entry => if entry.1 == name then (name, value) else entry
  else entries ++ [(name, value)]

def set (config : Config) (name : String) (value : Setting) : Config :=
  match name with
  | "rom" => { config with rom := value }
  | "cycles" => { config with cycles := value }
  | "dialect" => { config with dialect := value }
  | "wrap_mode" => { config with wrapMode := value }
  | "seed" => { config with seed := value }
  | "progress" => { config with progress := value }
  | "screenshot" => { config with screenshot := value }
  | "scale" => { config with scale := value }
  | "color_scheme" => { config with colorScheme := value }
  | "log_level" => { config with logLevel := value }
  | name => { config with extra := put config.extra name value }

def setAll (config : Config) (entries : List (String × Setting)) : Config :=
  entries.foldl (fun config entry => config.set entry.1 entry.2) config

/-- The number of cycles to run. A run that shows its progress counts them in its
caption and needs a number; a plain run also reads one from a text. -/
def cycles? (config : Config) : Except Error Nat :=
  match config.cycles with
  | .number cycles => .ok cycles.toNat
  | .flag value => .ok value.toNat
  | .none => .error (if config.progress.holds then .cyclesNotNumber else .cyclesMissing)
  | .text text =>
      if config.progress.holds then .error .cyclesNotGrouped
      else
        match text.toInt? with
        | some cycles => .ok cycles.toNat
        | none => .error .cyclesMissing
  | .list _ | .table _ => .error .cyclesMissing

end Config

end Chip8.Headless
