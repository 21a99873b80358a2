import Chip8.Error
import Chip8.Setting
import Chip8.Text.UpperCase

/-!
# Log levels

Five levels in order of weight. A level is named in any letter case.
-/

namespace Chip8.Log

inductive Level where
  | debug
  | info
  | warning
  | error
  | critical
  deriving DecidableEq

namespace Level

def rank : Level → Nat
  | .debug => 0
  | .info => 1
  | .warning => 2
  | .error => 3
  | .critical => 4

def name : Level → String
  | .debug => "DEBUG"
  | .info => "INFO"
  | .warning => "WARNING"
  | .error => "ERROR"
  | .critical => "CRITICAL"

def color : Level → Nat
  | .debug => 36
  | .info => 32
  | .warning => 33
  | .error => 31
  | .critical => 35

def all : List Level := [.debug, .info, .warning, .error, .critical]

/-- The level of a name in any letter case. -/
def ofName? (name : String) : Option Level :=
  all.find? fun level => level.name == Text.upperCase name

/-- The name that a setting gives to a level; only a text is a name. -/
def nameOfSetting? : Setting → Except Error String
  | .text name => .ok name
  | _ => .error .levelNotText

end Level

end Chip8.Log
