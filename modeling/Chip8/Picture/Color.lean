import Chip8.Error
import Chip8.Setting
import Chip8.Word

/-!
# Colours and colour schemes

A colour has three components. Asked for in whole numbers, it is a colour only
if each component fits a byte.
-/

namespace Chip8.Picture

structure Rgb (Component : Type) where
  red : Component
  green : Component
  blue : Component
  deriving DecidableEq

abbrev Color := Rgb Byte

def component? (value : Int) : Except Error Byte :=
  if 0 ≤ value ∧ value < 256 then .ok (BitVec.ofInt 8 value) else .error .colorOutOfRange

def Rgb.color? (asked : Rgb Int) : Except Error Color := do
  return ⟨← component? asked.red, ← component? asked.green, ← component? asked.blue⟩

structure Scheme where
  on : Rgb Int
  off : Rgb Int
  deriving DecidableEq

namespace Scheme

def named : List (String × Scheme) := [
  ("chipjax", ⟨⟨179, 102, 184⟩, ⟨45, 25, 61⟩⟩),
  ("classic", ⟨⟨0, 255, 0⟩, ⟨0, 0, 0⟩⟩),
  ("amber", ⟨⟨255, 176, 0⟩, ⟨0, 0, 0⟩⟩),
  ("white", ⟨⟨255, 255, 255⟩, ⟨0, 0, 0⟩⟩),
  ("blue", ⟨⟨0, 255, 255⟩, ⟨0, 0, 64⟩⟩),
  ("retro", ⟨⟨255, 255, 0⟩, ⟨64, 0, 64⟩⟩)]

/-- The scheme of a name; only a text can be one, and a list or a table is not even
looked up. -/
def ofSetting? (setting : Setting) : Except Error Scheme :=
  match setting with
  | .text name =>
      match named.lookup name with
      | some scheme => .ok scheme
      | none => .error (.unknownScheme name)
  | .list _ | .table _ => .error .schemeNotName
  | other => .error (.unknownScheme other.plain)

/-- The scheme in use when none is asked for. -/
def defaultName : Setting := .text "chipjax"

/-- The scheme of saved frames when none is asked for. -/
def defaultFrameName : Setting := .text "classic"

def green : Scheme := ⟨⟨0, 255, 0⟩, ⟨0, 0, 0⟩⟩

end Scheme

end Chip8.Picture
