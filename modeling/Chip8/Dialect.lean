import Chip8.Error
import Chip8.Setting

/-!
# Dialects and wrap modes

The two historical choices that a machine is built with. The dialect decides
how the shifts and the register transfers behave, the wrap mode what happens to
sprite pixels past the screen's edges.
-/

namespace Chip8

inductive Dialect where
  /-- Shifts read the second register; transfers move the index along. -/
  | cosmac
  /-- Shifts work in place; transfers leave the index alone. -/
  | schip
  deriving DecidableEq

inductive WrapMode where
  /-- Pixels past an edge come back at the opposite edge. -/
  | wrap
  /-- Pixels past an edge are dropped. -/
  | clip
  deriving DecidableEq

def Dialect.name : Dialect → String
  | .cosmac => "cosmac"
  | .schip => "schip"

def Dialect.ofSetting? : Setting → Except Error Dialect
  | .text "cosmac" => .ok .cosmac
  | .text "schip" => .ok .schip
  | setting => .error (.unknownDialect setting.quoted)

def WrapMode.name : WrapMode → String
  | .wrap => "wrap"
  | .clip => "clip"

def WrapMode.ofSetting? : Setting → Except Error WrapMode
  | .text "wrap" => .ok .wrap
  | .text "clip" => .ok .clip
  | setting => .error (.unknownWrapMode setting.quoted)

end Chip8
