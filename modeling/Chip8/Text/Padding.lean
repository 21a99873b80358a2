/-!
# Alignment
-/

namespace Chip8.Text

def alignRight (width : Nat) (text : String) : String :=
  String.ofList (List.replicate (width - text.length) ' ') ++ text

end Chip8.Text
