import Chip8.Text.Quoted

/-!
# Settings

The values that a configuration holds, with two written forms. `plain` is for
people: a text stands as it is. `quoted` is for messages and for values inside
others: a text stands in quotes.
-/

namespace Chip8

inductive Setting where
  | none
  | flag (value : Bool)
  | number (value : Int)
  | text (value : String)
  | list (items : List Setting)
  | table (entries : List (String × Setting))
  deriving Inhabited

namespace Setting

mutual

def quoted : Setting → String
  | .none => "None"
  | .flag true => "True"
  | .flag false => "False"
  | .number value => toString value
  | .text value => Text.Quoted.quote value
  | .list items => "[" ++ ", ".intercalate (quotedItems items) ++ "]"
  | .table entries => "\x7b" ++ ", ".intercalate (quotedEntries entries) ++ "\x7d"

def quotedItems : List Setting → List String
  | [] => []
  | item :: rest => item.quoted :: quotedItems rest

def quotedEntries : List (String × Setting) → List String
  | [] => []
  | (key, value) :: rest =>
      (Text.Quoted.quote key ++ ": " ++ value.quoted) :: quotedEntries rest

end

def plain : Setting → String
  | .text value => value
  | value => value.quoted

/-- Whether a setting counts as a yes: whatever is not nothing, false, zero or
empty. -/
def holds : Setting → Bool
  | .none => false
  | .flag value => value
  | .number value => value != 0
  | .text value => value != ""
  | .list items => !items.isEmpty
  | .table entries => !entries.isEmpty

end Setting

end Chip8
