import Chip8.Headless.Config

/-!
# Arguments

An argument `name=value` changes an entry of the configuration, and `+name=value`
adds one.
-/

namespace Chip8.Headless

/-- The setting that a word of an argument stands for. -/
def settingOfText (text : String) : Setting :=
  match text with
  | "null" => .none
  | "true" => .flag true
  | "false" => .flag false
  | text =>
      match text.toInt? with
      | some value => .number value
      | none => .text text

/-- What stands before and after the first equals sign. -/
def nameAndValue? (argument : String) : Option (List Char × String) :=
  let chars := argument.toList
  let name := chars.takeWhile (· != '=')
  match chars.drop name.length with
  | [] => none
  | _ :: value => some (name, String.ofList value)

namespace Config

def change? (config : Config) (argument : String) : Option Config :=
  match nameAndValue? argument with
  | none => none
  | some ('+' :: name, value) => some (config.set (String.ofList name) (settingOfText value))
  | some (name, value) =>
      let name := String.ofList name
      if config.entries.any (·.1 == name) then some (config.set name (settingOfText value))
      else none

/-- The configuration that arguments ask for, or the first one that asks for
nothing. -/
def ofArguments (arguments : List String) : Except String Config :=
  arguments.foldlM (fun config argument =>
    match config.change? argument with
    | some config => .ok config
    | none => .error argument) {}

end Config

end Chip8.Headless
