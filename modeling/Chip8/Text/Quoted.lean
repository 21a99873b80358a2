import Chip8.Text.Printable

/-!
# Quoted text

A text between quotes with all that is not printable escaped. The quotes are
single unless the text has a single quote and no double quote. Backslashes and
the quote in use are escaped by a backslash, and characters that are not
printable by their code in the shortest of two, four or eight digits.
-/

namespace Chip8.Text.Quoted

def hexDigit (value : Nat) : Char :=
  if value < 10 then Char.ofNat ('0'.toNat + value) else Char.ofNat ('a'.toNat + (value - 10))

/-- The lowest `count` hexadecimal digits of a number. -/
def hexDigits : (count : Nat) → Nat → List Char
  | 0, _ => []
  | count + 1, value => hexDigits count (value / 16) ++ [hexDigit (value % 16)]

/-- The quote that encloses a text. -/
def quoteOf (chars : List Char) : Char :=
  if chars.contains '\'' && !chars.contains '"' then '"' else '\''

def escape (quote char : Char) : List Char :=
  if char = '\\' ∨ char = quote then ['\\', char]
  else if char = '\n' then ['\\', 'n']
  else if char = '\r' then ['\\', 'r']
  else if char = '\t' then ['\\', 't']
  else if isPrintable char then [char]
  else if char.toNat < 0x100 then '\\' :: 'x' :: hexDigits 2 char.toNat
  else if char.toNat < 0x10000 then '\\' :: 'u' :: hexDigits 4 char.toNat
  else '\\' :: 'U' :: hexDigits 8 char.toNat

def quote (text : String) : String :=
  let chars := text.toList
  let mark := quoteOf chars
  String.ofList (mark :: chars.flatMap (escape mark) ++ [mark])

end Chip8.Text.Quoted
