/-!
# Upper case

The upper-case form of a text as far as it falls on ASCII letters. Besides the
ASCII letters themselves only the characters listed in `special` have an
upper-case form that is made of ASCII letters; every other character is kept,
so a text is ASCII after `upperCase` exactly when its upper-case form is.
-/

namespace Chip8.Text

/-- Characters beyond ASCII whose upper-case form is in ASCII. -/
def special : List (Char × String) := [
  ('ß', "SS"), ('ı', "I"), ('ſ', "S"), ('ﬀ', "FF"), ('ﬁ', "FI"), ('ﬂ', "FL"),
  ('ﬃ', "FFI"), ('ﬄ', "FFL"), ('ﬅ', "ST"), ('ﬆ', "ST")]

def upperCaseOf (char : Char) : String :=
  match special.lookup char with
  | some upper => upper
  | none => char.toUpper.toString

def upperCase (text : String) : String :=
  String.join (text.toList.map upperCaseOf)

end Chip8.Text
