import Chip8.Error
import Chip8.Setting

/-!
# Paths

A path is a root, if it starts with a slash, and parts between slashes. Empty parts
and single dots say nothing and are dropped; double dots are left to the file system.
-/

namespace Chip8.Headless.Path

/-- The parts of a path that say something. -/
def parts (path : String) : List String :=
  (path.splitOn "/").filter fun part => part != "" && part != "."

/-- The root of a path. Two slashes at its start are a root of their own, more are one. -/
def root (path : String) : String :=
  match (path.toList.takeWhile (· == '/')).length with
  | 0 => ""
  | 2 => "//"
  | _ => "/"

/-- A root and parts as a path. With neither it is the single dot. -/
def write (root : String) (parts : List String) : String :=
  if root = "" ∧ parts = [] then "." else root ++ "/".intercalate parts

/-- A path as seen from a directory, written without parts that say nothing. -/
def resolve (directory path : String) : String :=
  if root path = "" then write (root directory) (parts directory ++ parts path)
  else write (root path) (parts path)

/-- The path that a setting gives, as seen from a directory; only a text is one. -/
def ofSetting? (directory : String) : Setting → Except Error String
  | .text path => .ok (resolve directory path)
  | _ => .error .pathNotText

/-- What stands before the last slash. -/
def parent (path : String) : String :=
  "/".intercalate (path.splitOn "/").dropLast

end Chip8.Headless.Path
