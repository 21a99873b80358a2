import Chip8.Error
import Chip8.Word

/-!
# Files

The files around a run, as far as it looks at them: what reading a path gives and
what stands against writing to it. A name with a NUL names no file.
-/

namespace Chip8

structure Files where
  contents : String → Except FileFault (List Byte)
  writable : String → Except FileFault Unit

namespace Files

def checkName (path : String) : Except FileFault Unit :=
  if path.toList.contains '\x00' then .error .nulInName else .ok ()

def read? (files : Files) (path : String) : Except FileFault (List Byte) := do
  checkName path
  files.contents path

def write? (files : Files) (path : String) : Except FileFault Unit := do
  checkName path
  files.writable path

end Files

end Chip8
