import Chip8.Picture.Bmp
import Chip8.Picture.Frame
import Chip8.Picture.Png

/-!
# An image library

A library of two formats, which it tells apart by the extension of the file's name,
in any letter case.
-/

namespace Chip8.Picture

namespace Format

def png : Format := { name := "PNG", encode := Png.file }

def bmp : Format := { name := "BMP", encode := Bmp.file }

end Format

namespace Library

/-- The extension of a file name: what follows the last dot of its last part,
unless only dots come before. -/
def extension (fileName : String) : String :=
  let reversed := fileName.toList.reverse.takeWhile (· != '/')
  let suffix := reversed.takeWhile (· != '.')
  let stem := (reversed.drop suffix.length).drop 1
  if stem.all (· == '.') then "" else String.ofList suffix.reverse

def ofExtension? (extension : String) : Option Format :=
  match extension.toLower with
  | "png" | "apng" => some .png
  | "bmp" => some .bmp
  | _ => none

/-- The library of the formats above. -/
def standard : Library := { format? := fun path => ofExtension? (extension path) }

end Library

end Chip8.Picture
