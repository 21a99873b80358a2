import Chip8.Files
import Chip8.Picture.Image

/-!
# Frames

A frame is the screen as an image file. An image library picks the format by the
path of the file, and knows the paths that it can write. Of all that can be wrong
with a frame the picture's faults come first, then the format, then the place.
-/

namespace Chip8.Picture

/-- A file format for images. -/
structure Format where
  name : String
  encode : Image → List Byte

structure Library where
  /-- The format in which an image is written to a path, if it can be. -/
  format? : String → Option Format

def Library.formatAt? (library : Library) (path : String) : Except Error Format :=
  match library.format? path with
  | some format => .ok format
  | none => .error .unknownImageFormat

def renderScreen? (host : Host) (screen : Screen) (scale scheme : Setting) :
    Except Error Image := do
  let scheme ← Scheme.ofSetting? scheme
  Image.renderAt? host screen.bitmap scale scheme

structure Frame where
  format : Format
  image : Image

namespace Frame

/-- The contents of the file. -/
def bytes (frame : Frame) : List Byte := frame.format.encode frame.image

def ofScreen? (host : Host) (library : Library) (screen : Screen) (path : String)
    (scale scheme : Setting) : Except Error Frame := do
  let image ← renderScreen? host screen scale scheme
  let format ← library.formatAt? path
  return { format, image }

/-- The frame that is saved at a path. -/
def save? (host : Host) (library : Library) (files : Files) (screen : Screen)
    (path : String) (scale scheme : Setting) : Except Error Frame := do
  let frame ← ofScreen? host library screen path scale scheme
  (files.write? path).mapError .fileNotWritten
  return frame

end Frame

end Chip8.Picture
