import Chip8.Picture.Bytes
import Chip8.Picture.Image

/-!
# BMP files

An uncompressed picture: two headers, then the rows from bottom to top, each
padded to a multiple of four bytes. A pixel is blue, green, red.
-/

namespace Chip8.Picture.Bmp

def fileHeaderSize : Nat := 14

def pictureHeaderSize : Nat := 40

def pixel (color : Color) : List Byte := [color.blue, color.green, color.red]

def padding (width : Nat) : Nat := (4 - 3 * width % 4) % 4

def row (colors : List Color) : List Byte :=
  colors.flatMap pixel ++ List.replicate (padding colors.length) 0

def pixels (image : Image) : List Byte :=
  image.rows.toList.reverse.flatMap fun colors => row colors.toList

def file (image : Image) : List Byte :=
  let body := pixels image
  let bodyStart := fileHeaderSize + pictureHeaderSize
  let fileHeader :=
    [0x42, 0x4D] ++ littleEndian 4 (bodyStart + body.length) ++ littleEndian 4 0 ++
      littleEndian 4 bodyStart
  let pictureHeader :=
    littleEndian 4 pictureHeaderSize ++ littleEndian 4 image.width ++
      littleEndian 4 image.height ++ littleEndian 2 1 ++ littleEndian 2 24 ++
      littleEndian 4 0 ++ littleEndian 4 body.length ++ littleEndian 16 0
  fileHeader ++ pictureHeader ++ body

end Chip8.Picture.Bmp
