import Chip8.Picture.Bytes
import Chip8.Picture.Image

/-!
# PNG files

A signature and three chunks: the picture's size, its pixels, the end. The
pixels are stored without compression, and both the pixels and each chunk
carry a checksum.
-/

namespace Chip8.Picture.Png

/-! ## Checksums -/

/-- Divide a bit out of a remainder. -/
def divideBit (remainder : BitVec 32) : BitVec 32 :=
  if remainder &&& 1 = 0 then remainder >>> 1 else (remainder >>> 1) ^^^ 0xEDB88320

def divideByte (remainder : BitVec 32) (byte : Byte) : BitVec 32 :=
  Nat.repeat divideBit 8 (remainder ^^^ byte.setWidth 32)

/-- The checksum of a chunk: the remainder of its bytes as a polynomial. -/
def chunkChecksum (bytes : List Byte) : BitVec 32 := ~~~(bytes.foldl divideByte 0xFFFFFFFF)

/-- The checksum of the pixels: the sum of their bytes, and the sum of the sums. -/
def dataChecksum (bytes : List Byte) : Nat :=
  let (low, high) := bytes.foldl (fun (low, high) byte =>
    let low := (low + byte.toNat) % 65521
    (low, (high + low) % 65521)) (1, 0)
  65536 * high + low

/-! ## Storing without compression -/

/-- The longest block of stored bytes. -/
def blockCapacity : Nat := 65535

def block (last : Bool) (bytes : List Byte) : List Byte :=
  (if last then 1 else 0) :: littleEndian 2 bytes.length ++
    littleEndian 2 (blockCapacity - bytes.length) ++ bytes

/-- Bytes as a sequence of stored blocks. -/
def blocks (bytes : List Byte) : List Byte :=
  if bytes.length ≤ blockCapacity then block true bytes
  else block false (bytes.take blockCapacity) ++ blocks (bytes.drop blockCapacity)
termination_by bytes.length
decreasing_by
  simp only [blockCapacity, List.length_drop] at *
  omega

def store (bytes : List Byte) : List Byte :=
  [0x78, 0x01] ++ blocks bytes ++ bigEndian 4 (dataChecksum bytes)

/-! ## The file -/

/-- A chunk: the length, then the name and contents, then their checksum. -/
def chunk (name : List Byte) (contents : List Byte) : List Byte :=
  let body := name ++ contents
  bigEndian 4 contents.length ++ body ++ bigEndian 4 (chunkChecksum body).toNat

def signature : List Byte := [0x89, 0x50, 0x4E, 0x47, 0x0D, 0x0A, 0x1A, 0x0A]

/-- Width, height, eight bits for each of red, green and blue. -/
def header (image : Image) : List Byte :=
  bigEndian 4 image.width ++ bigEndian 4 image.height ++ [8, 2, 0, 0, 0]

/-- A row without a filter. -/
def row (colors : List Color) : List Byte :=
  0 :: colors.flatMap fun color => [color.red, color.green, color.blue]

def pixels (image : Image) : List Byte :=
  image.rows.toList.flatMap fun colors => row colors.toList

def file (image : Image) : List Byte :=
  signature ++ chunk [0x49, 0x48, 0x44, 0x52] (header image) ++
    chunk [0x49, 0x44, 0x41, 0x54] (store (pixels image)) ++
    chunk [0x49, 0x45, 0x4E, 0x44] []

end Chip8.Picture.Png
