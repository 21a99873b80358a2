/-!
# Hexadecimal text

Upper-case digits of a number, and whole numbers padded with zeros to a width
that counts the minus sign.
-/

namespace Chip8.Text.Hexadecimal

def digit (value : Nat) : Char :=
  if value < 10 then Char.ofNat ('0'.toNat + value) else Char.ofNat ('A'.toNat + (value - 10))

/-- Digits of a number, most significant first and without leading zeros. -/
def digits (value : Nat) : List Char :=
  if value < 16 then [digit value] else digits (value / 16) ++ [digit (value % 16)]
termination_by value
decreasing_by omega

def padZeros (length : Nat) (chars : List Char) : List Char :=
  List.replicate (length - chars.length) '0' ++ chars

/-- The minus sign comes before the padding and takes one place of the width. -/
def signed (width : Nat) : Int → List Char
  | .ofNat value => padZeros width (digits value)
  | .negSucc value => '-' :: padZeros (width - 1) (digits (value + 1))

/-- A whole number in at least `width` characters, sign included. -/
def padded (width : Nat) (value : Int) : String := String.ofList (signed width value)

end Chip8.Text.Hexadecimal
