/-!
# Two decimal places

A floating-point number is a whole number of some power of two. Its hundredths
are that exact value times one hundred, rounded to the nearest whole number, a
tie to the even one. The sign is the sign bit, so a small negative number is
written with a minus sign even when it rounds to zero.
-/

namespace Chip8.Text.Fixed

/-- The whole number nearest to a quotient, the even one of two. -/
def roundHalfEven (numerator denominator : Nat) : Nat :=
  let quotient := numerator / denominator
  let rest := numerator % denominator
  if 2 * rest < denominator ∨ 2 * rest = denominator ∧ quotient % 2 = 0 then quotient
  else quotient + 1

/-- Sign bit, exponent field and fraction field of a number. -/
def fields (value : Float) : Bool × Nat × Nat :=
  let bits := value.toBits.toNat
  (bits >>> 63 = 1, (bits >>> 52) % 2048, bits % (1 <<< 52))

/-- The hundredths of the absolute value of a finite number with the given
exponent and fraction fields. -/
def hundredths (exponent fraction : Nat) : Nat :=
  let significand := if exponent = 0 then fraction else (1 <<< 52) + fraction
  let scale := max exponent 1
  roundHalfEven ((100 * significand) <<< (scale - 1075)) (1 <<< (1075 - scale))

def placeHundredths (value : Nat) : String :=
  let cents := value % 100
  toString (value / 100) ++ "." ++ toString (cents / 10) ++ toString (cents % 10)

/-- The text of a number without its sign. -/
def magnitude (exponent fraction : Nat) : String :=
  if exponent < 2047 then placeHundredths (hundredths exponent fraction)
  else if fraction = 0 then "inf"
  else "nan"

def twoPlaces (value : Float) : String :=
  let (negative, exponent, fraction) := fields value
  if negative ∧ ¬(exponent = 2047 ∧ fraction ≠ 0) then "-" ++ magnitude exponent fraction
  else magnitude exponent fraction

end Chip8.Text.Fixed
