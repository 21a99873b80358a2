import Chip8.Text.Fixed
import Mathlib.Algebra.Order.Field.Rat
import Mathlib.Data.Rat.Cast.Order
import Mathlib.Tactic.Linarith
import Mathlib.Tactic.FieldSimp
import Mathlib.Tactic.Positivity
import Mathlib.Tactic.Ring
import Mathlib.Tactic.SplitIfs
import Mathlib.Tactic.NormNum

/-!
# Hundredths of a floating-point number

The two places of a number are those of the whole number next to a hundred times its exact
value. Which number that is, `NearestEven` says over all candidates; what the exact value is,
the unpacked form of the number says as a sign, a mantissa and a power of two.
-/

namespace Chip8.Text.Fixed

open Float.Model (UnpackedFloat)
open Float.Model.UnpackedFloat (Sign)

/-! ## The nearest whole number -/

/-- No whole number is nearer to the quantity, and where another is as near this is even. -/
def NearestEven (quantity : ℚ) (whole : Nat) : Prop :=
  ∀ other : ℤ,
    |(whole : ℚ) - quantity| ≤ |(other : ℚ) - quantity| ∧
      (|(whole : ℚ) - quantity| = |(other : ℚ) - quantity| → other = whole ∨ whole % 2 = 0)

section Nearest

variable {quantity : ℚ} {whole : Nat}

/-- An error of at most one half is enough. -/
theorem nearestEven_of_error (near : |(whole : ℚ) - quantity| ≤ 1 / 2)
    (even : |(whole : ℚ) - quantity| = 1 / 2 → whole % 2 = 0) : NearestEven quantity whole := by
  intro other
  by_cases same : other = whole
  · simp [same]
  · have apart : (1 : ℚ) ≤ |(other : ℚ) - whole| := by
      have distinct : (1 : ℤ) ≤ |other - whole| := Int.one_le_abs (sub_ne_zero.mpr same)
      exact_mod_cast distinct
    have triangle := abs_sub_le (other : ℚ) quantity whole
    rw [abs_sub_comm quantity] at triangle
    refine ⟨by linarith, fun tie => .inr (even ?_)⟩
    linarith

theorem NearestEven.unique {other : Nat} (nearest : NearestEven quantity whole)
    (nearestToo : NearestEven quantity other) : whole = other := by
  by_contra distinct
  have tie : |(whole : ℚ) - quantity| = |(other : ℚ) - quantity| :=
    le_antisymm (nearest other).1 (nearestToo whole).1
  have even : whole % 2 = 0 :=
    ((nearest other).2 tie).resolve_left fun same => distinct (by exact_mod_cast same.symm)
  have evenToo : other % 2 = 0 :=
    ((nearestToo whole).2 tie.symm).resolve_left fun same => distinct (by exact_mod_cast same)
  -- The number halfway between two even ones is whole, and nearer than both.
  obtain ⟨half, rfl⟩ := Nat.dvd_of_mod_eq_zero even
  obtain ⟨otherHalf, rfl⟩ := Nat.dvd_of_mod_eq_zero evenToo
  have middle := (nearest (half + otherHalf)).1
  rcases abs_eq_abs.mp tie with same | opposite
  · exact distinct (by exact_mod_cast sub_left_injective same)
  · have centre : ((half + otherHalf : ℤ) : ℚ) - quantity = 0 := by
      push_cast at opposite ⊢
      linarith
    rw [centre, abs_zero] at middle
    have exact := abs_nonpos_iff.mp middle
    rw [exact, eq_comm, neg_eq_zero] at opposite
    exact distinct (by exact_mod_cast sub_left_injective (exact.trans opposite.symm))

end Nearest

theorem nearestEven_roundHalfEven {numerator denominator : Nat} (positive : 0 < denominator) :
    NearestEven (numerator / denominator) (roundHalfEven numerator denominator) := by
  have scaled : (0 : ℚ) < denominator := by exact_mod_cast positive
  have parts : (numerator : ℚ) / denominator =
      (numerator / denominator : Nat) + (numerator % denominator : Nat) / (denominator : ℚ) := by
    rw [div_eq_iff scaled.ne', add_mul, div_mul_cancel₀ _ scaled.ne']
    exact_mod_cast (Nat.div_add_mod' numerator denominator).symm
  have bound : numerator % denominator < denominator := Nat.mod_lt numerator positive
  simp only [roundHalfEven]
  rw [parts]
  generalize numerator / denominator = quotient
  generalize numerator % denominator = rest at bound
  have doubled : (rest : ℚ) / denominator = 1 / 2 ↔ 2 * rest = denominator := by
    rw [div_eq_div_iff scaled.ne' two_ne_zero]
    norm_cast
    omega
  split_ifs with down
  · have error : |(quotient : ℚ) - (quotient + rest / denominator)| = rest / denominator := by
      rw [sub_add_cancel_left, abs_neg, abs_of_nonneg (by positivity)]
    apply nearestEven_of_error
    · rw [error, div_le_div_iff₀ scaled two_pos]
      norm_cast
      omega
    · rw [error, doubled]
      omega
  · have error : |((quotient + 1 : Nat) : ℚ) - (quotient + rest / denominator)| =
        1 - rest / denominator := by
      have inside : (rest : ℚ) / denominator ≤ 1 := by
        rw [div_le_one scaled]
        exact_mod_cast bound.le
      rw [Nat.cast_succ, add_sub_add_left_eq_sub, abs_of_nonneg (sub_nonneg.mpr inside)]
    have half : (1 : ℚ) / 2 ≤ rest / denominator := by
      rw [div_le_div_iff₀ two_pos scaled]
      norm_cast
      omega
    apply nearestEven_of_error
    · linarith
    · intro tie
      have exactly : (rest : ℚ) / denominator = 1 / 2 := by linarith
      rw [doubled] at exactly
      omega

/-! ## The value of a number -/

/-- The sign of a number in front of its digits. -/
def mark : Sign → String
  | .positive => ""
  | .negative => "-"

/-- A number with two places: the digits are those of the whole number next to a hundred times
its value. -/
inductive ShowsPlaces : UnpackedFloat → String → Prop where
  | notANumber : ShowsPlaces .notANumber "nan"
  | infinity (sign : Sign) : ShowsPlaces (.infinity sign) (mark sign ++ "inf")
  | zero (sign : Sign) : ShowsPlaces (.zero sign) (mark sign ++ "0.00")
  | finite (sign : Sign) {mantissa : Nat} {exponent : ℤ} (positive : 0 < mantissa)
      (whole tens units : Nat) (tensDigit : tens < 10) (unitsDigit : units < 10)
      (nearest : NearestEven (100 * (mantissa * 2 ^ exponent)) (100 * whole + 10 * tens + units)) :
      ShowsPlaces (.finite sign mantissa exponent positive)
        (mark sign ++ (toString whole ++ "." ++ toString tens ++ toString units))

/-- A number is shown by one text only. -/
theorem ShowsPlaces.unique {number : UnpackedFloat} {text other : String}
    (shown : ShowsPlaces number text) (shownToo : ShowsPlaces number other) : other = text := by
  cases shown with
  | notANumber | infinity | zero => cases shownToo with | _ => rfl
  | finite sign positive whole tens units tensDigit unitsDigit nearest =>
      cases shownToo with
      | finite _ _ otherWhole otherTens otherUnits otherTensDigit otherUnitsDigit nearestToo =>
          have same := nearest.unique nearestToo
          obtain rfl : whole = otherWhole := by omega
          obtain rfl : tens = otherTens := by omega
          obtain rfl : units = otherUnits := by omega
          rfl

section Fields

variable (bits : BitVec Float.Model.Format.binary64.numBits)

theorem toNat_unpackExponent :
    (UnpackedFloat.unpackExponent bits).toNat = (bits.toNat >>> 52) % 2048 := by
  simp [UnpackedFloat.unpackExponent, BitVec.extractLsb]

theorem toNat_unpackMantissa :
    (UnpackedFloat.unpackMantissa bits).toNat = bits.toNat % (1 <<< 52) := by
  simp [UnpackedFloat.unpackMantissa, BitVec.extractLsb]

/-- The leading bit that is not among the fields is the one above the fraction. -/
theorem toNat_significand :
    (1#1 ++ UnpackedFloat.unpackMantissa bits).toNat =
      (1 <<< 52) + (UnpackedFloat.unpackMantissa bits).toNat := by
  have bound : (UnpackedFloat.unpackMantissa bits).toNat < 2 ^ 52 :=
    (UnpackedFloat.unpackMantissa bits).isLt
  rw [BitVec.toNat_append, ← Nat.shiftLeft_add_eq_or_of_lt bound]
  rfl

theorem unpackSign_eq_zero_iff :
    UnpackedFloat.unpackSign bits = 0#1 ↔ ¬bits.toNat >>> 63 = 1 := by
  have bound : bits.toNat < 2 ^ 64 := bits.isLt
  rw [← BitVec.toNat_inj]
  change (bits.toNat >>> 63) % 2 = 0 ↔ _
  omega

theorem mark_append (text : String) :
    mark (Sign.ofBitVec (UnpackedFloat.unpackSign bits)) ++ text =
      if bits.toNat >>> 63 = 1 then "-" ++ text else text := by
  unfold Sign.ofBitVec
  by_cases negative : bits.toNat >>> 63 = 1
  · rw [if_neg ((unpackSign_eq_zero_iff bits).not.mpr (not_not.mpr negative)), if_pos negative,
      mark]
  · rw [if_pos ((unpackSign_eq_zero_iff bits).mpr negative), if_neg negative, mark,
      String.empty_append]

/-- A number with a sign to show is marked by its sign bit alone. -/
theorem mark_append_of_definite {unsigned : Prop} [Decidable unsigned] (definite : ¬unsigned)
    (text : String) :
    (if bits.toNat >>> 63 = 1 ∧ ¬unsigned then "-" ++ text else text) =
      mark (Sign.ofBitVec (UnpackedFloat.unpackSign bits)) ++ text := by
  simp only [mark_append, definite, not_false_eq_true, and_true]

theorem unpackExponent_eq_last_iff :
    UnpackedFloat.unpackExponent bits = -1#11 ↔
      (UnpackedFloat.unpackExponent bits).toNat = 2047 :=
  BitVec.toNat_inj.symm

theorem unpackExponent_eq_zero_iff :
    UnpackedFloat.unpackExponent bits = 0#11 ↔ (UnpackedFloat.unpackExponent bits).toNat = 0 :=
  BitVec.toNat_inj.symm

theorem unpackMantissa_eq_zero_iff :
    UnpackedFloat.unpackMantissa bits = 0#52 ↔ (UnpackedFloat.unpackMantissa bits).toNat = 0 :=
  BitVec.toNat_inj.symm

end Fields

theorem shifts_eq (significand scale : Nat) :
    (((100 * significand) <<< (scale - 1075) : Nat) : ℚ) / ((1 <<< (1075 - scale) : Nat) : ℚ) =
      100 * (significand * 2 ^ ((scale : ℤ) - 1075)) := by
  rcases Nat.le_total 1075 scale with large | small
  · have power : (scale : ℤ) - 1075 = (scale - 1075 : Nat) := by omega
    rw [power, Nat.sub_eq_zero_of_le large, zpow_natCast]
    simp only [Nat.shiftLeft_eq, pow_zero, mul_one, Nat.cast_mul, Nat.cast_pow, Nat.cast_ofNat,
      Nat.cast_one, div_one, mul_assoc]
  · have power : (scale : ℤ) - 1075 = -(1075 - scale : Nat) := by omega
    rw [power, Nat.sub_eq_zero_of_le small, zpow_neg, zpow_natCast]
    simp only [Nat.shiftLeft_eq, pow_zero, mul_one, one_mul, Nat.cast_mul, Nat.cast_pow,
      Nat.cast_ofNat, mul_assoc, div_eq_mul_inv]

theorem nearestEven_hundredths {exponent fraction significand : Nat} {power : ℤ}
    (mantissa : (if exponent = 0 then fraction else (1 <<< 52) + fraction) = significand)
    (scale : ((max exponent 1 : Nat) : ℤ) - 1075 = power) :
    NearestEven (100 * (significand * 2 ^ power)) (hundredths exponent fraction) := by
  rw [← scale, ← mantissa, ← shifts_eq]
  exact nearestEven_roundHalfEven (Nat.pos_of_ne_zero (by simp [Nat.shiftLeft_eq]))

theorem showsPlaces_placeHundredths (sign : Sign) {mantissa : Nat} {exponent : ℤ}
    (positive : 0 < mantissa) {cents : Nat}
    (nearest : NearestEven (100 * (mantissa * 2 ^ exponent)) cents) :
    ShowsPlaces (.finite sign mantissa exponent positive) (mark sign ++ placeHundredths cents) := by
  have parts : cents = 100 * (cents / 100) + 10 * (cents % 100 / 10) + cents % 100 % 10 := by
    omega
  rw [parts] at nearest
  exact .finite sign positive _ _ _ (by omega) (by omega) nearest

/-- What is written of the three fields of a number shows the number that they unpack to. -/
theorem showsPlaces_unpack (bits : BitVec Float.Model.Format.binary64.numBits) :
    ShowsPlaces (UnpackedFloat.unpack .binary64 bits)
      (if bits.toNat >>> 63 = 1 ∧
          ¬((bits.toNat >>> 52) % 2048 = 2047 ∧ bits.toNat % (1 <<< 52) ≠ 0) then
        "-" ++ magnitude ((bits.toNat >>> 52) % 2048) (bits.toNat % (1 <<< 52))
      else magnitude ((bits.toNat >>> 52) % 2048) (bits.toNat % (1 <<< 52))) := by
  rw [← toNat_unpackExponent, ← toNat_unpackMantissa]
  have below : (UnpackedFloat.unpackExponent bits).toNat < 2048 :=
    (UnpackedFloat.unpackExponent bits).isLt
  have bias : Float.Model.Format.binary64.exponentBias = 1023 := rfl
  have places : Float.Model.Format.binary64.mantissaBitsWithoutImplicit = 52 := rfl
  unfold UnpackedFloat.unpack
  by_cases special : (UnpackedFloat.unpackExponent bits).toNat = 2047
  · have unbounded : ¬(UnpackedFloat.unpackExponent bits).toNat < 2047 := by omega
    rw [if_pos ((unpackExponent_eq_last_iff bits).mpr special), magnitude, if_neg unbounded]
    by_cases infinite : (UnpackedFloat.unpackMantissa bits).toNat = 0
    · rw [if_pos ((unpackMantissa_eq_zero_iff bits).mpr infinite), if_pos infinite,
        mark_append_of_definite bits (fun fields => fields.2 infinite)]
      exact .infinity _
    · rw [if_neg ((unpackMantissa_eq_zero_iff bits).not.mpr infinite), if_neg infinite,
        if_neg (fun fields => fields.2 ⟨special, infinite⟩)]
      exact .notANumber
  · have finite : (UnpackedFloat.unpackExponent bits).toNat < 2047 := by omega
    rw [if_neg ((unpackExponent_eq_last_iff bits).not.mpr special), magnitude, if_pos finite,
      mark_append_of_definite bits (fun fields => special fields.1)]
    by_cases least : (UnpackedFloat.unpackExponent bits).toNat = 0
    · rw [if_pos ((unpackExponent_eq_zero_iff bits).mpr least)]
      by_cases zero : (UnpackedFloat.unpackMantissa bits).toNat = 0
      · rw [dif_pos ((unpackMantissa_eq_zero_iff bits).mpr zero), least, zero]
        exact .zero _
      · rw [dif_neg ((unpackMantissa_eq_zero_iff bits).not.mpr zero)]
        exact showsPlaces_placeHundredths _ _
          (nearestEven_hundredths (if_pos least) (by rw [least]; rfl))
    · rw [if_neg ((unpackExponent_eq_zero_iff bits).not.mpr least)]
      exact showsPlaces_placeHundredths _ _
        (nearestEven_hundredths ((if_neg least).trans (toNat_significand bits).symm) (by omega))

theorem showsPlaces_twoPlaces (value : Float) :
    ShowsPlaces value.toModel.unpack (twoPlaces value) := by
  simp only [twoPlaces, fields, decide_eq_true_eq]
  exact showsPlaces_unpack value.toModel.toBits.toBitVec

theorem ShowsPlaces.eq_twoPlaces {value : Float} {text : String}
    (shown : ShowsPlaces value.toModel.unpack text) : text = twoPlaces value :=
  (showsPlaces_twoPlaces value).unique shown

end Chip8.Text.Fixed
