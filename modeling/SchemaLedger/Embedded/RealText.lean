import SchemaLedger.Decimal.Layout
import SchemaLedger.Decimal.Extended

/-! # Doubles as text

A double that is stored as text has fifteen significant digits at most, and always a point.
-/

namespace SchemaLedger.Embedded

set_option autoImplicit false

open Decimal

namespace RealText

def timesWhile (goesOn : Extended → Bool) (factor : Extended) : Nat → Extended → Extended × Nat
  | 0, x => (x, 0)
  | bound + 1, x =>
      if goesOn x then
        let (result, count) := timesWhile goesOn factor bound (x.times factor)
        (result, count + 1)
      else
        (x, 0)

def lowered (x : Extended) : Extended × Int :=
  let step (power limit : Int) : Extended → Extended × Nat :=
    timesWhile (fun x => !x.belowPowerOfTen limit) (.powerOfTen (-power)) 20
  let (x, hundreds) := step 100 119 x
  let (x, tens) := step 10 29 x
  let (x, ones) := step 1 19 x
  (x, 100 * hundreds + 10 * tens + ones)

def raised (x : Extended) : Extended × Int :=
  let step (power limit : Int) : Extended → Extended × Nat :=
    timesWhile (·.belowPowerOfTen limit) (.powerOfTen power) 20
  let (x, hundreds) := step 100 (-97) x
  let (x, tens) := step 10 7 x
  let (x, ones) := step 1 17 x
  (x, -(100 * hundreds + 10 * tens + ones))

def significantDigits : Nat := 15

/-- The leading digits of a positive number. It is brought to about eighteen digits before the
point, which are then cut to fewer; the first digit that is cut off rounds the last one that is
left. -/
def digits (x : Extended) : Digits :=
  let (x, exponent) := if x.belowPowerOfTen 19 then raised x else lowered x
  let whole := x.floor
  let surplus := (Nat.toDigits 10 whole).length - significantDigits
  let kept := whole / Nat.pow 10 surplus
  let next := whole * 10 / Nat.pow 10 surplus % 10
  .ofScaled (if 5 ≤ next then kept + 1 else kept) (surplus + exponent)

def exponentText (n : Nat) : List Char :=
  (if n < 10 then ['0'] else []) ++ Nat.toDigits 10 n

def scientific (number : Digits) : List Char :=
  let exponent := number.point - 1
  number.digits.take 1 ++ '.' :: (if number.digits.length ≤ 1 then ['0'] else number.digits.drop 1) ++
    'e' :: (if exponent < 0 then '-' else '+') :: exponentText exponent.natAbs

/-- Positional from a ten-thousandth to below a power of ten with as many zeros as digits are
shown. -/
def magnitude (x : Extended) : List Char :=
  let number := digits x
  if -4 < number.point ∧ number.point ≤ significantDigits then number.positional ['.', '0']
  else scientific number

end RealText

def realText (bits : UInt64) : String :=
  match Format.double.read bits.toNat with
  | .nan => "NaN"
  | .infinite negative => if negative then "-Inf" else "Inf"
  | .finite negative value =>
      if value.mantissa = 0 then "0.0"
      else
        String.ofList ((if negative then ['-'] else []) ++
          RealText.magnitude ⟨value.mantissa, value.exponent⟩)

end SchemaLedger.Embedded
