import SchemaLedger.Decimal.Binary

/-! # Extended precision

Positive numbers with a mantissa of 64 bits. A product is rounded to that length at once. So a
number that is scaled by several powers of ten can miss the double that is nearest to the exact
result.
-/

namespace SchemaLedger.Decimal

set_option autoImplicit false

def Format.greatest (format : Format) : Nat :=
  (Nat.pow 2 (format.fractionBits + 1) - 1) *
    Nat.pow 2 (format.leastExponent + (Nat.pow 2 format.exponentBits - 3 : Nat)).toNat

structure Extended where
  mantissa : Nat
  exponent : Int
  deriving DecidableEq

namespace Extended

/-- The number nearest to a positive quotient, of two the one with the even mantissa. -/
def nearest (num den : Nat) : Extended :=
  let exponent := floorLog2 num den - 63
  ⟨roundDiv (num * Nat.pow 2 (-exponent).toNat) (den * Nat.pow 2 exponent.toNat), exponent⟩

def powerOfTen (exponent : Int) : Extended :=
  nearest (Nat.pow 10 exponent.toNat) (Nat.pow 10 (-exponent).toNat)

def times (a b : Extended) : Extended :=
  let product := nearest (a.mantissa * b.mantissa) 1
  { product with exponent := product.exponent + a.exponent + b.exponent }

def quotient (x : Extended) : Nat × Nat :=
  (x.mantissa * Nat.pow 2 x.exponent.toNat, Nat.pow 2 (-x.exponent).toNat)

def floor (x : Extended) : Nat :=
  x.quotient.1 / x.quotient.2

def belowPowerOfTen (x : Extended) (exponent : Int) : Bool :=
  let (num, den) := x.quotient
  let (limitNum, limitDen) := (powerOfTen exponent).quotient
  num * limitDen < limitNum * den

def timesRepeated (factor : Extended) : Nat → Extended → Extended
  | 0, x => x
  | count + 1, x => timesRepeated factor count (x.times factor)

/-- Scales by a power of ten: first by hundreds of its exponent, then by tens, then by ones. -/
def scaled (x : Extended) (exponent : Int) : Extended :=
  let power (n : Int) : Extended := powerOfTen (if exponent < 0 then -n else n)
  let count := exponent.natAbs
  timesRepeated (power 1) (count % 10)
    (timesRepeated (power 10) (count % 100 / 10) (timesRepeated (power 100) (count / 100) x))

/-- The bits of the nearest double. Whatever exceeds the greatest double counts as infinite. -/
def toDouble (x : Extended) : Nat :=
  let (num, den) := x.quotient
  if Format.double.greatest * den < num then Format.double.infinity else Format.double.nearest num den

end Extended

end SchemaLedger.Decimal
