/-! # Binary floating-point values as exact numbers

A finite value is a mantissa times a power of two. This file decodes the bits of a value, and rounds
an exact quotient to the nearest value of a format, ties to the even mantissa.
-/

namespace SchemaLedger.Decimal

set_option autoImplicit false

structure Format where
  fractionBits : Nat
  exponentBits : Nat

def Format.single : Format := ⟨23, 8⟩

def Format.double : Format := ⟨52, 11⟩

/-- The exponent of the last mantissa bit of the smallest values. -/
def Format.leastExponent (format : Format) : Int :=
  2 - (Nat.pow 2 (format.exponentBits - 1) : Nat) - format.fractionBits

def Format.infinity (format : Format) : Nat :=
  (Nat.pow 2 format.exponentBits - 1) * Nat.pow 2 format.fractionBits

def Format.signBit (format : Format) : Nat :=
  Nat.pow 2 (format.exponentBits + format.fractionBits)

/-- The number `mantissa * 2 ^ exponent`. The gap to the value below may be half the gap above. -/
structure Magnitude where
  mantissa : Nat
  exponent : Int
  narrowBelow : Bool
  deriving DecidableEq

inductive Reading where
  | nan
  | infinite (negative : Bool)
  | finite (negative : Bool) (magnitude : Magnitude)
  deriving DecidableEq

def Format.read (format : Format) (bits : Nat) : Reading :=
  let negative := bits / format.signBit % 2 = 1
  let field := bits / Nat.pow 2 format.fractionBits % Nat.pow 2 format.exponentBits
  let fraction := bits % Nat.pow 2 format.fractionBits
  if field = Nat.pow 2 format.exponentBits - 1 then
    if fraction = 0 then .infinite negative else .nan
  else if field = 0 then
    .finite negative ⟨fraction, format.leastExponent, false⟩
  else
    .finite negative
      ⟨Nat.pow 2 format.fractionBits + fraction, format.leastExponent + (field - 1 : Nat),
        fraction = 0 && 1 < field⟩

def Magnitude.quotient (magnitude : Magnitude) : Nat × Nat :=
  (magnitude.mantissa * Nat.pow 2 magnitude.exponent.toNat, Nat.pow 2 (-magnitude.exponent).toNat)

/-- A quotient rounded to the nearest natural, a half to the even one. -/
def roundDiv (num den : Nat) : Nat :=
  let floor := num / den
  let rest := num % den
  if 2 * rest < den then floor
  else if den < 2 * rest then floor + 1
  else floor + floor % 2

def floorLog2 (num den : Nat) : Int :=
  let estimate : Int := (num.log2 : Int) - den.log2
  if den * Nat.pow 2 estimate.toNat ≤ num * Nat.pow 2 (-estimate).toNat then estimate else estimate - 1

/-- The bits of the value nearest to `num / den`; beyond the largest value, those of infinity. -/
def Format.nearest (format : Format) (num den : Nat) : Nat :=
  if num = 0 then
    0
  else
    let exponent := max (floorLog2 num den - format.fractionBits) format.leastExponent
    let mantissa := roundDiv (num * Nat.pow 2 (-exponent).toNat) (den * Nat.pow 2 exponent.toNat)
    let hidden := Nat.pow 2 format.fractionBits
    let bits :=
      if mantissa < hidden then mantissa
      else ((exponent - format.leastExponent).toNat + 1) * hidden + (mantissa - hidden)
    min bits format.infinity

end SchemaLedger.Decimal
