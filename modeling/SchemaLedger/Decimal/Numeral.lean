import SchemaLedger.Decimal.Extended
import SchemaLedger.Text.Integer

/-! # Decimal numerals

A numeral has an optional sign, digits with an optional point among them, and an optional exponent.
Its leading digits are scaled in extended precision, and the result is rounded once more, so the
double that it becomes is not always the nearest one.
-/

namespace SchemaLedger.Decimal

set_option autoImplicit false

open Text

def Format.withSign (format : Format) (negative : Bool) (bits : Nat) : Nat :=
  if negative then format.signBit + bits else bits

/-- The number `digits * 10 ^ exponent`, or its negative. -/
structure Numeral where
  negative : Bool
  digits : Nat
  exponent : Int
  plain : Bool
  deriving DecidableEq

namespace Numeral

/-- Exponents beyond this one make no difference to any double. -/
def greatestExponent : Int := 10000

def ofDigits? (negative : Bool) (text : List Char) : Option Numeral :=
  let whole := text.takeWhile Char.isDigit
  let rest := text.dropWhile Char.isDigit
  let (pointed, rest) :=
    match rest with
    | '.' :: rest => (true, rest)
    | rest => (false, rest)
  let fraction := if pointed then rest.takeWhile Char.isDigit else []
  let rest := rest.drop fraction.length
  let digits := naturalOfDigits (whole ++ fraction)
  if whole ++ fraction = [] then
    none
  else
    match rest with
    | [] => some ⟨negative, digits, -fraction.length, !pointed⟩
    | letter :: rest =>
        if letter = 'e' || letter = 'E' then
          (readInteger? rest).map fun shift =>
            ⟨negative, digits, max (-greatestExponent) (min greatestExponent shift) - fraction.length,
              false⟩
        else
          none

def ofText? : List Char → Option Numeral
  | '-' :: text => ofDigits? true text
  | '+' :: text => ofDigits? false text
  | text => ofDigits? false text

def toInt (numeral : Numeral) : Int :=
  if numeral.negative then -(numeral.digits : Int) else numeral.digits

/-- No digit is added to leading digits that have reached this number. Nineteen digits or twenty
do. -/
def enoughDigits : Nat := 1844674407370955160

def leadingDigits (digits : Nat) (exponent : Int) : Nat × Int :=
  if enoughDigits ≤ digits / 10 then leadingDigits (digits / 10) (exponent + 1) else (digits, exponent)
termination_by digits
decreasing_by
  rename_i h
  have : 0 < enoughDigits := by decide
  omega

def raiseDigits (digits : Nat) : Nat → Nat × Nat
  | 0 => (digits, 0)
  | power + 1 =>
      if digits ≤ enoughDigits then raiseDigits (digits * 10) power else (digits, power + 1)

def lowerDigits (digits : Nat) : Nat → Nat × Nat
  | 0 => (digits, 0)
  | power + 1 => if digits % 10 = 0 then lowerDigits (digits / 10) power else (digits, power + 1)

def doubleOf (digits : Nat) (exponent : Int) : Nat :=
  let (digits, exponent) := leadingDigits digits exponent
  if digits = 0 then
    0
  else if exponent < 0 then
    let (digits, power) := lowerDigits digits (-exponent).toNat
    ((Extended.nearest digits 1).scaled (-power)).toDouble
  else
    let (digits, power) := raiseDigits digits exponent.toNat
    ((Extended.nearest digits 1).scaled power).toDouble

def toDouble (numeral : Numeral) : Nat :=
  Format.double.withSign numeral.negative (doubleOf numeral.digits numeral.exponent)

end Numeral

end SchemaLedger.Decimal
