import SchemaLedger.Decimal.Binary
import SchemaLedger.Text.Integer

/-! # Numbers of a JSON text

Numbers are read as `serde_json` reads them. Whole numbers are exact as long as 64 bits hold them.
All others become doubles: the digits that fit 64 bits are taken as a whole number, which is rounded
to a double and then scaled by one power of ten. A text that breaks the grammar is malformed, one
that is well formed but has no meaning for the reader is mismatched, and one that ends too early is
truncated.
-/

namespace SchemaLedger.Json

set_option autoImplicit false

open Decimal Text

/-- Why a JSON text was not read. -/
inductive Fault where
  | malformed
  | mismatched
  | truncated
  deriving DecidableEq

inductive Number where
  | natural (n : Nat)
  | negative (n : Nat)
  | double (bits : UInt64)
  deriving DecidableEq

def signed (positive : Bool) (bits : Nat) : UInt64 :=
  (if positive then bits else Format.double.signBit + bits).toUInt64

def quotientOf (format : Format) (bits : Nat) : Nat × Nat :=
  match format.read bits with
  | .finite _ magnitude => magnitude.quotient
  | _ => (0, 1)

def scaled (up : Bool) (bits power : Nat) : Nat :=
  let (a, b) := quotientOf .double bits
  let (c, d) := quotientOf .double power
  if up then Format.double.nearest (a * c) (b * d) else Format.double.nearest (a * d) (b * c)

def powerOfTen (exponent : Nat) : Nat :=
  Format.double.nearest (Nat.pow 10 exponent) 1

def greatestPower : Nat := 308

/-- `significand * 10 ^ exponent` as a double, if it is not beyond all doubles. -/
def fromParts (positive : Bool) (significand : Nat) (exponent : Int) : Except Fault Number :=
  let whole := Format.double.nearest significand 1
  if 0 ≤ exponent then
    if exponent.toNat ≤ greatestPower then
      let bits := scaled true whole (powerOfTen exponent.toNat)
      if bits = Format.double.infinity then .error .malformed
      else .ok (.double (signed positive bits))
    else if significand = 0 then .ok (.double (signed positive 0))
    else .error .malformed
  else
    let down := (-exponent).toNat
    if down ≤ greatestPower then
      .ok (.double (signed positive (scaled false whole (powerOfTen down))))
    else if down ≤ 2 * greatestPower then
      let lowered := scaled false whole (powerOfTen greatestPower)
      .ok (.double (signed positive (scaled false lowered (powerOfTen (down - greatestPower)))))
    else
      .ok (.double (signed positive 0))

def appendDigits (n : Nat) : List Char → Nat × List Char
  | [] => (n, [])
  | c :: rest =>
      let longer := 10 * n + (c.toNat - '0'.toNat)
      if longer < UInt64.size then appendDigits longer rest else (n, c :: rest)

/-- A number without fraction and exponent. Zero with a minus sign is a double. -/
def wholeNumber (positive : Bool) (n : Nat) : Number :=
  if positive then .natural n
  else if 0 < n ∧ Int64.minValue.toInt ≤ -(n : Int) then .negative n
  else .double (signed false (Format.double.nearest n 1))

/-- Exponents are counted in 32 bits. -/
def greatestExponent : Nat := Int32.maxValue.toInt.toNat

def readExponent (positive : Bool) (significand : Nat) (start : Int) (text : List Char) :
    Except Fault (Number × List Char) :=
  let (up, text) :=
    match text with
    | '+' :: text => (true, text)
    | '-' :: text => (false, text)
    | text => (true, text)
  let digits := text.takeWhile Char.isDigit
  let rest := text.dropWhile Char.isDigit
  if digits = [] then
    .error (if text = [] then .truncated else .malformed)
  else
    let exponent := naturalOfDigits digits
    if greatestExponent < exponent then
      if significand ≠ 0 && up then .error .malformed
      else .ok (.double (signed positive 0), rest)
    else do
      let number ← fromParts positive significand
        (if up then start + exponent else start - exponent)
      return (number, rest)

/-- Reads behind the point of a fraction. Digits that do not fit any more are dropped. -/
def readFraction (positive : Bool) (significand : Nat) (start : Int) (text : List Char) :
    Except Fault (Number × List Char) :=
  let digits := text.takeWhile Char.isDigit
  let rest := text.dropWhile Char.isDigit
  if digits = [] then
    .error (if text = [] then .truncated else .malformed)
  else
    let (significand, dropped) := appendDigits significand digits
    let exponent := start - (digits.length - dropped.length : Nat)
    match rest with
    | 'e' :: rest | 'E' :: rest => readExponent positive significand exponent rest
    | rest => do return (← fromParts positive significand exponent, rest)

def readNumber (positive : Bool) (text : List Char) : Except Fault (Number × List Char) :=
  let digits := text.takeWhile Char.isDigit
  let rest := text.dropWhile Char.isDigit
  if digits = [] then
    .error (if text = [] then .truncated else .malformed)
  else if digits.head? = some '0' ∧ digits ≠ ['0'] then
    .error .malformed
  else
    let (significand, dropped) := appendDigits 0 digits
    match rest with
    | '.' :: rest => readFraction positive significand dropped.length rest
    | 'e' :: rest | 'E' :: rest => readExponent positive significand dropped.length rest
    | rest =>
        if dropped = [] then .ok (wholeNumber positive significand, rest)
        else do return (← fromParts positive significand dropped.length, rest)

namespace Number

def toInt? : Number → Option Int
  | natural n => some n
  | negative n => some (-(n : Int))
  | double _ => none

def toBits (format : Format) : Number → Nat
  | natural n => format.nearest n 1
  | negative n => format.signBit + format.nearest n 1
  | double bits =>
      match Format.double.read bits.toNat with
      | .finite below magnitude =>
          let (num, den) := magnitude.quotient
          (if below then format.signBit else 0) + format.nearest num den
      | _ => 0

end Number

end SchemaLedger.Json
