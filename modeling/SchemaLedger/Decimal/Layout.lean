import SchemaLedger.Decimal.Shortest

/-! # Decimal text

A layout says where positional writing ends and how whole numbers look. With it the digits of a
value become text.
-/

namespace SchemaLedger.Decimal

set_option autoImplicit false

structure Layout where
  /-- The positions of the point for which the number is written positionally. -/
  positional : Int → Bool
  /-- What follows a whole number in positional writing. -/
  wholeEnd : List Char
  tie : Tie

def zeros (count : Int) : List Char :=
  List.replicate count.toNat '0'

def Digits.positional (number : Digits) (wholeEnd : List Char) : List Char :=
  if number.point ≤ 0 then
    '0' :: '.' :: zeros (-number.point) ++ number.digits
  else if (number.digits.length : Int) ≤ number.point then
    number.digits ++ zeros (number.point - number.digits.length) ++ wholeEnd
  else
    number.digits.take number.point.toNat ++ '.' :: number.digits.drop number.point.toNat

def Digits.scientific (number : Digits) : List Char :=
  let exponent := number.point - 1
  number.digits.take 1 ++
    (if number.digits.length ≤ 1 then [] else '.' :: number.digits.drop 1) ++
    'e' :: (if exponent < 0 then '-' else '+') :: Nat.toDigits 10 exponent.natAbs

def Layout.magnitude (layout : Layout) (value : Magnitude) : List Char :=
  if value.mantissa = 0 then
    '0' :: layout.wholeEnd
  else
    let number := value.shortest layout.tie
    if layout.positional number.point then
      number.positional layout.wholeEnd
    else
      number.scientific

def Layout.finite (layout : Layout) (negative : Bool) (value : Magnitude) : String :=
  String.ofList ((if negative then ['-'] else []) ++ layout.magnitude value)

end SchemaLedger.Decimal
