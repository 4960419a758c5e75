import SchemaLedger.Decimal.Binary

/-! # Shortest decimals

The fewest decimal digits that read back to a given binary value, and among those the ones closest
to it. Everything is decided by exact comparisons of naturals.
-/

namespace SchemaLedger.Decimal

set_option autoImplicit false

inductive Tie where
  | toEven
  | up
  deriving DecidableEq

/-- The number `0.d₁d₂d₃… * 10 ^ point`. -/
structure Digits where
  digits : List Char
  point : Int
  deriving DecidableEq

def compareScaled (a : Nat) (i : Int) (b : Nat) (j : Int) : Ordering :=
  compare (a * Nat.pow 10 i.toNat * Nat.pow 2 (-j).toNat) (b * Nat.pow 2 j.toNat * Nat.pow 10 (-i).toNat)

/-- Whether `candidate * 10 ^ grid` lies among the reals that round to the value. The ends of that
interval belong to it when the mantissa is even. -/
def Magnitude.readsBack (value : Magnitude) (candidate : Nat) (grid : Int) : Bool :=
  let below := if value.narrowBelow then 4 * value.mantissa - 1 else 4 * value.mantissa - 2
  let above := 4 * value.mantissa + 2
  let closed := value.mantissa % 2 = 0
  let low := compareScaled candidate grid below (value.exponent - 2)
  let high := compareScaled candidate grid above (value.exponent - 2)
  (low = .gt || closed && low = .eq) && (high = .lt || closed && high = .eq)

def Magnitude.decimalPoint (value : Magnitude) : Int :=
  let (num, den) := value.quotient
  if den ≤ num then
    ((Nat.toDigits 10 (num / den)).length : Int)
  else
    1 - ((Nat.toDigits 10 ((den - 1) / num)).length : Int)

/-- The neighbour of the value on the grid of multiples of `10 ^ grid` that reads back, if one does;
of two, the closer one. -/
def Magnitude.onGrid? (value : Magnitude) (tie : Tie) (grid : Int) : Option Nat :=
  let (num, den) := value.quotient
  let floor := num * Nat.pow 10 (-grid).toNat / (den * Nat.pow 10 grid.toNat)
  match value.readsBack floor grid, value.readsBack (floor + 1) grid with
  | false, false => none
  | true, false => some floor
  | false, true => some (floor + 1)
  | true, true =>
      match compareScaled (2 * floor + 1) grid (2 * value.mantissa) value.exponent, tie with
      | .gt, _ => some floor
      | .lt, _ => some (floor + 1)
      | .eq, .up => some (floor + 1)
      | .eq, .toEven => some (floor + floor % 2)

def Digits.ofScaled (n : Nat) (exponent : Int) : Digits :=
  let digits := Nat.toDigits 10 n
  ⟨(digits.reverse.dropWhile (· = '0')).reverse, digits.length + exponent⟩

def Magnitude.exact (value : Magnitude) : Digits :=
  .ofScaled (value.mantissa * Nat.pow 2 value.exponent.toNat * Nat.pow 5 (-value.exponent).toNat)
    (-((-value.exponent).toNat : Int))

def Magnitude.shortest (value : Magnitude) (tie : Tie) : Digits :=
  let point := value.decimalPoint
  -- seventeen digits always suffice
  let found := (List.range 17).findSome? fun (n : Nat) =>
    (value.onGrid? tie (point - (n + 1 : Nat))).map fun candidate =>
      (candidate, point - (n + 1 : Nat))
  match found with
  | some (candidate, grid) => .ofScaled candidate grid
  | none => value.exact

end SchemaLedger.Decimal
