import SchemaLedger.Decimal.Numeral
import SchemaLedger.Embedded.RealText
import SchemaLedger.Text.Parts
import SchemaLedger.Value.Basic

/-! # Data of the embedded database

A stored datum is of one of five kinds. Statements write almost all data as quoted text; the column
that receives a datum, or that it is compared with, converts it according to the affinity of its
type.
-/

namespace SchemaLedger.Embedded

set_option autoImplicit false

open Decimal Text

inductive Datum where
  | null
  | integer (n : Int64)
  | real (bits : UInt64)
  | text (content : String)
  | blob (content : List UInt8)
  deriving DecidableEq

inductive Affinity where
  | integer
  | text
  | blob
  | real
  | numeric
  deriving DecidableEq

inductive Collation where
  | binary
  | ignoringCase
  | ignoringEnd
  deriving DecidableEq

namespace Affinity

def mentions (type : String) (words : List String) : Bool :=
  words.any fun word => occursIn word.toList type.toLower.toList

/-- The affinity of a column with the given type. Of several words in it the first one here
counts. -/
def ofType (type : String) : Affinity :=
  if mentions type ["int"] then integer
  else if mentions type ["char", "clob", "text"] then text
  else if mentions type ["blob"] || type.isEmpty then blob
  else if mentions type ["real", "floa", "doub"] then real
  else numeric

end Affinity

namespace Collation

def ofName? (name : String) : Option Collation :=
  match name.toLower with
  | "binary" => some binary
  | "nocase" => some ignoringCase
  | "rtrim" => some ignoringEnd
  | _ => none

def key (collation : Collation) (content : String) : String :=
  match collation with
  | binary => content
  | ignoringCase => content.toLower
  | ignoringEnd => String.ofList (content.toList.reverse.dropWhile (· = ' ')).reverse

end Collation

namespace Datum

def value : Datum → Value
  | null => .null
  | integer n => .long n
  | real bits => .double bits
  | text content => .text content
  | blob content => .bytes content

def wholeOfReal? (bits : UInt64) : Option Int64 :=
  match Format.double.read bits.toNat with
  | .finite negative magnitude =>
      let (num, den) := magnitude.quotient
      if num % den = 0 ∧ num / den ≤ Int64.maxValue.toInt.toNat then
        some (Int64.ofInt (if negative then -((num / den : Nat) : Int) else (num / den : Nat)))
      else
        none
  | _ => none

def ofReal (bits : UInt64) : Datum :=
  ((wholeOfReal? bits).map integer).getD (real bits)

def realOfWhole (n : Int64) : UInt64 :=
  (Format.double.withSign (n < 0) (Format.double.nearest n.toInt.natAbs 1)).toUInt64

def ofNumeral (numeral : Numeral) : Datum :=
  let approximate := ofReal numeral.toDouble.toUInt64
  if numeral.plain then ((int64? numeral.toInt).map integer).getD approximate else approximate

def isNumeralBlank (c : Char) : Bool :=
  c = ' ' || ('\t' ≤ c && c ≤ '\r')

def trimNumeral (text : List Char) : List Char :=
  (((text.dropWhile isNumeralBlank).reverse).dropWhile isNumeralBlank).reverse

/-- A text that is a numeral becomes a number, and a whole double becomes an integer. -/
def numeric : Datum → Datum
  | text content =>
      ((Numeral.ofText? (trimNumeral content.toList)).map ofNumeral).getD (text content)
  | real bits => ofReal bits
  | datum => datum

def whole? (datum : Datum) : Option Int64 :=
  match datum.numeric with
  | integer n => some n
  | _ => none

def storedAs (affinity : Affinity) (datum : Datum) : Datum :=
  match affinity with
  | .blob => datum
  | .integer | .numeric => datum.numeric
  | .text =>
      match datum with
      | integer n => text (toString n.toInt)
      | real bits => text (realText bits)
      | datum => datum
  | .real =>
      match datum.numeric with
      | integer n => real (realOfWhole n)
      | datum => datum

/-- The datum as it is compared with a column of the given affinity. -/
def comparedWith (affinity : Affinity) (datum : Datum) : Datum :=
  match affinity with
  | .real => datum.numeric
  | affinity => datum.storedAs affinity

def sameAmount (n : Int64) (bits : UInt64) : Bool :=
  match Format.double.read bits.toNat with
  | .finite negative magnitude =>
      let (num, den) := magnitude.quotient
      (if negative then -(num : Int) else num) = n.toInt * den
  | _ => false

/-- Equality of data other than Null, which equals nothing. -/
def equals (collation : Collation) : Datum → Datum → Bool
  | integer n, integer m => n = m
  | real a, real b => Value.sameNumber .double a.toNat b.toNat
  | integer n, real bits | real bits, integer n => sameAmount n bits
  | text a, text b => collation.key a = collation.key b
  | blob a, blob b => a = b
  | _, _ => false

end Datum

end SchemaLedger.Embedded
