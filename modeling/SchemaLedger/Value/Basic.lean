import SchemaLedger.Decimal.Layout
import SchemaLedger.Text.Casing
import SchemaLedger.Text.CharacterSets
import SchemaLedger.Text.Integer
import SchemaLedger.Text.Utf8

/-! # Values

A scalar as attribute bags, column defaults and result rows carry it. Floating-point values are held
by their bits, so that every value can be told apart from every other.
-/

namespace SchemaLedger

set_option autoImplicit false

open Decimal Text

inductive Value where
  | null
  | bool (flag : Bool)
  | int (n : Int32)
  | long (n : Int64)
  | float (bits : UInt32)
  | double (bits : UInt64)
  | text (content : String)
  | bytes (content : List UInt8)
  | timestamp (seconds : Int64)
  deriving DecidableEq

namespace Value

def isNull : Value → Bool
  | null => true
  | _ => false

def typeName : Value → String
  | null => "null"
  | bool _ => "bool"
  | int _ => "int"
  | long _ => "long"
  | float _ => "float"
  | double _ => "double"
  | text _ => "string"
  | bytes _ => "bytes"
  | timestamp _ => "timestamp"

def asBool? : Value → Option Bool
  | bool flag => some flag
  | int n => some (n ≠ 0)
  | long n => some (n ≠ 0)
  | text content =>
      let word := lower content
      if ["true", "1", "yes"].contains word then some true
      else if ["false", "0", "no", ""].contains word then some false
      else none
  | _ => none

/-- The value as a whole number. A text counts when it is one between white space. -/
def asLong? : Value → Option Int64
  | long n => some n
  | timestamp seconds => some seconds
  | int n => some (Int64.ofInt n.toInt)
  | bool flag => some (if flag then 1 else 0)
  | text content => readInt64? (trimBlank content.toList)
  | _ => none

def asText? : Value → Option String
  | text content => some content
  | _ => none

/-- Numbers inside statements are written positionally, whole numbers without a point. -/
def statementLayout : Layout where
  positional _ := true
  wholeEnd := []
  tie := .up

def floatingText : Reading → String
  | .nan => "NaN"
  | .infinite negative => if negative then "-inf" else "inf"
  | .finite negative magnitude => statementLayout.finite negative magnitude

/-- The value as a statement quotes it. -/
def sqlText : Value → String
  | null => ""
  | bool flag => if flag then "1" else "0"
  | int n => toString n.toInt
  | long n => toString n.toInt
  | timestamp seconds => toString seconds.toInt
  | float bits => floatingText (Format.single.read bits.toNat)
  | double bits => floatingText (Format.double.read bits.toNat)
  | text content => content
  | bytes content => ofUtf8Lossy content

/-- Floating-point equality: both zeros are equal, and NaN equals nothing. -/
def sameNumber (format : Format) (a b : Nat) : Bool :=
  match format.read a, format.read b with
  | .nan, _ => false
  | _, .nan => false
  | .finite _ ⟨0, _, _⟩, .finite _ ⟨0, _, _⟩ => true
  | _, _ => a = b

def same : Value → Value → Bool
  | float a, float b => sameNumber .single a.toNat b.toNat
  | double a, double b => sameNumber .double a.toNat b.toNat
  | a, b => a = b

end Value

instance : Coe Bool Value := ⟨.bool⟩
instance : Coe Int32 Value := ⟨.int⟩
instance : Coe Int64 Value := ⟨.long⟩
instance : Coe String Value := ⟨.text⟩

/-- An unsigned number of 32 bits is kept as a long. -/
instance : Coe UInt32 Value := ⟨fun n => .long (Int64.ofNat n.toNat)⟩

def Value.ofOption {α : Type} (toValue : α → Value) : Option α → Value
  | some a => toValue a
  | none => .null

end SchemaLedger
