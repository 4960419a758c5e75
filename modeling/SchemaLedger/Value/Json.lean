import SchemaLedger.Json.Scan
import SchemaLedger.Json.Writer
import SchemaLedger.Value.Basic

/-! # Values as JSON

A value is an object with one member, named for the kind of the value; Null is its name alone.
-/

namespace SchemaLedger.Value

set_option autoImplicit false

open Decimal Json

inductive Kind where
  | null
  | bool
  | int
  | long
  | float
  | double
  | text
  | bytes
  | timestamp
  deriving DecidableEq

namespace Kind

def name : Kind → String
  | null => "Null"
  | bool => "Bool"
  | int => "Int"
  | long => "Long"
  | float => "Float"
  | double => "Double"
  | text => "String"
  | bytes => "Bytes"
  | timestamp => "Timestamp"

def all : List Kind :=
  [null, bool, int, long, float, double, text, bytes, timestamp]

def ofName? (name : String) : Option Kind :=
  all.find? (·.name == name)

end Kind

def int64Scan : Scan Int64 :=
  Int64.ofInt <$> Scan.integer Int64.minValue.toInt Int64.maxValue.toInt

/-- The content of a value of the given kind. -/
def contentScan : Kind → Scan Value
  | .null => (fun _ => .null) <$> Scan.null
  | .bool => .bool <$> Scan.boolean
  | .int => (fun n => .int (Int32.ofInt n)) <$>
      Scan.integer Int32.minValue.toInt Int32.maxValue.toInt
  | .long => .long <$> int64Scan
  | .float => (fun number => .float (number.toBits .single).toUInt32) <$> Scan.anyNumber
  | .double => (fun number => .double (number.toBits .double).toUInt64) <$> Scan.anyNumber
  | .text => .text <$> Scan.text
  | .bytes => .bytes <$> Scan.array ((fun n => n.toNat.toUInt8) <$> Scan.integer 0 255)
  | .timestamp => .timestamp <$> int64Scan

/-- The name of a kind; another text has no meaning here. -/
def kindScan : Scan Kind := do
  match Kind.ofName? (← Scan.text) with
  | some kind => return kind
  | none => throw .mismatched

def scan : Scan Value := do
  let c ← Scan.require
  if c = '\x7b' then
    Scan.skip
    if (← Scan.require) ≠ '"' then throw .malformed
    let kind ← kindScan
    Scan.colon
    let value ← contentScan kind
    if (← Scan.require) = '\x7d' then
      Scan.skip
      return value
    else
      throw .malformed
  else if c = '"' then
    match ← kindScan with
    | .null => return .null
    | _ => throw .mismatched
  else
    throw .malformed

def ofJson? (text : String) : Except Fault Value :=
  scan.readAll text

def toJson : Value → String
  | null => ofText Kind.null.name
  | bool flag => ofMembers [(Kind.bool.name, ofBool flag)]
  | int n => ofMembers [(Kind.int.name, toString n.toInt)]
  | long n => ofMembers [(Kind.long.name, toString n.toInt)]
  | float bits =>
      ofMembers [(Kind.float.name, ofReading singleLayout (Format.single.read bits.toNat))]
  | double bits =>
      ofMembers [(Kind.double.name, ofReading doubleLayout (Format.double.read bits.toNat))]
  | text content => ofMembers [(Kind.text.name, ofText content)]
  | bytes content =>
      ofMembers [(Kind.bytes.name, ofItems (content.map fun byte => toString byte.toNat))]
  | timestamp seconds => ofMembers [(Kind.timestamp.name, toString seconds.toInt)]

end SchemaLedger.Value
