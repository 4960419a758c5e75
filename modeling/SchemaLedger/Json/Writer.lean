import SchemaLedger.Decimal.Layout

/-! # Writing JSON

The writer follows `serde_json` in its compact form: texts without blanks, in which of all
characters only the quote, the backslash and the control characters are escaped.
-/

namespace SchemaLedger.Json

set_option autoImplicit false

open Decimal

def hexDigit (n : Nat) : Char :=
  "0123456789abcdef".toList.getD n '0'

def escaped (c : Char) : List Char :=
  if c = '"' then ['\\', '"']
  else if c = '\\' then ['\\', '\\']
  else if c = '\n' then ['\\', 'n']
  else if c = '\r' then ['\\', 'r']
  else if c = '\t' then ['\\', 't']
  else if c = '\x08' then ['\\', 'b']
  else if c = '\x0C' then ['\\', 'f']
  else if c.toNat < 0x20 then
    ['\\', 'u', '0', '0', hexDigit (c.toNat / 16), hexDigit (c.toNat % 16)]
  else [c]

def ofText (text : String) : String :=
  String.ofList ('"' :: text.toList.flatMap escaped ++ ['"'])

def ofBool (flag : Bool) : String :=
  if flag then "true" else "false"

def ofItems : List String → String
  | [] => "[]"
  | item :: items => "[" ++ items.foldl (fun text item => text ++ "," ++ item) item ++ "]"

def ofMembers : List (String × String) → String
  | [] => "\x7b\x7d"
  | (key, value) :: members =>
      "\x7b" ++ members.foldl (fun text (key, value) => text ++ "," ++ ofText key ++ ":" ++ value)
        (ofText key ++ ":" ++ value) ++ "\x7d"

/-- Singles are written positionally from 0.000001 up to thirteen digits before the point. -/
def singleLayout : Layout where
  positional point := -6 < point && point ≤ 13
  wholeEnd := ['.', '0']
  tie := .toEven

/-- Doubles are written positionally from 0.00001 up to sixteen digits before the point. -/
def doubleLayout : Layout where
  positional point := -5 < point && point ≤ 16
  wholeEnd := ['.', '0']
  tie := .toEven

def ofReading (layout : Layout) : Reading → String
  | .finite negative magnitude => layout.finite negative magnitude
  | _ => "null"

end SchemaLedger.Json
