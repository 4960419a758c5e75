import SchemaLedger.Json.Number

/-! # Reading JSON from left to right

The reader follows `serde_json`, which configurations and values are read with: standard syntax,
escapes and surrogate pairs, and 64-bit integers exactly. A scan takes what it needs from the
beginning of a text and reports the first fault that it meets. Values that nobody asks for are
skipped by their syntax alone.
-/

namespace SchemaLedger.Json

set_option autoImplicit false

abbrev Scan := StateT (List Char) (Except Fault)

namespace Scan

variable {α : Type}

def isBlank (c : Char) : Bool :=
  c = ' ' || c = '\n' || c = '\t' || c = '\r'

def skipBlank : Scan Unit :=
  modify (·.dropWhile isBlank)

def peek : Scan (Option Char) := do
  skipBlank
  return (← get).head?

def skip : Scan Unit :=
  modify (·.drop 1)

def require : Scan Char := do
  match ← peek with
  | some c => return c
  | none => throw .truncated

def word : List Char → Scan Unit
  | [] => pure ()
  | expected :: rest => do
      match ← get with
      | [] => throw .truncated
      | c :: text =>
          if c = expected then
            set text
            word rest
          else
            throw .malformed

def hexDigit? (c : Char) : Option Nat :=
  if c.isDigit then some (c.toNat - '0'.toNat)
  else if 'a' ≤ c && c ≤ 'f' then some (c.toNat - 'a'.toNat + 10)
  else if 'A' ≤ c && c ≤ 'F' then some (c.toNat - 'A'.toNat + 10)
  else none

/-- Four hexadecimal digits. The text counts as ended when fewer than four bytes are left. -/
def hexCode (text : List Char) : Except Fault (Nat × List Char) :=
  match text with
  | a :: b :: c :: d :: rest =>
      match hexDigit? a, hexDigit? b, hexDigit? c, hexDigit? d with
      | some a, some b, some c, some d => .ok (((a * 16 + b) * 16 + c) * 16 + d, rest)
      | _, _, _, _ => .error .malformed
  | text => .error (if (String.ofList text).utf8ByteSize < 4 then .truncated else .malformed)

def isLeading (code : Nat) : Bool :=
  0xD800 ≤ code && code ≤ 0xDBFF

def isTrailing (code : Nat) : Bool :=
  0xDC00 ≤ code && code ≤ 0xDFFF

/-- The character of a numbered escape, read behind its letter. Two numbers make one character when
the first is a leading surrogate, and then the second must be a trailing one. -/
def codeEscape (text : List Char) : Except Fault (Char × List Char) := do
  let (code, rest) ← hexCode text
  if isTrailing code then
    throw .malformed
  else if isLeading code then
    match rest with
    | '\\' :: 'u' :: rest => do
        let (second, rest) ← hexCode rest
        if isTrailing second then
          return (Char.ofNat (0x10000 + (code - 0xD800) * 0x400 + (second - 0xDC00)), rest)
        else
          throw .malformed
    | [] | ['\\'] => throw .truncated
    | _ => throw .malformed
  else
    return (Char.ofNat code, rest)

def letterEscape? : Char → Option Char
  | '"' => some '"'
  | '\\' => some '\\'
  | '/' => some '/'
  | 'b' => some '\x08'
  | 'f' => some '\x0C'
  | 'n' => some '\n'
  | 'r' => some '\r'
  | 't' => some '\t'
  | _ => none

def escape : List Char → Except Fault (Char × List Char)
  | [] => .error .truncated
  | 'u' :: rest => codeEscape rest
  | c :: rest =>
      match letterEscape? c with
      | some c => .ok (c, rest)
      | none => .error .malformed

def passEscape : List Char → Except Fault (List Char)
  | [] => .error .truncated
  | 'u' :: rest => do return (← hexCode rest).2
  | c :: rest => if (letterEscape? c).isSome then .ok rest else .error .malformed

/-- The rest of a string and what follows its closing quote. The bound on steps is never met when it
is the length of the text. -/
def stringFrom : Nat → List Char → List Char → Except Fault (List Char × List Char)
  | _, _, [] => .error .truncated
  | 0, _, _ => .error .truncated
  | steps + 1, read, c :: text =>
      if c = '"' then
        .ok (read.reverse, text)
      else if c = '\\' then
        match escape text with
        | .error fault => .error fault
        | .ok (c, rest) => stringFrom steps (c :: read) rest
      else if c.toNat < 0x20 then
        .error .malformed
      else
        stringFrom steps (c :: read) text

def string : Scan String := do
  let text ← get
  let (content, rest) ← stringFrom text.length [] text
  set rest
  return String.ofList content

def passStringFrom : Nat → List Char → Except Fault (List Char)
  | _, [] => .error .truncated
  | 0, _ => .error .truncated
  | steps + 1, c :: text =>
      if c = '"' then
        .ok text
      else if c = '\\' then
        match passEscape text with
        | .error fault => .error fault
        | .ok rest => passStringFrom steps rest
      else if c.toNat < 0x20 then
        .error .malformed
      else
        passStringFrom steps text

def passString : Scan Unit := do
  let text ← get
  set (← passStringFrom text.length text)

def number : Scan Number := do
  let c ← require
  if c = '-' then skip
  let (number, rest) ← readNumber (c ≠ '-') (← get)
  set rest
  return number

/-- Fails because a value of another kind stands here. A simple value is read first, and its own
fault comes before this one. -/
def mismatch : Scan α := do
  let c ← require
  if c = 'n' then
    word "null".toList
  else if c = 't' then
    word "true".toList
  else if c = 'f' then
    word "false".toList
  else if c = '"' then
    skip
    let _ ← string
  else if c = '-' || c.isDigit then
    let _ ← number
  else if c ≠ '[' && c ≠ '\x7b' then
    throw .malformed
  throw .mismatched

def passNumber : Scan Unit := do
  if (← get).head? = some '-' then skip
  let digits := (← get).takeWhile Char.isDigit
  if digits = [] || digits.head? = some '0' && digits.length ≠ 1 then throw .malformed
  modify (·.dropWhile Char.isDigit)
  if (← get).head? = some '.' then
    skip
    if (← get).takeWhile Char.isDigit = [] then throw .malformed
    modify (·.dropWhile Char.isDigit)
  if (← get).head? = some 'e' || (← get).head? = some 'E' then
    skip
    if (← get).head? = some '+' || (← get).head? = some '-' then skip
    if (← get).takeWhile Char.isDigit = [] then throw .malformed
    modify (·.dropWhile Char.isDigit)

mutual

/-- Passes over any value. A value and what surrounds it take two steps for each character at
most. -/
def passValue : Nat → Scan Unit
  | 0 => throw .truncated
  | steps + 1 => do
      let c ← require
      if c = 'n' then
        word "null".toList
      else if c = 't' then
        word "true".toList
      else if c = 'f' then
        word "false".toList
      else if c = '"' then
        skip
        passString
      else if c = '-' || c.isDigit then
        passNumber
      else if c = '[' then
        skip
        if (← require) = ']' then skip else passItems steps
      else if c = '\x7b' then
        skip
        if (← require) = '\x7d' then skip else passMembers steps
      else
        throw .malformed

def passItems : Nat → Scan Unit
  | 0 => throw .truncated
  | steps + 1 => do
      passValue steps
      let c ← require
      if c = ',' then
        skip
        passItems steps
      else if c = ']' then
        skip
      else
        throw .malformed

def passMembers : Nat → Scan Unit
  | 0 => throw .truncated
  | steps + 1 => do
      if (← require) ≠ '"' then throw .malformed
      skip
      passString
      if (← require) ≠ ':' then throw .malformed
      skip
      passValue steps
      let c ← require
      if c = ',' then
        skip
        passMembers steps
      else if c = '\x7d' then
        skip
      else
        throw .malformed

end

def ignored : Scan Unit := do
  -- brackets may nest to any depth
  passValue (2 * (← get).length + 1)

def boolean : Scan Bool := do
  let c ← require
  if c = 't' then
    word "true".toList
    return true
  else if c = 'f' then
    word "false".toList
    return false
  else
    mismatch

def anyNumber : Scan Number := do
  let c ← require
  if c = '-' || c.isDigit then number else mismatch

def integer (least greatest : Int) : Scan Int := do
  match (← anyNumber).toInt? with
  | some n => if least ≤ n ∧ n ≤ greatest then return n else throw .mismatched
  | none => throw .mismatched

def text : Scan String := do
  if (← require) = '"' then
    skip
    string
  else
    mismatch

def null : Scan Unit := do
  if (← require) = 'n' then word "null".toList else mismatch

def colon : Scan Unit := do
  if (← require) = ':' then skip else throw .malformed

/-- Whether a further item of an array follows; commas stand between items only. -/
def nextItem (first : Bool) : Scan Bool := do
  let c ← require
  if c = ']' then
    return false
  else if first then
    return true
  else if c = ',' then
    skip
    if (← require) = ']' then throw .malformed
    return true
  else
    throw .malformed

def endItems : Scan Unit := do
  if (← require) = ']' then skip else throw .malformed

def items (item : Scan α) : Nat → Bool → Scan (List α)
  | 0, _ => throw .truncated
  | steps + 1, first => do
      if ← nextItem first then
        return (← item) :: (← items item steps false)
      else
        endItems
        return []

def array (item : Scan α) : Scan (List α) := do
  if (← require) = '[' then
    skip
    items item ((← get).length + 1) true
  else
    mismatch

def readAll (scan : Scan α) (text : String) : Except Fault α := do
  let (result, rest) ← scan text.toList
  if rest.all isBlank then return result else throw .malformed

end Scan

end SchemaLedger.Json
