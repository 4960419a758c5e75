import SchemaLedger.Decimal.Numeral
import SchemaLedger.Text.Parts

/-! # Lexemes of statements

A statement is cut into words, quoted names, literals and operators. Each lexeme keeps its spelling
and the byte at which it begins, because faults point to it.
-/

namespace SchemaLedger.Embedded

set_option autoImplicit false

open Decimal Text

inductive Token where
  | word (text : String)
  | name (text : String)
  | text (content : String)
  | number (numeral : Numeral)
  | blob (content : List UInt8)
  | symbol (c : Char)
  /-- A parameter, or an operator of several characters. -/
  | other
  | broken
  deriving DecidableEq

structure Lexeme where
  token : Token
  spelling : String
  offset : Nat
  deriving DecidableEq

namespace Lexeme

def isBlank (c : Char) : Bool :=
  c = ' ' || c = '\t' || c = '\n' || c = '\x0c' || c = '\r'

def isWordChar (c : Char) : Bool :=
  c.isAlphanum || c = '_' || c = '$' || '\x80' ≤ c

def symbols : List Char :=
  ['(', ')', ',', ';', '=', '*', '+', '-', '/', '.', '<', '>', '|', '&', '~', '%']

/-- Longer operators come before those that they begin with. -/
def operators : List (List Char) :=
  ["->>", "->", "||", "==", "<=", "<>", "<<", ">=", ">>", "!="].map String.toList

def hexDigit? (c : Char) : Option Nat :=
  if c.isDigit then some (c.toNat - '0'.toNat)
  else if 'a' ≤ c.toLower && c.toLower ≤ 'f' then some (c.toLower.toNat - 'a'.toNat + 10)
  else none

def digitRun (text : List Char) : Nat :=
  (text.takeWhile fun c => c.isDigit || c = '_').length

def exponentLength : List Char → Nat
  | letter :: rest =>
      if letter = 'e' || letter = 'E' then
        let signs :=
          match rest with
          | '+' :: _ | '-' :: _ => 1
          | _ => 0
        if ((rest.drop signs).head?.map Char.isDigit).getD false then
          1 + signs + digitRun (rest.drop signs)
        else
          0
      else
        0
  | [] => 0

def numberLength (text : List Char) : Nat :=
  let whole := digitRun text
  let fraction :=
    match text.drop whole with
    | '.' :: rest => 1 + digitRun rest
    | _ => 0
  whole + fraction + exponentLength (text.drop (whole + fraction))

def withoutSeparators? (isDigit : Char → Bool) : List Char → Option (List Char)
  | a :: '_' :: b :: rest =>
      if isDigit a && isDigit b then (withoutSeparators? isDigit (b :: rest)).map (a :: ·) else none
  | '_' :: _ | _ :: '_' :: _ => none
  | a :: rest => (withoutSeparators? isDigit rest).map (a :: ·)
  | [] => some []

/-- An integer of 64 bits from its hexadecimal digits. The highest bit is the sign. -/
def hexNumeral? (digits : List Char) : Option Numeral := do
  let n := (← digits.mapM hexDigit?).foldl (fun n digit => 16 * n + digit) 0
  if n < UInt64.size then
    let signed := Int64.ofInt n
    return ⟨signed < 0, signed.toInt.natAbs, 0, true⟩
  else
    none

def hexDigits? : List Char → Option (List Char)
  | '0' :: x :: c :: rest =>
      if (x = 'x' || x = 'X') && (hexDigit? c).isSome then
        some (c :: rest.takeWhile fun c => (hexDigit? c).isSome || c = '_')
      else
        none
  | _ => none

/-- A number with a word directly behind it is none. -/
def number (text : List Char) : Token × Nat :=
  let (length, numeral) :=
    match hexDigits? text with
    | some digits =>
        (digits.length + 2, (withoutSeparators? (fun c => (hexDigit? c).isSome) digits).bind hexNumeral?)
    | none =>
        let length := numberLength text
        (length, (withoutSeparators? Char.isDigit (text.take length)).bind Numeral.ofText?)
  let tail := ((text.drop length).takeWhile isWordChar).length
  match tail, numeral with
  | 0, some numeral => (.number numeral, length)
  | _, _ => (.broken, length + tail)

def bytes? : List Char → Option (List UInt8)
  | [] => some []
  | [_] => none
  | high :: low :: rest => do
      return (16 * (← hexDigit? high) + (← hexDigit? low)).toUInt8 :: (← bytes? rest)

def blob (text : List Char) : Token × Nat :=
  let digits := text.takeWhile (· ≠ '\'')
  match bytes? digits, text.drop digits.length with
  | some content, _ :: _ => (.blob content, digits.length + 1)
  | _, _ => (.broken, digits.length + 1)

def bracketed (rest : List Char) : Token × Nat :=
  let name := rest.takeWhile (· ≠ ']')
  match rest.drop name.length with
  | [] => (.broken, name.length)
  | _ :: _ => (.name (String.ofList name), name.length + 1)

def operator (c : Char) (rest : List Char) : Token × Nat :=
  match operators.find? (·.isPrefixOf (c :: rest)) with
  | some text => (if text = ['=', '='] then .symbol '=' else .other, text.length - 1)
  | none => (if c ∈ symbols then .symbol c else .broken, 0)

def parameter (c : Char) (rest : List Char) : Token × Nat :=
  if c = '?' then
    (.other, (rest.takeWhile Char.isDigit).length)
  else
    let word := rest.takeWhile isWordChar
    (if word = [] then .broken else .other, word.length)

def quoted (quote : Char) (rest : List Char) : Token × Nat :=
  match readDoubled? quote rest with
  | some (content, left) =>
      let content := String.ofList content
      (if quote = '\'' then .text content else .name content, rest.length - left.length)
  | none => (.broken, rest.length)

/-- The token that begins with `c`, which is no blank, and how many of the characters behind `c`
belong to it. -/
def tokenAt (c : Char) (rest : List Char) : Token × Nat :=
  if c = '\'' || c = '"' || c = '\x60' then
    quoted c rest
  else if c.isDigit || (c = '.' && (rest.head?.map Char.isDigit).getD false) then
    let (token, length) := number (c :: rest)
    (token, length - 1)
  else if (c = 'x' || c = 'X') && rest.head? = some '\'' then
    let (token, length) := blob (rest.drop 1)
    (token, length + 1)
  else if c = '[' then
    bracketed rest
  else if c ∈ ['?', '$', '@', '#', ':'] then
    parameter c rest
  else if isWordChar c then
    let tail := rest.takeWhile isWordChar
    (.word (String.ofList (c :: tail)), tail.length)
  else
    operator c rest

def commentLength : List Char → Nat
  | '*' :: '/' :: _ => 2
  | _ :: rest => commentLength rest + 1
  | [] => 0

/-- How many characters behind `c` belong to the same blanks or the same comment, or nothing where
neither begins. A mark of byte order is blank. -/
def gapLength? (c : Char) (rest : List Char) : Option Nat :=
  if isBlank c then
    some (rest.takeWhile fun c => isBlank c || c = '\x0b').length
  else if c = '\uFEFF' then
    some 0
  else
    match c, rest with
    | '-', '-' :: rest => some ((rest.takeWhile (· ≠ '\n')).length + 1)
    | '/', '*' :: c :: rest => some (commentLength (c :: rest) + 1)
    | _, _ => none

def scan (offset : Nat) : List Char → List Lexeme
  | [] => []
  | c :: rest =>
      match gapLength? c rest with
      | some length =>
          scan (offset + (String.ofList (c :: rest.take length)).utf8ByteSize) (rest.drop length)
      | none =>
          let (token, length) := tokenAt c rest
          let spelling := String.ofList (c :: rest.take length)
          ⟨token, spelling, offset⟩ :: scan (offset + spelling.utf8ByteSize) (rest.drop length)
termination_by text => text.length
decreasing_by all_goals (simp only [List.length_cons, List.length_drop]; omega)

def statementText (statement : String) : List Char :=
  statement.toList.takeWhile (· ≠ '\x00')

def ofStatement (statement : String) : List Lexeme :=
  scan 0 (statementText statement)

def between (first last : Nat) : Nat → List Char → List Char
  | _, [] => []
  | offset, c :: rest =>
      let tail := between first last (offset + c.utf8Size) rest
      if first ≤ offset ∧ offset < last then c :: tail else tail

/-- The text of a statement from one lexeme up to the next one that is given, or to the end, without
blanks at its end. -/
def spellingBetween (statement : String) (first : Lexeme) (next : Option Lexeme) : String :=
  let text := statementText statement
  let last := (next.map (·.offset)).getD (String.ofList text).utf8ByteSize
  let spelling := between first.offset last 0 text
  String.ofList (spelling.reverse.dropWhile fun c => isBlank c || c = '\x0b').reverse

end Lexeme

end SchemaLedger.Embedded
