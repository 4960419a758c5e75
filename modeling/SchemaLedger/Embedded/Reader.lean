import SchemaLedger.Embedded.Datum
import SchemaLedger.Embedded.Fault

/-! # Reading lexemes

A reader takes lexemes from the front of those that are left, or refuses the next one. Here are the
readers of what all statements are made of: keywords, names, lists and literals.
-/

namespace SchemaLedger.Embedded

set_option autoImplicit false

open Decimal Text

abbrev Reader := StateT (List Lexeme) (Except Fault)

namespace Reader

variable {α : Type}

def reject : Reader α := do
  match ← get with
  | [] => throw .incomplete
  | lexeme :: _ =>
      throw (if lexeme.token = .broken then .unrecognized lexeme else .unexpected lexeme)

def next? (f : Lexeme → Option α) : Reader (Option α) := do
  match ← get with
  | [] => return none
  | lexeme :: rest =>
      match f lexeme with
      | none => return none
      | some a =>
          set rest
          return some a

def next (f : Lexeme → Option α) : Reader α := do
  match ← next? f with
  | some a => return a
  | none => reject

def peek : Reader (Option Lexeme) := do
  return (← get).head?

/-- Words that cannot be names without quotes. -/
def reservedWords : List String :=
  ["add", "all", "alter", "and", "as", "autoincrement", "between", "case", "check", "collate", "commit",
    "constraint", "create", "default", "deferrable", "delete", "distinct", "drop", "else", "escape", "except",
    "exists", "foreign", "from", "group", "having", "in", "index", "insert", "intersect", "into", "is",
    "isnull", "join", "limit", "not", "nothing", "notnull", "null", "on", "or", "order", "primary",
    "references", "returning", "select", "set", "table", "then", "to", "transaction", "union", "unique",
    "update", "using", "values", "when", "where"]

/-- Words that can be names of tables and columns, but nothing else, without quotes. -/
def joinWords : List String :=
  ["cross", "full", "inner", "left", "natural", "outer", "right", "indexed"]

def isKeyword (word : String) (lexeme : Lexeme) : Bool :=
  match lexeme.token with
  | .word text => text.toLower = word
  | _ => false

def keyword? (word : String) : Reader Bool := do
  return (← next? fun lexeme => if isKeyword word lexeme then some () else none).isSome

def keyword (word : String) : Reader Unit :=
  next fun lexeme => if isKeyword word lexeme then some () else none

/-- All of the keywords, or none where the first does not stand. -/
def keywords? : List String → Reader Bool
  | [] => return true
  | word :: rest => do
      if ← keyword? word then
        rest.forM keyword
        return true
      else
        return false

def symbol? (c : Char) : Reader Bool := do
  return (← next? fun lexeme => if lexeme.token = .symbol c then some () else none).isSome

def symbol (c : Char) : Reader Unit :=
  next fun lexeme => if lexeme.token = .symbol c then some () else none

structure Name where
  text : String
  lexeme : Lexeme
  deriving DecidableEq

def name? (lexeme : Lexeme) : Option Name :=
  match lexeme.token with
  | .name text | .text text => some ⟨text, lexeme⟩
  | .word text => if text.toLower ∈ reservedWords then none else some ⟨text, lexeme⟩
  | _ => none

def name : Reader Name :=
  next name?

def plainName? (lexeme : Lexeme) : Option Name :=
  if joinWords.any (isKeyword · lexeme) then none else name? lexeme

def separatedFrom (item : Reader α) (separator : Reader Bool) : Nat → Reader (List α)
  | 0 => return []
  | bound + 1 => do
      let first ← item
      if ← separator then
        return first :: (← separatedFrom item separator bound)
      else
        return [first]

def separated (item : Reader α) (separator : Reader Bool) : Reader (List α) := do
  -- there are no more items than lexemes
  separatedFrom item separator ((← get).length + 1)

def commaSeparated (item : Reader α) : Reader (List α) :=
  separated item (symbol? ',')

def parenthesized (item : Reader α) : Reader (List α) := do
  symbol '('
  let items ← commaSeparated item
  symbol ')'
  return items

structure Literal where
  datum : Datum
  /-- How a number is written that is no integer of 64 bits. -/
  spelling : Option String := none

/-- The form that a column takes for records which were there before it. Those keep a number in a
column of texts as it is written. -/
def Literal.earlier (literal : Literal) (affinity : Affinity) : Datum :=
  match literal.spelling, affinity with
  | some spelling, .text => .text spelling
  | _, affinity => literal.datum.storedAs affinity

def numeral? (lexeme : Lexeme) : Option Numeral :=
  match lexeme.token with
  | .number numeral => some numeral
  | _ => none

/-- A numeral outside quotes is a double when it has a point or an exponent. A sign is kept on zeros
that are no integers. -/
def numberLiteral (negative : Bool) (lexeme : Lexeme) (numeral : Numeral) : Literal :=
  let signed := { numeral with negative := negative != numeral.negative }
  let whole := numeral.plain && (int64? numeral.toInt).isSome
  { datum := if numeral.plain then Datum.ofNumeral signed else .real signed.toDouble.toUInt64
    spelling := if whole then none else some ((if negative then "-" else "") ++ lexeme.spelling) }

def plainLiteral? (negative : Bool) (lexeme : Lexeme) : Option Literal :=
  match lexeme.token with
  | .text content => if negative then none else some { datum := .text content }
  | .blob content => if negative then none else some { datum := .blob content }
  | .number numeral => some (numberLiteral negative lexeme numeral)
  | _ => if isKeyword "null" lexeme then some { datum := .null } else none

def literalFrom (negative : Bool) : Nat → Reader Literal
  | 0 => reject
  | bound + 1 => do
      if ← symbol? '-' then
        literalFrom (!negative) bound
      else if ← symbol? '+' then
        literalFrom negative bound
      else if ← symbol? '(' then
        let literal ← literalFrom negative bound
        symbol ')'
        return literal
      else
        next (plainLiteral? negative)

def literal : Reader Literal := do
  -- signs and brackets before a literal are fewer than the lexemes
  literalFrom false ((← get).length + 1)

def datum : Reader Datum := do
  return (← literal).datum

end Reader

end SchemaLedger.Embedded
