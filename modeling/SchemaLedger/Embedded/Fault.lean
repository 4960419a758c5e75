import SchemaLedger.Embedded.Lexeme
import SchemaLedger.Exchange.Error

/-! # Faults of the embedded database

Why a statement is refused. Some faults point to the lexeme where they were found, and their
messages then repeat the statement.
-/

namespace SchemaLedger.Embedded

set_option autoImplicit false

inductive Fault where
  | unexpected (lexeme : Lexeme)
  | unrecognized (lexeme : Lexeme)
  | incomplete
  | noStatement
  | noTable (table : String)
  | tablePresent (table : Lexeme)
  | reservedTable (table : String)
  | repeatedColumn (column : String)
  | takenColumn (table column : String)
  | noColumnToAlter (column : Lexeme)
  | noColumnToCompare (column : Lexeme) (name : String)
  | noColumnToUpdate (column : String)
  | noColumnToInsert (table column : String)
  | valueCount (values columns : Nat)
  | onlyColumn (column : String)
  | keptPrimary (column : String)
  | keptUnique (column : String)
  | addedPrimary
  | addedUnique
  | secondPrimary (table : String)
  | wrongAutoincrement
  | noCollation (name : String)
  | noOption (name : String)
  | nullInColumn (table column : String)
  /-- A datum, or the number of a row, that only one row may have. -/
  | repeatedDatum (table column : String)
  | wrongKind
  | noNumberLeft
  | nullDefault
  | variableDefault
  | rowsReturned
  | noFile (path : String)
  deriving DecidableEq

namespace Fault

def lexeme? : Fault → Option Lexeme
  | unexpected lexeme | unrecognized lexeme | tablePresent lexeme | noColumnToAlter lexeme
  | noColumnToCompare lexeme _ => some lexeme
  | _ => none

def text : Fault → String
  | unexpected lexeme => "near \"" ++ lexeme.spelling ++ "\": syntax error"
  | unrecognized lexeme => "unrecognized token: \"" ++ lexeme.spelling ++ "\""
  | incomplete => "incomplete input"
  | noStatement => "not an error"
  | noTable table => "no such table: " ++ table
  | tablePresent table => "table " ++ table.spelling ++ " already exists"
  | reservedTable table => "object name reserved for internal use: " ++ table
  | repeatedColumn column => "duplicate column name: " ++ column
  | takenColumn table column =>
      "error in table " ++ table ++ " after rename: duplicate column name: " ++ column
  | noColumnToAlter column => "no such column: \"" ++ column.spelling ++ "\""
  | noColumnToCompare _ name => "no such column: " ++ name
  | noColumnToUpdate column => "no such column: " ++ column
  | noColumnToInsert table column => "table " ++ table ++ " has no column named " ++ column
  | valueCount values columns =>
      toString values ++ " values for " ++ toString columns ++ " columns"
  | onlyColumn column => "cannot drop column \"" ++ column ++ "\": no other columns exist"
  | keptPrimary column => "cannot drop PRIMARY KEY column: \"" ++ column ++ "\""
  | keptUnique column => "cannot drop UNIQUE column: \"" ++ column ++ "\""
  | addedPrimary => "Cannot add a PRIMARY KEY column"
  | addedUnique => "Cannot add a UNIQUE column"
  | secondPrimary table => "table \"" ++ table ++ "\" has more than one primary key"
  | wrongAutoincrement => "AUTOINCREMENT is only allowed on an INTEGER PRIMARY KEY"
  | noOption name => "unknown table option: " ++ name
  | noCollation name => "no such collation sequence: " ++ name
  | nullInColumn table column => "NOT NULL constraint failed: " ++ table ++ "." ++ column
  | repeatedDatum table column => "UNIQUE constraint failed: " ++ table ++ "." ++ column
  | wrongKind => "datatype mismatch"
  | noNumberLeft => "database or disk is full"
  | nullDefault => "Cannot add a NOT NULL column with default value NULL"
  | variableDefault => "Cannot add a column with non-constant default"
  | rowsReturned => "Execute returned results - did you mean to call query?"
  | noFile path => "unable to open database file: " ++ path

def message (fault : Fault) (statement : String) : String :=
  match fault.lexeme? with
  | none => fault.text
  | some lexeme =>
      fault.text ++ " in " ++ statement ++ " at offset " ++ toString lexeme.offset

def error (fault : Fault) (statement : String) : Error :=
  .embedded (fault.message statement)

end Fault

end SchemaLedger.Embedded
