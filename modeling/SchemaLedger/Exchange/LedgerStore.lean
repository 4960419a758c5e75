import SchemaLedger.Exchange.Connection
import SchemaLedger.Text.Parts

/-! # The ledger table as a list of names

A store that understands the statements which make, drop, read and write the ledger table, and no
others. It keeps names as they stand in those statements, between their quotes.
-/

namespace SchemaLedger

set_option autoImplicit false

open Text

structure LedgerStore where
  /-- The table as statements name it, with its quotes. -/
  table : String
  present : Bool
  names : List String

namespace LedgerStore

def insertedName? (store : LedgerStore) (statement : String) : Option String :=
  between? ("INSERT INTO " ++ store.table ++ " (`name`) VALUES ('") "')" statement

def deletedName? (store : LedgerStore) (statement : String) : Option String :=
  between? ("DELETE FROM " ++ store.table ++ " WHERE `name` = '") "'" statement

def selectedName? (store : LedgerStore) (statement : String) : Option String :=
  between? ("SELECT * FROM " ++ store.table ++ " WHERE `name` = '") "' LIMIT 1" statement

def creates (store : LedgerStore) (statement : String) : Bool :=
  (afterStart? ("CREATE TABLE " ++ store.table ++ " ").toList statement.toList).isSome

def drops (store : LedgerStore) (statement : String) : Bool :=
  statement = "DROP TABLE IF EXISTS " ++ store.table

def absent (store : LedgerStore) : Error :=
  .query ("no such table: " ++ store.table)

def execute (store : LedgerStore) (statement : String) : Except Error Unit × LedgerStore :=
  if store.creates statement then
    (.ok (), { store with present := true })
  else if store.drops statement then
    (.ok (), { store with present := false, names := [] })
  else
    match store.insertedName? statement, store.deletedName? statement with
    | some name, _ =>
        if store.present then (.ok (), { store with names := store.names ++ [name] })
        else (.error store.absent, store)
    | none, some name =>
        if store.present then (.ok (), { store with names := store.names.filter (· ≠ name) })
        else (.error store.absent, store)
    | none, none => (.ok (), store)

/-- One row for each time that the name is stored. -/
def select (store : LedgerStore) (name : String) : Except Error (List Row) :=
  if store.present then
    .ok ((store.names.filter (· = name)).map fun name => .single "name" (.text name))
  else
    .error store.absent

end LedgerStore

end SchemaLedger
