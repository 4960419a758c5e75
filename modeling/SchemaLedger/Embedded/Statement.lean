import SchemaLedger.Embedded.Table

/-! # Statements of the embedded database

A statement is prepared against the tables as they are: it holds the tables and the positions of the
fields that it names. What can fail only when it is carried out depends on the rows.
-/

namespace SchemaLedger.Embedded

set_option autoImplicit false

open Text

abbrev Database := List Table

namespace Database

def table? (database : Database) (name : String) : Option Table :=
  database.find? fun table => sameName table.name name

def replace (database : Database) (table : Table) : Database :=
  database.map fun other => if sameName other.name table.name then table else other

def drop (database : Database) (name : String) : Database :=
  database.filter fun table => !sameName table.name name

end Database

inductive Statement where
  /-- A statement that finds nothing to do. -/
  | idle
  | create (table : Table)
  | drop (table : Table)
  | addField (table : Table) (field : Field)
  | dropField (table : Table) (position : Nat)
  | renameField (table : Table) (position : Nat) (name : String)
  | insert (table : Table) (data : Assignments)
  | update (table : Table) (data : Assignments) (filter : Filter)
  | delete (table : Table) (filter : Filter)
  | select (table : Table) (filter : Filter) (limit : Int)
  | constants (row : Row)

inductive Effect where
  | done
  | changed (count : Nat)
  | rows (list : List Row)

namespace Statement

def changesRows : Statement → Bool
  | insert .. | update .. | delete .. => true
  | _ => false

/-- Carries out a statement. A statement that fails changes nothing. -/
def run (database : Database) (now : String) : Statement → Except Fault (Effect × Database)
  | idle => .ok (.done, database)
  | create table => .ok (.done, database ++ [table])
  | drop table => .ok (.done, database.drop table.name)
  | addField table field => do
      return (.done, database.replace (← table.addField field))
  | dropField table position => .ok (.done, database.replace (table.dropField position))
  | renameField table position name => do
      return (.done, database.replace (← table.renameField position name))
  | insert table data => do
      return (.changed 1, database.replace (← table.insert now data))
  | update table data filter => do
      return (.changed (table.count filter), database.replace (← table.update data filter))
  | delete table filter =>
      .ok (.changed (table.count filter), database.replace (table.delete filter))
  | select table filter limit =>
      if (int64? limit).isSome then .ok (.rows (table.select filter limit), database)
      else .error .wrongKind
  | constants row => .ok (.rows [row], database)

end Statement

end SchemaLedger.Embedded
