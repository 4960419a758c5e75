import SchemaLedger.Plan.Record
import SchemaLedger.Plan.Schema
import SchemaLedger.Text.CharacterSets
import SchemaLedger.Text.Casing

/-! # Migrations

A migration is a named pair of actions, one forward and one back. The ledger knows it by its name,
so a migration with another name is another migration. Unless it is given one, its name is made of
the words of its identity: its runs of letters and digits, in lower case and joined by dashes.
-/

namespace SchemaLedger

set_option autoImplicit false

open Text

/-- Reads an identity from left to right. A dash is written before a word if one was written before
it and something else stood between them. -/
def sanitizeFrom (started apart : Bool) : List Char → List Char
  | [] => []
  | c :: rest =>
      if isAlphanumeric c then
        (if started && apart then ['-'] else []) ++ lowerChar c ++ sanitizeFrom true false rest
      else
        sanitizeFrom started true rest

def sanitizeIdentity (identity : String) : String :=
  String.ofList (sanitizeFrom false false identity.toList)

inductive Direction where
  | up
  | down
  deriving DecidableEq

def Direction.text : Direction → String
  | up => "up"
  | down => "down"

structure Context where
  direction : Direction
  grammar : Grammar

namespace Context

def schema (context : Context) : Schema :=
  ⟨context.grammar⟩

def record (context : Context) : Record :=
  ⟨context.grammar⟩

end Context

structure Migration where
  identity : String
  name : String := sanitizeIdentity identity
  up : Context → Session Unit := fun _ => pure ()
  down : Context → Session Unit := fun _ => pure ()

namespace Migration

def act (migration : Migration) (context : Context) : Session Unit :=
  match context.direction with
  | .up => migration.up context
  | .down => migration.down context

def bootstrapIdentity : String := "create_migrations_table"

def ledgerColumns : List Column :=
  [.increments .integer "id", .string "name" 255,
    { type := .timestamp, name := "created", useCurrent := true }]

/-- The migration that makes the ledger table itself. -/
def bootstrap (table : String) : Migration where
  identity := bootstrapIdentity
  up context := context.schema.create table fun blueprint =>
    ledgerColumns.foldl Blueprint.declare blueprint
  down context := context.schema.dropIfExists table

end Migration

end SchemaLedger
