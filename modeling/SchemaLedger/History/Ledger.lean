import SchemaLedger.Calendar.Moment
import SchemaLedger.Plan.Query

/-! # The ledger

One row for each applied migration, found by the name of the migration.
-/

namespace SchemaLedger

set_option autoImplicit false

structure Ledger where
  table : String

structure LedgerEntry where
  name : String
  created : Option Moment
  deriving DecidableEq

inductive Status where
  | pending
  | applied
  deriving DecidableEq

namespace Ledger

/-- The time in a row of the ledger, as text or as seconds since 1970. -/
def createdOf (row : Row) : Option Moment :=
  match row.get? "created" with
  | some (.text text) => Moment.ofText? text
  | some (.timestamp seconds) | some (.long seconds) => Moment.ofSeconds? seconds.toInt
  | _ => none

def lookup (ledger : Ledger) (grammar : Grammar) (name : String) : Session (Option LedgerEntry) := do
  let rows ← ((({ table := ledger.table } : Query).find.whereEq "name" name).limit 1).results grammar
  return rows.head?.map fun row => { name, created := createdOf row }

/-- A lookup that fails counts as finding nothing: the ledger may not have been made yet. -/
def status (ledger : Ledger) (grammar : Grammar) (name : String) : Script Status := do
  match ← ExceptT.run (ledger.lookup grammar name) with
  | .ok (some _) => return .applied
  | .ok none => return .pending
  | .error error =>
      .note
        ⟨.warn, .ledger,
          "Ledger lookup for " ++ name ++ " failed, treating as pending: " ++ error.message⟩
        (.done .pending)

def record (ledger : Ledger) (grammar : Grammar) (name : String) : Session Unit := do
  let _ ← (({ table := ledger.table } : Query).insert (.single "name" name)).run grammar

def forget (ledger : Ledger) (grammar : Grammar) (name : String) : Session Unit := do
  let _ ← (({ table := ledger.table } : Query).whereEq "name" name).deleteWhere.run grammar

end Ledger

end SchemaLedger
