import SchemaLedger.History.Ledger
import SchemaLedger.History.Migration
import SchemaLedger.Setup.Config
import SchemaLedger.Sql.MySql

/-! # The migrator

Going up, every pending migration is applied in the order of registration and entered into the
ledger. Going down, every applied migration is undone in the reverse order and removed from the
ledger. What is already in the wanted state is skipped, and the first failure ends the run.
-/

namespace SchemaLedger

set_option autoImplicit false

inductive Action where
  | applied
  | rolledBack
  | skipped
  deriving DecidableEq

structure Outcome where
  name : String
  action : Action
  deriving DecidableEq

structure Report where
  direction : Direction
  outcomes : List Outcome
  deriving DecidableEq

namespace Report

def names (report : Report) (action : Action) : List String :=
  (report.outcomes.filter (·.action = action)).map (·.name)

def applied (report : Report) : List String :=
  report.names .applied

def rolledBack (report : Report) : List String :=
  report.names .rolledBack

def skipped (report : Report) : List String :=
  report.names .skipped

end Report

structure Migrator where
  config : Config
  dialect : MySql
  migrations : List Migration

namespace Migrator

/-- The bootstrap migration comes first, when the configuration asks for it. -/
def ofConfig (tablePrefix : String) (config : Config) : Migrator where
  config
  dialect := ({ tablePrefix } : MySql).withDefaultLimit config.defaultLimit
  migrations := if config.bootstrapLedger then [Migration.bootstrap config.ledgerTable] else []

def register (migrator : Migrator) (migration : Migration) : Migrator :=
  { migrator with migrations := migrator.migrations ++ [migration] }

def ledger (migrator : Migrator) : Ledger :=
  ⟨migrator.config.ledgerTable⟩

def grammar (migrator : Migrator) : Grammar :=
  migrator.dialect.grammar

def names (migrator : Migrator) : List String :=
  migrator.migrations.map (·.name)

def note (level : Level) (message : String) : Session Unit :=
  Session.note ⟨level, .migrator, message⟩

/-- An error of a migration, under its name and behind an explanation. -/
def failure (name explanation : String) (error : Error) : Error :=
  .migration name (explanation ++ error.message)

def apply (migrator : Migrator) (migration : Migration) : Session Unit := do
  let name := migration.name
  (migration.up ⟨.up, migrator.grammar⟩).mapError (failure name "")
  (migrator.ledger.record migrator.grammar name).mapError
    (failure name "could not record in ledger: ")
  note .info ("Migration " ++ name ++ " ran successfully.")

/-- Removes a migration from the ledger. The bootstrap migration has just dropped the table, so its
row need not be there to be removed. -/
def forget (migrator : Migrator) (migration : Migration) : Session Unit := do
  let name := migration.name
  match ← (migrator.ledger.forget migrator.grammar name).attempt with
  | .ok () => pure ()
  | .error error =>
      if migration.identity = Migration.bootstrapIdentity then
        note .warn ("Could not remove ledger row for " ++ name ++ ": " ++ error.message)
      else
        throw (failure name "could not remove from ledger: " error)

def rollBack (migrator : Migrator) (migration : Migration) : Session Unit := do
  let name := migration.name
  (migration.down ⟨.down, migrator.grammar⟩).mapError (failure name "")
  migrator.forget migration
  note .info ("Migration " ++ name ++ " rolled back.")

/-- Brings one migration into the state that the direction wants. -/
def visit (migrator : Migrator) (direction : Direction) (migration : Migration) : Session Action := do
  let name := migration.name
  match direction, ← (migrator.ledger.status migrator.grammar name : Script Status) with
  | .up, .pending =>
      migrator.apply migration
      return .applied
  | .down, .applied =>
      migrator.rollBack migration
      return .rolledBack
  | direction, _ =>
      note .debug ("Migration " ++ name ++ " already " ++ direction.text ++ ", skipping")
      return .skipped

def visitAll (migrator : Migrator) (direction : Direction) : List Migration → Session (List Outcome)
  | [] => pure []
  | migration :: rest => do
      let action ← migrator.visit direction migration
      return ⟨migration.name, action⟩ :: (← migrator.visitAll direction rest)

/-- The migrations in the order in which a run visits them. -/
def ordered (migrator : Migrator) : Direction → List Migration
  | .up => migrator.migrations
  | .down => migrator.migrations.reverse

def run (migrator : Migrator) (direction : Direction) : Session Report := do
  return ⟨direction, ← migrator.visitAll direction (migrator.ordered direction)⟩

def up (migrator : Migrator) : Session Report :=
  migrator.run .up

def down (migrator : Migrator) : Session Report :=
  migrator.run .down

def statusOf (migrator : Migrator) : List Migration → Script (List (String × Status))
  | [] => pure []
  | migration :: rest => do
      let status ← migrator.ledger.status migrator.grammar migration.name
      return (migration.name, status) :: (← migrator.statusOf rest)

/-- The state of every migration in the order of registration. -/
def status (migrator : Migrator) : Script (List (String × Status)) :=
  migrator.statusOf migrator.migrations

def pending (migrator : Migrator) : Script (List String) := do
  return ((← migrator.status).filter (·.2 = .pending)).map (·.1)

end Migrator

end SchemaLedger
