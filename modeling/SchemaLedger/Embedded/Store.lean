import SchemaLedger.Embedded.Preparation
import SchemaLedger.Exchange.Connection

/-! # The embedded database

What SQLite answers to the statements that reach it. A store keeps databases in files, and has at
most one connection open: to one of the files, or to a database in memory that lasts as long as the
connection.
-/

namespace SchemaLedger.Embedded

set_option autoImplicit false

open Text

inductive Location where
  | memory (database : Database)
  | file (path : String)

structure Opened where
  location : Location
  /-- How many rows the last insert, update or delete affected. -/
  lastCount : UInt64 := 0

structure Store where
  files : List (String × Database) := []
  opened : Option Opened := none

namespace Store

def memoryPath : String := ":memory:"

def isConnected (store : Store) : Bool :=
  store.opened.isSome

def disconnect (store : Store) : Store :=
  { store with opened := none }

def openedEntry : LogEntry :=
  ⟨.debug, .embedded, "SQLite connection opened"⟩

/-- Opens a file, which is made if it is not there, or a new database in memory, which the empty
path asks for as well. The connection that was open is gone even when this fails. Only the paths
that `reachable` accepts can name files. -/
def connect (store : Store) (reachable : String → Bool) (path : String) :
    Run Store (Except Error Unit) :=
  let closed := store.disconnect
  if path = memoryPath || path.isEmpty then
    ⟨.ok (), { closed with opened := some { location := .memory [] } }, [.note openedEntry]⟩
  else if reachable path then
    ⟨.ok (), { closed with opened := some { location := .file path } }, [.note openedEntry]⟩
  else
    ⟨.error (.embedded (Fault.noFile path).text), closed, []⟩

def databaseAt (store : Store) : Location → Database
  | .memory database => database
  | .file path => (store.files.lookup path).getD []

def keep (store : Store) (location : Location) (database : Database) (lastCount : UInt64) : Store :=
  match location with
  | .memory _ => { store with opened := some ⟨.memory database, lastCount⟩ }
  | .file path =>
      { files := (path, database) :: store.files.filter (·.1 ≠ path)
        opened := some ⟨.file path, lastCount⟩ }

def notConnected : Error :=
  .connection "Not connected to database"

/-- Carries out a statement. One that changes rows sets the count, to zero when it fails. -/
def perform (store : Store) (now statement : String) : Except Error (Effect × UInt64) × Store :=
  match store.opened with
  | none => (.error notConnected, store)
  | some ⟨location, lastCount⟩ =>
      let database := store.databaseAt location
      match Statement.prepare database statement with
      | .error fault => (.error (fault.error statement), store)
      | .ok prepared =>
          match prepared.run database now with
          | .error fault =>
              let count := if prepared.changesRows then 0 else lastCount
              (.error (.embedded fault.text), store.keep location database count)
          | .ok (outcome, database) =>
              let count :=
                match outcome with
                | .changed count => count.toUInt64
                | _ => lastCount
              (.ok (outcome, count), store.keep location database count)

def execute (now statement : String) (store : Store) : Except Error UInt64 × Store :=
  match store.perform now statement with
  | (.error error, store) => (.error error, store)
  | (.ok (.rows (_ :: _), _), store) => (.error (Fault.rowsReturned.error statement), store)
  | (.ok (_, count), store) => (.ok count, store)

def query (now statement : String) (store : Store) : Except Error (List Row) × Store :=
  match store.perform now statement with
  | (.error error, store) => (.error error, store)
  | (.ok (.rows rows, _), store) => (.ok rows, store)
  | (.ok _, store) => (.ok [], store)

def connection (tablePrefix now : String) : Connection Store where
  tablePrefix
  execute := execute now
  query := query now

end Store

def ledgerTableStatement (tablePrefix table : String) : String :=
  "CREATE TABLE IF NOT EXISTS " ++ quoted '"' (tablePrefix ++ table) ++ " (\n" ++
    "                id INTEGER PRIMARY KEY AUTOINCREMENT,\n" ++
    "                name VARCHAR(255) NOT NULL,\n" ++
    "                created TIMESTAMP NOT NULL DEFAULT CURRENT_TIMESTAMP\n" ++
    "            )"

/-- Makes the ledger table in the form that the embedded database understands. The statement that
creates it from a blueprint has a numbered column which that database refuses. -/
def ensureLedger (tablePrefix table : String) : Session Unit := do
  let _ ← Session.execute (ledgerTableStatement tablePrefix table)

end SchemaLedger.Embedded
