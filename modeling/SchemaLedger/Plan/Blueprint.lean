import SchemaLedger.Sql.Grammar
import SchemaLedger.Text.Parts

/-! # Blueprints

A blueprint collects the columns and commands of one table. Compiling it first adds the commands
that its columns imply: statements that add and change columns, and indexes of flagged columns.
-/

namespace SchemaLedger

set_option autoImplicit false

open Text

structure Blueprint where
  table : String
  columns : List Column := []
  commands : List Command := []

namespace Blueprint

def source (blueprint : Blueprint) : Source where
  table := blueprint.table
  columns := blueprint.columns
  commands := blueprint.commands

/-- Whether the table itself is to be created. -/
def creating (blueprint : Blueprint) : Bool :=
  blueprint.commands.contains .create

def declare (blueprint : Blueprint) (column : Column) : Blueprint :=
  { blueprint with columns := blueprint.columns ++ [column] }

def removeColumn (blueprint : Blueprint) (name : String) : Blueprint :=
  { blueprint with columns := blueprint.columns.filter (·.name ≠ name) }

def queue (blueprint : Blueprint) (command : Command) : Blueprint :=
  { blueprint with commands := blueprint.commands ++ [command] }

def queueFirst (blueprint : Blueprint) (command : Command) : Blueprint :=
  { blueprint with commands := command :: blueprint.commands }

/-- The name of an index that is given none: its table, columns and kind in lower case, joined by
underscores, which also stand for dashes and points. -/
def indexName (blueprint : Blueprint) (kind : IndexKind) (columns : List String) : String :=
  (lower (joined "_" (blueprint.table :: columns ++ [kind.name]))).map fun c =>
    if c = '-' || c = '.' then '_' else c

def indexCommand (blueprint : Blueprint) (kind : IndexKind) (columns : List String)
    (name : Option String) : Command :=
  .ofIndex kind (name.getD (blueprint.indexName kind columns)) columns

def implyFirst (blueprint : Blueprint) (command : Command) (needed : Bool) : Blueprint :=
  if needed && !blueprint.commands.contains command then blueprint.queueFirst command else blueprint

def flagged (blueprint : Blueprint) : List (IndexKind × String) :=
  blueprint.columns.flatMap fun column =>
    (if column.unique then [(.unique, column.name)] else []) ++
      (if column.index then [(.index, column.name)] else [])

/-- An index of its usual name, unless something of that name is queued. -/
def implyIndex (blueprint : Blueprint) (kind : IndexKind) (column : String) : Blueprint :=
  let name := blueprint.indexName kind [column]
  if blueprint.commands.any (·.indexName? == some name) then blueprint
  else blueprint.queue (.ofIndex kind name [column])

def addImplied (blueprint : Blueprint) : Blueprint :=
  let withColumns :=
    if blueprint.creating then
      blueprint
    else
      (blueprint.implyFirst .add (!blueprint.source.addedColumns.isEmpty)).implyFirst .change
        (!blueprint.source.changedColumns.isEmpty)
  blueprint.flagged.foldl (fun blueprint (kind, column) => blueprint.implyIndex kind column) withColumns

def toSql (blueprint : Blueprint) (grammar : Grammar) : Except Error (List String) :=
  grammar.compileAll blueprint.addImplied.source

/-- Sends a statement for its effect. A refusal names the statement. -/
def send (statement : String) : Session Unit := do
  Session.note ⟨.debug, .blueprint, "Executing: " ++ statement⟩
  let _ ← (Session.execute statement).mapError (.ofStatement statement)

def build (blueprint : Blueprint) (grammar : Grammar) : Session Unit := do
  let statements ← grammar.statements blueprint.addImplied.source
  statements.forM send

end Blueprint

end SchemaLedger
