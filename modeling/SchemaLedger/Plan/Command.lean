import SchemaLedger.Value.Bag

/-! # Commands

What can be asked of one table: changes of its structure, and reads and writes of its rows.
-/

namespace SchemaLedger

set_option autoImplicit false

inductive IndexKind where
  | primary
  | unique
  | index
  | foreign
  deriving DecidableEq

def IndexKind.name : IndexKind → String
  | primary => "primary"
  | unique => "unique"
  | index => "index"
  | foreign => "foreign"

structure Index where
  name : String
  columns : List String
  algorithm : Option String := none
  deriving DecidableEq

structure ForeignKey where
  name : String
  columns : List String
  /-- The columns that are referred to. -/
  references : List String := []
  /-- The table that is referred to. -/
  target : Option String := none
  onDelete : Option String := none
  onUpdate : Option String := none
  deriving DecidableEq

inductive CommandKind where
  | create
  | add
  | change
  | drop
  | dropIfExists
  | rename
  | dropColumns
  | renameColumn
  | primary
  | unique
  | index
  | foreign
  | insert
  | update
  | delete
  | find
  deriving DecidableEq

namespace CommandKind

def name : CommandKind → String
  | create => "create"
  | add => "add"
  | change => "change"
  | drop => "drop"
  | dropIfExists => "dropIfExists"
  | rename => "rename"
  | dropColumns => "dropColumn"
  | renameColumn => "renameColumn"
  | primary => "primary"
  | unique => "unique"
  | index => "index"
  | foreign => "foreign"
  | insert => "insert"
  | update => "update"
  | delete => "delete"
  | find => "find"

def all : List CommandKind :=
  [create, add, change, drop, dropIfExists, rename, dropColumns, renameColumn, primary, unique,
    index, foreign, insert, update, delete, find]

def ofName? (name : String) : Option CommandKind :=
  all.find? (·.name == name)

theorem ofName?_name (kind : CommandKind) : ofName? kind.name = some kind := by
  cases kind <;> decide

end CommandKind

inductive Command where
  | create
  | add
  | change
  | drop
  | dropIfExists
  | rename (newName : String)
  | dropColumns (columns : List String)
  | renameColumn (oldName newName : String)
  | primary (index : Index)
  | unique (index : Index)
  | index (index : Index)
  | foreign (key : ForeignKey)
  | insert (data : Bag)
  | update (data : Bag)
  | delete
  | find
  deriving DecidableEq

namespace Command

def kind : Command → CommandKind
  | create => .create
  | add => .add
  | change => .change
  | drop => .drop
  | dropIfExists => .dropIfExists
  | rename _ => .rename
  | dropColumns _ => .dropColumns
  | renameColumn _ _ => .renameColumn
  | primary _ => .primary
  | unique _ => .unique
  | index _ => .index
  | foreign _ => .foreign
  | insert _ => .insert
  | update _ => .update
  | delete => .delete
  | find => .find

def name (command : Command) : String :=
  command.kind.name

/-- The name of the index or key that the command makes. -/
def indexName? : Command → Option String
  | primary new | unique new | index new => some new.name
  | foreign key => some key.name
  | _ => none

def ofIndex (kind : IndexKind) (name : String) (columns : List String) : Command :=
  match kind with
  | .primary => primary { name, columns }
  | .unique => unique { name, columns }
  | .index => index { name, columns }
  | .foreign => foreign { name, columns }

end Command

end SchemaLedger
