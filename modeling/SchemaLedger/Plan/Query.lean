import SchemaLedger.Sql.Grammar

/-! # Queries

A query collects reads and writes of the rows of one table, and the clause maps that filter them.
The clauses hold for all of its commands.
-/

namespace SchemaLedger

set_option autoImplicit false

structure Query where
  table : String
  commands : List Command := []
  clauses : List Bag := []
  operator : Operator := .and
  unbounded : Bool := false

namespace Query

def source (query : Query) : Source where
  table := query.table
  commands := query.commands
  clauses := query.clauses
  operator := query.operator
  unbounded := query.unbounded

def queue (query : Query) (command : Command) : Query :=
  { query with commands := query.commands ++ [command] }

def whereAll (query : Query) (clause : Bag) : Query :=
  { query with clauses := query.clauses ++ [clause] }

def whereEq (query : Query) (key : String) (value : Value) : Query :=
  query.whereAll (.single key value)

def insert (query : Query) (data : Bag) : Query :=
  query.queue (.insert data)

def update (query : Query) (id : Value) (data : Bag) : Query :=
  (query.whereEq "id" id).queue (.update data)

def updateWhere (query : Query) (data : Bag) : Query :=
  query.queue (.update data)

def delete (query : Query) (id : Value) : Query :=
  (query.whereEq "id" id).queue .delete

def deleteWhere (query : Query) : Query :=
  query.queue .delete

def find (query : Query) : Query :=
  query.queue .find

def orWhere (query : Query) : Query :=
  { query with operator := .or }

/-- Limits are kept as longs; a greater one becomes the greatest long. -/
def limit (query : Query) (count : UInt64) : Query :=
  query.whereEq "limit" (.long (Int64.ofNat (min count.toNat Int64.maxValue.toInt.toNat)))

def unlimited (query : Query) : Query :=
  { query with unbounded := true }

def toSql (query : Query) (grammar : Grammar) : Except Error (List String) :=
  grammar.compileAll query.source

def executing (statement : String) : Session Unit :=
  Session.note ⟨.debug, .query, "Executing: " ++ statement⟩

def write (statement : String) : Session UInt64 := do
  executing statement
  (Session.execute statement).mapError (.ofStatement statement)

def read (statement : String) : Session (List Row) := do
  executing statement
  (Session.query statement).mapError (.ofStatement statement)

def writeAll (affected : UInt64) : List String → Session UInt64
  | [] => pure affected
  | statement :: rest => do writeAll (affected + (← write statement)) rest

/-- Compiles everything, sends all statements for their effect, and adds up the affected rows. -/
def run (query : Query) (grammar : Grammar) : Session UInt64 := do
  writeAll 0 (← grammar.statements query.source)

/-- Sends the statements of one command: those of a find for their rows, others for their effect. -/
def perform (command : Command) : List String → Session (List Row)
  | [] => pure []
  | statement :: rest => do
      let rows ← if command = .find then read statement else (fun _ => []) <$> write statement
      return rows ++ (← perform command rest)

def resultsOf (grammar : Grammar) (source : Source) : List Command → Session (List Row)
  | [] => pure []
  | command :: rest => do
      let compiled ← Session.ofExcept (grammar.compile source command)
      let rows ← perform command compiled.toList
      return rows ++ (← resultsOf grammar source rest)

/-- Compiles and performs one command after the other, and collects the rows of every find. -/
def results (query : Query) (grammar : Grammar) : Session (List Row) :=
  resultsOf grammar query.source query.commands

end Query

end SchemaLedger
