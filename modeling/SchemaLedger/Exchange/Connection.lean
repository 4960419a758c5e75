import SchemaLedger.Exchange.Script

/-! # Connections and runs

A connection answers statements and changes its state. Running a script against it gives the result,
the state reached and the trace of what happened on the way.
-/

namespace SchemaLedger

set_option autoImplicit false

structure Connection (σ : Type) where
  /-- What stands before the name of every table. -/
  tablePrefix : String
  execute : String → σ → Except Error UInt64 × σ
  query : String → σ → Except Error (List Row) × σ

/-- The two ways in which a statement is sent: for its effect or for its rows. -/
inductive Channel where
  | execute
  | query
  deriving DecidableEq

inductive Event where
  | note (entry : LogEntry)
  | sent (channel : Channel) (statement : String)
  deriving DecidableEq

def Event.statement? : Event → Option String
  | note _ => none
  | sent _ statement => some statement

def Event.entry? : Event → Option LogEntry
  | note entry => some entry
  | sent _ _ => none

structure Run (σ α : Type) where
  result : α
  state : σ
  trace : List Event

namespace Run

variable {σ α : Type}

def preceded (event : Event) (run : Run σ α) : Run σ α :=
  { run with trace := event :: run.trace }

/-- The statements that the connection received, the refused ones among them. -/
def statements (run : Run σ α) : List String :=
  run.trace.filterMap Event.statement?

def entries (run : Run σ α) : List LogEntry :=
  run.trace.filterMap Event.entry?

end Run

variable {σ α : Type}

def Script.run (connection : Connection σ) : Script α → σ → Run σ α
  | .done result, state => ⟨result, state, []⟩
  | .note entry next, state => (next.run connection state).preceded (.note entry)
  | .execute statement next, state =>
      let (answer, state) := connection.execute statement state
      ((next answer).run connection state).preceded (.sent .execute statement)
  | .query statement next, state =>
      let (answer, state) := connection.query statement state
      ((next answer).run connection state).preceded (.sent .query statement)

def Session.run (connection : Connection σ) (session : Session α) (state : σ) : Run σ (Except Error α) :=
  Script.run connection (ExceptT.run session) state

end SchemaLedger
