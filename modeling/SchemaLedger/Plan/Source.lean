import SchemaLedger.Plan.Command
import SchemaLedger.Table.Column

/-! # What a grammar compiles

The commands queued on one table, with everything that their statements may mention.
-/

namespace SchemaLedger

set_option autoImplicit false

inductive Operator where
  | and
  | or
  deriving DecidableEq

def Operator.sql : Operator → String
  | and => "AND"
  | or => "OR"

structure Source where
  table : String
  columns : List Column := []
  commands : List Command
  clauses : List Bag := []
  operator : Operator := .and
  /-- Reads are not held to the default limit. -/
  unbounded : Bool := false

namespace Source

def addedColumns (source : Source) : List Column :=
  source.columns.filter (!·.change)

def changedColumns (source : Source) : List Column :=
  source.columns.filter (·.change)

/-- The clause maps as one. -/
def clause (source : Source) : Bag :=
  .flatten source.clauses

end Source

end SchemaLedger
