import SchemaLedger.Plan.Blueprint

/-! # Changes of the structure of tables -/

namespace SchemaLedger

set_option autoImplicit false

structure Schema where
  grammar : Grammar

namespace Schema

/-- Creates a table with the columns and commands that `define` adds. -/
def create (schema : Schema) (table : String) (define : Blueprint → Blueprint) : Session Unit :=
  (define (({ table } : Blueprint).queue .create)).build schema.grammar

def table (schema : Schema) (table : String) (define : Blueprint → Blueprint) : Session Unit :=
  (define { table }).build schema.grammar

def drop (schema : Schema) (table : String) : Session Unit :=
  (({ table } : Blueprint).queue .drop).build schema.grammar

def dropIfExists (schema : Schema) (table : String) : Session Unit :=
  (({ table } : Blueprint).queue .dropIfExists).build schema.grammar

def rename (schema : Schema) (oldName newName : String) : Session Unit :=
  (({ table := oldName } : Blueprint).queue (.rename newName)).build schema.grammar

end Schema

end SchemaLedger
