import SchemaLedger.Json.Number

/-! # Errors -/

namespace SchemaLedger

set_option autoImplicit false

inductive FileFault where
  | missing
  | notText
  deriving DecidableEq

def FileFault.message : FileFault → String
  | missing => "No such file or directory (os error 2)"
  | notText => "stream did not contain valid UTF-8"

inductive Error where
  | connection (message : String)
  | connectionTimeout (milliseconds : UInt64)
  | query (message : String)
  | queryTimeout (milliseconds : UInt64)
  /-- The database refused a statement. -/
  | execution (statement : String) (message : String)
  | invalidCommand (message : String)
  | migration (name : String) (message : String)
  | config (message : String)
  | file (fault : FileFault)
  | json (fault : Json.Fault)
  | embedded (message : String)
  | other (message : String)
  deriving DecidableEq, Inhabited

namespace Error

def jsonMessage : Json.Fault → String
  | .malformed => "malformed text"
  | .mismatched => "unexpected content"
  | .truncated => "unexpected end of text"

def message : Error → String
  | connection message => "Connection error: " ++ message
  | connectionTimeout milliseconds =>
      "Connection timeout after " ++ toString milliseconds.toNat ++ "ms"
  | query message => "Query execution error: " ++ message
  | queryTimeout milliseconds => "Query timeout after " ++ toString milliseconds.toNat ++ "ms"
  | execution statement message =>
      "Statement failed: " ++ message ++ " (statement: " ++ statement ++ ")"
  | invalidCommand message => "Invalid command: " ++ message
  | migration name message => "Migration " ++ name ++ " failed: " ++ message
  | config message => "Configuration error: " ++ message
  | file fault => "IO error: " ++ fault.message
  | json fault => "JSON error: " ++ jsonMessage fault
  | embedded message => "SQLite error: " ++ message
  | other message => message

/-- The failure of one statement, with the text of its cause. -/
def ofStatement (statement : String) (cause : Error) : Error :=
  .execution statement cause.message

end Error

end SchemaLedger
