/-! # Log entries

What the library reports while it works, at which level and from which part.
-/

namespace SchemaLedger

set_option autoImplicit false

inductive Level where
  | error
  | warn
  | info
  | debug
  | trace
  deriving DecidableEq

namespace Level

def name : Level → String
  | error => "ERROR"
  | warn => "WARN"
  | info => "INFO"
  | debug => "DEBUG"
  | trace => "TRACE"

/-- Greater for the more talkative level. -/
def verbosity : Level → Nat
  | error => 1
  | warn => 2
  | info => 3
  | debug => 4
  | trace => 5

end Level

/-- The part of the library that reports. -/
inductive Target where
  | grammar
  | blueprint
  | query
  | ledger
  | migrator
  | embedded
  deriving DecidableEq

def Target.path : Target → String
  | grammar => "table_migrations::grammars"
  | blueprint => "table_migrations::core::blueprint"
  | query => "table_migrations::core::query"
  | ledger => "table_migrations::core::ledger"
  | migrator => "table_migrations::core::migrator"
  | embedded => "table_migrations::backends::sqlite"

structure LogEntry where
  level : Level
  target : Target
  message : String
  deriving DecidableEq

end SchemaLedger
