import SchemaLedger.Exchange.Script
import SchemaLedger.Plan.Source

/-! # Grammars

A grammar turns commands into statements, or has no rule for a command, which is then skipped. The
statements of a whole source are those of its commands in order, up to the first error.
-/

namespace SchemaLedger

set_option autoImplicit false

inductive Compiled where
  | statements (list : List String)
  | unsupported
  deriving DecidableEq

namespace Compiled

def one (statement : String) : Compiled :=
  statements [statement]

def toList : Compiled → List String
  | statements list => list
  | unsupported => []

end Compiled

structure Grammar where
  compile : Source → Command → Except Error Compiled

namespace Grammar

/-- The grammar with rules for some kinds of commands only. -/
def restrict (grammar : Grammar) (kinds : List CommandKind) : Grammar where
  compile source command :=
    if command.kind ∈ kinds then grammar.compile source command else .ok .unsupported

def compileEach (grammar : Grammar) (source : Source) : List Command → Except Error (List String)
  | [] => .ok []
  | command :: rest =>
      match grammar.compile source command with
      | .error error => .error error
      | .ok compiled => (grammar.compileEach source rest).map (compiled.toList ++ ·)

def compileAll (grammar : Grammar) (source : Source) : Except Error (List String) :=
  grammar.compileEach source source.commands

/-- The commands without a rule, as far as compilation gets. -/
def missing (grammar : Grammar) (source : Source) : List Command → List Command
  | [] => []
  | command :: rest =>
      match grammar.compile source command with
      | .error _ => []
      | .ok (.statements _) => grammar.missing source rest
      | .ok .unsupported => command :: grammar.missing source rest

def missingEntry (source : Source) (command : Command) : LogEntry where
  level := .debug
  target := .grammar
  message :=
    "No compilation rule for `" ++ command.name ++ "` on table " ++ source.table ++ "; skipping"

/-- All statements of a source. Each command without a rule is reported. -/
def statements (grammar : Grammar) (source : Source) : Session (List String) := do
  (grammar.missing source source.commands).forM fun command => Session.note (missingEntry source command)
  Session.ofExcept (grammar.compileAll source)

end Grammar

end SchemaLedger
