import SchemaLedger.Proofs.Sql.Compilation
import SchemaLedger.Sql.MySql

/-! # Missing rules

A rule reads the table, the columns and the clauses of a source and its own command, never the other
commands of the queue. So a grammar that lacks rules makes of a queue what the full grammar makes of
the commands that are left when those without a rule are taken out, and a queue compiles piece by
piece.
-/

namespace SchemaLedger

set_option autoImplicit false

namespace Grammar

variable {grammar : Grammar} {source other : Source} {commands : List Command}

theorem compileEach_congr
    (h : ∀ command ∈ commands, grammar.compile source command = grammar.compile other command) :
    grammar.compileEach source commands = grammar.compileEach other commands := by
  induction commands with
  | nil => rfl
  | cons command rest ih =>
    obtain ⟨hcommand, hrest⟩ := List.forall_mem_cons.1 h
    rw [compileEach, compileEach, hcommand, ih hrest]

theorem compileEach_append (first second : List Command) :
    grammar.compileEach source (first ++ second) =
      match grammar.compileEach source first with
      | .error error => .error error
      | .ok statements => (grammar.compileEach source second).map (statements ++ ·) := by
  induction first with
  | nil => cases h : grammar.compileEach source second <;> simp [compileEach, h, Except.map]
  | cons command rest ih =>
    rw [List.cons_append]
    cases hcommand : grammar.compile source command with
    | error error => rw [compileEach_cons_of_error hcommand, compileEach_cons_of_error hcommand]
    | ok compiled =>
      rw [compileEach_cons_of_ok hcommand, compileEach_cons_of_ok hcommand, ih]
      cases grammar.compileEach source rest <;> cases grammar.compileEach source second <;>
        simp [Except.map]

/-- A command without a rule leaves no trace, however it would have been compiled. -/
theorem compileEach_restrict (kinds : List CommandKind) :
    (grammar.restrict kinds).compileEach source commands =
      grammar.compileEach source (commands.filter (·.kind ∈ kinds)) := by
  induction commands with
  | nil => rfl
  | cons command rest ih =>
    by_cases hkind : command.kind ∈ kinds
    · have hrule : (grammar.restrict kinds).compile source command =
          grammar.compile source command := if_pos hkind
      rw [List.filter_cons_of_pos (by simpa using hkind), compileEach, compileEach, hrule, ih]
    · have hskipped : (grammar.restrict kinds).compile source command = .ok .unsupported :=
        if_neg hkind
      rw [List.filter_cons_of_neg (by simpa using hkind), compileEach_cons_of_ok hskipped, ih]
      cases grammar.compileEach source (rest.filter (·.kind ∈ kinds)) <;> rfl

end Grammar

namespace MySql

variable (dialect : MySql) (source : Source)

theorem compile_with_commands (commands : List Command) (command : Command) :
    dialect.compile { source with commands } command = dialect.compile source command := by
  cases command <;> rfl

theorem compileAll_with_commands (commands : List Command) :
    dialect.grammar.compileAll { source with commands } =
      dialect.grammar.compileEach source commands :=
  Grammar.compileEach_congr fun command _ => dialect.compile_with_commands source commands command

/-- Rules only for some kinds give exactly what all rules give for the commands of these kinds, its
error included, and a queue in two parts gives the statements of both, or the error of the first
part that has one. -/
theorem missing_rules_remove_statements :
    (∀ kinds : List CommandKind,
      (dialect.grammar.restrict kinds).compileAll source = dialect.grammar.compileAll
        { source with commands := source.commands.filter (·.kind ∈ kinds) }) ∧
    ∀ first second : List Command,
      dialect.grammar.compileAll { source with commands := first ++ second } =
        match dialect.grammar.compileAll { source with commands := first } with
        | .error error => .error error
        | .ok statements => (dialect.grammar.compileAll { source with commands := second }).map
            (statements ++ ·) := by
  constructor
  · intro kinds
    rw [compileAll_with_commands]
    exact Grammar.compileEach_restrict kinds
  · intro first second
    rw [compileAll_with_commands, compileAll_with_commands, compileAll_with_commands]
    exact Grammar.compileEach_append first second

end MySql

end SchemaLedger
