import SchemaLedger.Proofs.Plan.ColumnDefinitions
import SchemaLedger.Proofs.Plan.ImpliedNormalForm
import SchemaLedger.Proofs.Plan.Sending

/-! # Creating a table begins with the table

The command that creates the table is queued before the caller gets the blueprint, and it stays the
first: while it is queued, nothing is put in front. So the statement that creates the table comes
first, with all columns that are left in the end, and no statement adds columns to the table or
modifies them.
-/

namespace SchemaLedger

set_option autoImplicit false

open Text

/-- The statement modifies columns of a table or adds some to it. -/
def AltersColumns (statement : String) : Prop :=
  "ALTER TABLE ".toList <+: statement.toList ∧
    (" MODIFY ".toList <+: alteration statement ∨ " ADD \x60".toList <+: alteration statement)

theorem definesColumns_iff {statement : String} : DefinesColumns statement ↔
    "CREATE TABLE ".toList <+: statement.toList ∨ AltersColumns statement := Iff.rfl

namespace Blueprint

variable {blueprint : Blueprint} {calls : List Call}

/-- While a table is to be created, a call queues commands behind the others only. -/
theorem commands_call_of_create (hcreate : .create ∈ blueprint.commands) (call : Call)
    (hcall : ∀ command ∈ call.command?, command ∉ [.change, .add]) :
    ∃ later, (blueprint.call call).commands = blueprint.commands ++ later ∧
      ∀ command ∈ later, command ∉ [.change, .add] := by
  refine ⟨blueprint.queuedBehind call, ?_, ?_⟩
  · rw [commands_call, leadingCommands_of_create _ hcreate, ite_self, List.nil_append]
  · intro command hcommand
    obtain hcaller | himplied := blueprint.mem_queuedBehind hcommand
    · exact hcall command hcaller
    · exact fun hmem => himplied (List.mem_cons_of_mem _ hmem)

theorem commands_callAll_of_create (hcreate : .create ∈ blueprint.commands)
    (hcalls : ∀ command ∈ declaredCommands calls, command ∉ [.change, .add]) :
    ∃ later, (blueprint.callAll calls).commands = blueprint.commands ++ later ∧
      ∀ command ∈ later, command ∉ [.change, .add] := by
  induction calls generalizing blueprint with
  | nil => exact ⟨[], (List.append_nil _).symm, List.forall_mem_nil _⟩
  | cons call calls ih =>
    rw [declaredCommands_cons, List.forall_mem_append] at hcalls
    obtain ⟨first, hfirst, hfirst'⟩ := commands_call_of_create hcreate call
      fun command hcommand => hcalls.1 command (by simpa using hcommand)
    have hstill : .create ∈ (blueprint.call call).commands := by
      rw [hfirst]
      exact List.mem_append_left _ hcreate
    obtain ⟨later, hlater, hlater'⟩ := ih hstill hcalls.2
    refine ⟨first ++ later, ?_, List.forall_mem_append.2 ⟨hfirst', hlater'⟩⟩
    rw [callAll_cons, hlater, hfirst, List.append_assoc]

theorem commands_of_creation (table : String)
    (hcalls : ∀ command ∈ declaredCommands calls, command ∉ [.change, .add]) :
    ∃ later, ((({ table } : Blueprint).queue .create).callAll calls).addImplied.commands =
        .create :: later ∧ ∀ command ∈ later, command ∉ [.change, .add] := by
  have hcreate : .create ∈ (({ table } : Blueprint).queue .create).commands := List.mem_singleton_self _
  obtain ⟨declared, hdeclared, hdeclared'⟩ := commands_callAll_of_create hcreate hcalls
  have hstill : .create ∈ ((({ table } : Blueprint).queue .create).callAll calls).commands := by
    rw [hdeclared]
    exact List.mem_append_left _ hcreate
  obtain ⟨indexes, hindexes, hindexes'⟩ :=
    commands_call_of_create hstill .imply fun _ => nofun
  refine ⟨declared ++ indexes, ?_, List.forall_mem_append.2 ⟨hdeclared', hindexes'⟩⟩
  change ((({ table } : Blueprint).queue .create).callAll calls |>.call .imply).commands = _
  rw [hindexes, hdeclared, List.append_assoc]
  rfl

end Blueprint

namespace MySql

variable {dialect : MySql} {source : Source}

theorem outputs_create (h : dialect.grammar.Compiles source .create) :
    dialect.grammar.outputs source .create = [Definer.create.text (dialect.tableName source.table)
      (source.columns.map columnDefinition)] := by
  obtain ⟨compiled, hcompile⟩ := h.exists_ok
  obtain ⟨-, rfl⟩ := create_eq_ok_iff.1 hcompile
  exact Grammar.outputs_of_ok hcompile

theorem not_altersColumns_of_mem_outputs {command : Command} (hcommand : command ∉ [.change, .add])
    {statement : String} (h : statement ∈ dialect.grammar.outputs source command) :
    ¬ AltersColumns statement := by
  cases hcompile : dialect.grammar.compile source command with
  | error error => simp [Grammar.outputs, hcompile, Except.toOption] at h
  | ok compiled =>
    rw [Grammar.outputs_of_ok hcompile] at h
    by_cases hcreate : command = .create
    · subst hcreate
      obtain ⟨-, rfl⟩ := create_eq_ok_iff.1 hcompile
      obtain rfl := List.mem_singleton.1 h
      rintro ⟨⟨behind, hbehind⟩, -⟩
      have hletter := congrArg List.head? hbehind
      change _ = ("CREATE TABLE " ++ _ ++ " ( " ++ joined ", " _ ++ " )").toList.head? at hletter
      simp at hletter
    · obtain ⟨text, rfl, hnot⟩ := not_definesColumns_of_compile (by simp_all) hcompile
      obtain rfl : statement = text := List.mem_singleton.1 h
      exact fun halters => hnot (definesColumns_iff.2 (.inr halters))

end MySql

variable {σ : Type} {connection : Connection σ} {start : σ}

theorem Blueprint.sent_of_ok {blueprint : Blueprint} {grammar : Grammar}
    (h : ((blueprint.build grammar).run connection start).result = .ok ()) :
    ∃ statements, blueprint.toSql grammar = .ok statements ∧
      ((blueprint.build grammar).run connection start).sent = statements.map (.execute, ·) := by
  cases hsql : blueprint.toSql grammar with
  | error error => cases h.symm.trans (heldBack_build hsql).failed
  | ok statements =>
    have hdelivers : (blueprint.build grammar).Delivers connection start
        (statements.map (.execute, ·)) fun _ => () := delivers_build hsql
    cases hdelivers with
    | complete accepted ends => exact ⟨statements, rfl, ends.sent_eq⟩
    | stopped split accepted rejected ends => cases h.symm.trans ends.result_eq

/-- Whatever is done with the blueprint of a new table, the statement that creates the table with
all columns that are left is sent first, and none that adds columns or modifies them is sent at
all. -/
theorem creation_sent_first (dialect : MySql) (connection : Connection σ) (start : σ)
    (table : String) {calls : List Blueprint.Call}
    (hcalls : ∀ command ∈ Blueprint.declaredCommands calls, command ∉ [.change, .add])
    (hok : (((⟨dialect.grammar⟩ : Schema).create table (·.callAll calls)).run connection
      start).result = .ok ()) :
    let sent := (((⟨dialect.grammar⟩ : Schema).create table (·.callAll calls)).run connection
      start).sent
    let columns := Blueprint.declaredColumns calls
    sent.head? = some (.execute, Definer.create.text (dialect.tableName table)
        (columns.map MySql.columnDefinition)) ∧
      ∀ sending ∈ sent, ¬ AltersColumns sending.2 := by
  intro sent columns
  let blueprint := (({ table } : Blueprint).queue .create).callAll calls
  obtain ⟨statements, hsql, hsent⟩ := Blueprint.sent_of_ok hok
  change blueprint.toSql dialect.grammar = .ok statements at hsql
  obtain ⟨hcompiles, rfl⟩ := Grammar.compileEach_eq_ok_iff.1 hsql
  obtain ⟨later, hcommands, hlater⟩ := Blueprint.commands_of_creation table hcalls
  change blueprint.addImplied.source.commands = .create :: later at hcommands
  have htable : blueprint.addImplied.source.table = table := by
    change blueprint.addImplied.table = table
    rw [blueprint.table_addImplied, Blueprint.table_callAll]
    rfl
  have hcolumns : blueprint.addImplied.source.columns = columns := by
    change blueprint.addImplied.columns = columns
    rw [blueprint.columns_addImplied, Blueprint.columns_callAll]
    rfl
  change sent = _ at hsent
  rw [hcommands] at hcompiles hsent
  rw [hsent]
  constructor
  · rw [List.flatMap_cons, MySql.outputs_create (hcompiles .create List.mem_cons_self), htable,
      hcolumns]
    rfl
  · intro sending hsending
    obtain ⟨statement, hstatement, rfl⟩ := List.mem_map.1 hsending
    obtain ⟨command, hcommand, houtput⟩ := List.mem_flatMap.1 hstatement
    refine MySql.not_altersColumns_of_mem_outputs ?_ houtput
    obtain rfl | hcommand := List.mem_cons.1 hcommand
    · simp
    · exact hlater command hcommand

theorem posts_created_first :
    let dialect : MySql := { tablePrefix := "app_" }
    let slug : Column := { Column.string "slug" 40 with unique := true, change := true }
    let calls : List Blueprint.Call :=
      [.queue (.index ⟨"by_age", ["age"], none⟩), .declare (Column.increments .integer "id"), .imply,
        .declare slug, .toSql dialect.grammar, .removeColumn "id", .imply,
        .declare { type := .integer, name := "age" }]
    let run := ((⟨dialect.grammar⟩ : Schema).create "posts" (·.callAll calls)).run
      (Recorder.connection "app_") {}
    (∀ command ∈ Blueprint.declaredCommands calls, command ∉ [.change, .add]) ∧
      run.result = .ok () ∧ run.sent.length = 3 ∧
      run.sent.head? = some (.execute,
        "CREATE TABLE `app_posts` ( `slug` varchar(40) NOT NULL, `age` int NOT NULL )") ∧
      ∀ sending ∈ run.sent, ¬ AltersColumns sending.2 := by
  intro dialect slug calls run
  have hcalls : ∀ command ∈ Blueprint.declaredCommands calls, command ∉ [.change, .add] := by
    decide
  have hok : run.result = .ok () := by decide +kernel
  have htext : Definer.create.text (dialect.tableName "posts")
      ((Blueprint.declaredColumns calls).map MySql.columnDefinition) =
        "CREATE TABLE `app_posts` ( `slug` varchar(40) NOT NULL, `age` int NOT NULL )" := by
    decide +kernel
  obtain ⟨hfirst, hnone⟩ :=
    creation_sent_first dialect (Recorder.connection "app_") {} "posts" hcalls hok
  exact ⟨hcalls, hok, by decide +kernel, htext ▸ hfirst, hnone⟩

end SchemaLedger
