import SchemaLedger.Proofs.Plan.HeldBack
import SchemaLedger.Proofs.Plan.ImpliedNormalForm
import SchemaLedger.Proofs.Sql.Refusal

/-! # Repeated columns never reach the database

Names of columns are compared by the commands that define columns only. A blueprint with columns
always ends up with one of these: the one that creates the table, or one for the kind of each
column. So two columns of one name are refused whatever else is queued, and before anything is sent.
-/

namespace SchemaLedger

set_option autoImplicit false

namespace Blueprint

variable (blueprint : Blueprint)

theorem mem_addImplied_of_needed (hcreate : .create ∉ blueprint.commands) {command : Command}
    (hneeded : command = .change ∧ blueprint.columns.any (·.change) ∨
      command = .add ∧ blueprint.columns.any (!·.change)) :
    command ∈ blueprint.addImplied.commands := by
  rw [commands_addImplied, List.mem_append, List.mem_append]
  by_cases hqueued : command ∈ blueprint.commands
  · exact .inl (.inr hqueued)
  · exact .inl (.inl ((blueprint.mem_leadingCommands_iff hcreate).2 ⟨hqueued, hneeded⟩))

theorem exists_column_command (h : blueprint.columns ≠ []) :
    ∃ command ∈ blueprint.addImplied.commands,
      command = .create ∨ command = .add ∨ command = .change := by
  by_cases hcreate : .create ∈ blueprint.commands
  · exact ⟨.create, blueprint.create_mem_addImplied_iff.2 hcreate, by simp⟩
  · -- any one column will do: its kind says which of the two commands is queued
    obtain ⟨column, hcolumn⟩ := List.exists_mem_of_ne_nil _ h
    cases hchange : column.change with
    | true =>
      have hneeded : blueprint.columns.any (·.change) := List.any_eq_true.2 ⟨column, hcolumn, hchange⟩
      exact ⟨.change, blueprint.mem_addImplied_of_needed hcreate (.inl ⟨rfl, hneeded⟩), by simp⟩
    | false =>
      have hneeded : blueprint.columns.any (!·.change) :=
        List.any_eq_true.2 ⟨column, hcolumn, by simp [hchange]⟩
      exact ⟨.add, blueprint.mem_addImplied_of_needed hcreate (.inr ⟨rfl, hneeded⟩), by simp⟩

theorem exists_malformed_of_repeated (h : ¬ (blueprint.columns.map (·.name)).Nodup) :
    ∃ command ∈ blueprint.addImplied.source.commands,
      blueprint.addImplied.source.IsMalformed command := by
  have hcolumns : blueprint.columns ≠ [] := by
    intro hnone
    rw [hnone] at h
    exact h List.nodup_nil
  have hrepeated : ¬ (blueprint.addImplied.source.columns.map (·.name)).Nodup := by
    change ¬ (blueprint.addImplied.columns.map (·.name)).Nodup
    rwa [columns_addImplied]
  obtain ⟨command, hcommand, hdefines⟩ := blueprint.exists_column_command hcolumns
  refine ⟨command, hcommand, ?_⟩
  obtain rfl | rfl | rfl := hdefines <;> exact hrepeated

/-- Compiling any number of times leaves what is implied next as it was at first. -/
theorem addImplied_callAll_toSql (earlier : List Grammar) :
    (blueprint.callAll (earlier.map .toSql)).addImplied = blueprint.addImplied := by
  induction earlier generalizing blueprint with
  | nil => rfl
  | cons grammar earlier ih =>
    rw [List.map_cons, callAll_cons, ih]
    exact blueprint.addImplied_addImplied

end Blueprint

variable {σ : Type}

/-- A blueprint with two columns of one name is refused, always with the same error, and nothing of
it is sent, however often it was compiled before. -/
theorem repeated_columns_refused (dialect : MySql) (connection : Connection σ) (start : σ)
    (blueprint : Blueprint) (h : ¬ (blueprint.columns.map (·.name)).Nodup) :
    ∃ message, ∀ earlier : List Grammar,
      let later := blueprint.callAll (earlier.map .toSql)
      later.toSql dialect.grammar = .error (.invalidCommand message) ∧
        (later.build dialect.grammar).HeldBack connection start (.invalidCommand message) := by
  obtain ⟨error, herror⟩ :=
    MySql.exists_compileAll_error_iff.2 (blueprint.exists_malformed_of_repeated h)
  obtain ⟨command, fault, -, -, rfl⟩ := MySql.compileAll_eq_error_iff.1 herror
  refine ⟨fault.message, fun earlier => ?_⟩
  intro later
  have hlater : later.toSql dialect.grammar = .error (.invalidCommand fault.message) := by
    rw [Blueprint.toSql, blueprint.addImplied_callAll_toSql earlier]
    exact herror
  exact ⟨hlater, Blueprint.heldBack_build hlater⟩

theorem posts_refused_again :
    let dialect : MySql := { tablePrefix := "app_" }
    let blueprint : Blueprint :=
      { table := "posts", commands := [.add, .dropColumns ["nick"]]
        columns := [Column.string "title" 40, { type := .text, name := "title", change := true }] }
    let error : Error :=
      .invalidCommand "column `title` is declared more than once on table posts"
    let later := blueprint.callAll [.toSql dialect.grammar, .toSql (dialect.grammar.restrict [.drop])]
    ¬ (blueprint.columns.map (·.name)).Nodup ∧
      later.toSql dialect.grammar = .error error ∧
      (later.build dialect.grammar).HeldBack (Recorder.connection "app_") {} error := by
  intro dialect blueprint error later
  have hrepeated : ¬ (blueprint.columns.map (·.name)).Nodup := by decide
  have herror : later.toSql dialect.grammar = .error error := by decide +kernel
  obtain ⟨message, hrefused⟩ :=
    repeated_columns_refused dialect (Recorder.connection "app_") {} blueprint hrepeated
  obtain ⟨hlater, hheld⟩ := hrefused [dialect.grammar, dialect.grammar.restrict [.drop]]
  have hsame : Error.invalidCommand message = error :=
    Except.error.inj (hlater.symm.trans herror)
  exact ⟨hrepeated, herror, hsame ▸ hheld⟩

end SchemaLedger
