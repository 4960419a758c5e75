import Mathlib.Data.List.Nodup
import SchemaLedger.Proofs.Plan.ImpliedCommands
import SchemaLedger.Sql.MySql

/-! # The indexes of flagged columns

A column that is flagged for an index gets one of its usual name, and something of that name is
queued in any case. It need not be the index of the column: names that differ only in case, dashes
and points give the same usual name, and an index or key over other columns may have been declared
with it.
-/

namespace SchemaLedger

set_option autoImplicit false

/-- The column is flagged for an index of the kind. -/
def Column.wants (column : Column) : IndexKind → Bool
  | .unique => column.unique
  | .index => column.index
  | .primary | .foreign => false

namespace Blueprint

variable {blueprint : Blueprint} {kind : IndexKind}

theorem mem_flagged_iff {name : String} : (kind, name) ∈ blueprint.flagged ↔
    ∃ column ∈ blueprint.columns, column.wants kind ∧ column.name = name := by
  unfold flagged
  rw [List.mem_flatMap]
  refine exists_congr fun column => and_congr_right fun _ => ?_
  cases hunique : column.unique <;> cases hindex : column.index <;> cases kind <;>
    simp [Column.wants, hunique, hindex, eq_comm]

theorem mem_addImplied_iff {command : Command} : command ∈ blueprint.addImplied.commands ↔
    command ∈ blueprint.leadingCommands ∨ command ∈ blueprint.commands ∨
      ∃ wanted, blueprint.usualName wanted ∉ blueprint.indexNames ∧
        blueprint.flagged.find? (blueprint.usualName · = blueprint.usualName wanted) =
          some wanted ∧ command = blueprint.impliedIndex wanted := by
  rw [addImplied_eq_append]
  simp only [List.mem_append, List.mem_map, mem_firstNamed_iff, or_assoc, and_assoc, eq_comm]

theorem usual_name_queued {wanted : IndexKind × String} (h : wanted ∈ blueprint.flagged) :
    blueprint.usualName wanted ∈ blueprint.addImplied.indexNames := by
  rw [indexNames_addImplied, List.mem_append, List.mem_map]
  exact exists_mem_firstNamed h

/-- A flagged column has an index of its own exactly when one is declared over it, or when its usual
name is free of declared indexes and keys and no column flagged before has the same. -/
theorem flagged_column_indexed_iff (blueprint : Blueprint) {column : Column} {kind : IndexKind}
    (hcolumn : column ∈ blueprint.columns) (hwants : column.wants kind) :
    let name := blueprint.usualName (kind, column.name)
    name ∈ blueprint.addImplied.indexNames ∧
      ((∃ command ∈ blueprint.addImplied.commands,
          command.indexed? = some (kind, [column.name])) ↔
        (∃ command ∈ blueprint.commands, command.indexed? = some (kind, [column.name])) ∨
          name ∉ blueprint.indexNames ∧
            blueprint.flagged.find? (blueprint.usualName · = name) = some (kind, column.name)) := by
  intro name
  have hflagged : (kind, column.name) ∈ blueprint.flagged :=
    mem_flagged_iff.2 ⟨column, hcolumn, hwants, rfl⟩
  refine ⟨usual_name_queued hflagged, ?_⟩
  constructor
  · rintro ⟨command, hcommand, hindexed⟩
    obtain hleading | hdeclared | ⟨wanted, hfree, hfirst, rfl⟩ := mem_addImplied_iff.1 hcommand
    · obtain rfl | rfl := eq_of_mem_leadingCommands _ hleading <;> cases hindexed
    · exact .inl ⟨command, hdeclared, hindexed⟩
    · rw [impliedIndex, Command.indexed?_ofIndex] at hindexed
      have hwanted : wanted = (kind, column.name) := by
        obtain ⟨wantedKind, wantedColumn⟩ := wanted
        simpa using hindexed
      subst hwanted
      exact .inr ⟨hfree, hfirst⟩
  · rintro (⟨command, hdeclared, hindexed⟩ | ⟨hfree, hfirst⟩)
    · exact ⟨command, mem_addImplied_iff.2 (.inr (.inl hdeclared)), hindexed⟩
    · exact ⟨blueprint.impliedIndex (kind, column.name),
        mem_addImplied_iff.2 (.inr (.inr ⟨_, hfree, hfirst, rfl⟩)), Command.indexed?_ofIndex ..⟩

theorem email_indexed_beside_declared_key :
    let email : Column := { Column.string "E-Mail" 80 with unique := true, index := true }
    let nick : Column := { Column.string "nick" 40 with unique := true }
    let blueprint : Blueprint :=
      { table := "users", columns := [nick, email]
        commands := [.foreign { name := "users_e_mail_index", columns := ["E-Mail"] }] }
    email ∈ blueprint.columns ∧ email.wants .unique ∧
      ∃ command ∈ blueprint.addImplied.commands,
        command.indexed? = some (.unique, [email.name]) := by
  intro email nick blueprint
  have hcolumn : email ∈ blueprint.columns := .tail _ (.head _)
  have hwants : email.wants .unique := rfl
  have hfree : blueprint.usualName (.unique, email.name) ∉ blueprint.indexNames := by
    decide +kernel
  have hfirst : blueprint.flagged.find?
      (blueprint.usualName · = blueprint.usualName (.unique, email.name)) =
        some (.unique, email.name) := by decide +kernel
  obtain ⟨-, hindexed⟩ := flagged_column_indexed_iff blueprint hcolumn hwants
  exact ⟨hcolumn, hwants, hindexed.2 (.inr ⟨hfree, hfirst⟩)⟩

/-- Two columns are declared unique, and only the first of them is made so. -/
theorem unique_column_without_index :
    let dashed : Column := { Column.string "first-name" 40 with unique := true }
    let underscored : Column := { Column.string "first_name" 40 with unique := true }
    let blueprint : Blueprint := { table := "people", columns := [dashed, underscored] }
    let dialect : MySql := { tablePrefix := "" }
    underscored ∈ blueprint.columns ∧ underscored.wants .unique ∧
      (¬ ∃ command ∈ blueprint.addImplied.commands,
        command.indexed? = some (.unique, [underscored.name])) ∧
      blueprint.toSql dialect.grammar = .ok
        ["ALTER TABLE `people` ADD `first-name` varchar(40) NOT NULL, " ++
            "ADD `first_name` varchar(40) NOT NULL",
          "ALTER TABLE `people` ADD UNIQUE `people_first_name_unique` (`first-name`)"] := by
  intro dashed underscored blueprint dialect
  -- deciding that two computed names agree is slow, comparing each with its text is not
  have hdashed : blueprint.usualName (.unique, "first-name") = "people_first_name_unique" := by
    decide +kernel
  have hunderscored :
      blueprint.usualName (.unique, "first_name") = "people_first_name_unique" := by
    decide +kernel
  have hnew : firstNamed blueprint.usualName blueprint.indexNames blueprint.flagged =
      [(.unique, "first-name")] := by
    change firstNamed blueprint.usualName []
      [(.unique, "first-name"), (.unique, "first_name")] = _
    simp [firstNamed, hdashed, hunderscored]
  have himplied : blueprint.addImplied = { blueprint with
      commands := [.add, .unique ⟨"people_first_name_unique", ["first-name"], none⟩] } := by
    rw [addImplied_eq_append, hnew, List.map_singleton, impliedIndex, hdashed]
    rfl
  refine ⟨.tail _ (.head _), rfl, ?_, ?_⟩
  · rw [himplied]
    simp [Command.indexed?, underscored, Column.string]
  · rw [toSql, himplied]
    decide +kernel

end Blueprint

end SchemaLedger
