import SchemaLedger.Proofs.Plan.ImpliedNormalForm
import SchemaLedger.Proofs.Plan.QueryCalls
import SchemaLedger.Proofs.Sql.DefinitionReading
import SchemaLedger.Proofs.Sql.Refusal

/-! # Empty lists in statements

A command whose statement would hold an empty list is refused, or it compiles to no statement. The
creation of a table without columns is the exception: nothing asks for its columns, and it is
written with an empty list of them.
-/

namespace SchemaLedger

set_option autoImplicit false

open Text

namespace MySql

/-- The statement is that of a command of the source, with an item in each of its lists. -/
def WrittenInFull (dialect : MySql) (source : Source) (statement : String) : Prop :=
  ∃ command ∈ source.commands, statement = Piece.textAll (dialect.pieces source command) ∧
    .items [] ∉ dialect.pieces source command

variable {dialect : MySql} {source : Source} {command : Command} {statements : List String}

theorem cases_of_empty_list (h : .items [] ∈ dialect.pieces source command) :
    command = .create ∧ source.columns = [] ∨ source.IsMalformed command ∨ source.IsIdle command := by
  cases command with
  | create =>
    have hcolumns : source.columns = [] := by simpa [pieces] using h
    exact .inl ⟨rfl, hcolumns⟩
  | add =>
    have hadded : source.addedColumns = [] := by simpa [pieces, clausePieces] using h
    exact .inr (.inr hadded)
  | change =>
    have hchanged : source.changedColumns = [] := by simpa [pieces, clausePieces] using h
    exact .inr (.inr hchanged)
  | dropColumns columns =>
    have hcolumns : columns = [] := by simpa [pieces, clausePieces] using h
    exact .inr (.inl hcolumns)
  | primary new | unique new | index new =>
    have hcolumns : new.columns = [] := by simpa [pieces, indexPieces] using h
    exact .inr (.inl hcolumns)
  | foreign key =>
    have hlists : key.columns = [] ∨ key.references = [] := by simpa [pieces] using h
    exact .inr (.inl (.inr hlists))
  | insert data =>
    have hdata : data.entries = [] := by simpa [pieces, Bag.keys, Bag.values] using h
    exact .inr (.inl hdata)
  | update data =>
    have hdata : data.entries = [] := by simpa [pieces] using h
    exact .inr (.inl hdata)
  | drop | dropIfExists | rename newName | renameColumn oldName newName | delete | find =>
    simp [pieces] at h

/-- No other command than the creation of a table is written with an empty list. -/
theorem compile_of_empty_list (h : .items [] ∈ dialect.pieces source command)
    (hcreate : command ≠ .create) :
    (∃ fault, source.Fault command fault ∧
        dialect.compile source command = .error (.invalidCommand fault.message)) ∨
      dialect.compile source command = .ok (.statements []) := by
  by_cases hmalformed : source.IsMalformed command
  · obtain ⟨fault, hfault⟩ := isMalformed_iff.1 hmalformed
    exact .inl ⟨fault, hfault, compile_of_fault hfault⟩
  · have hidle : source.IsIdle command := by
      obtain ⟨rfl, -⟩ | hother := cases_of_empty_list h
      · exact absurd rfl hcreate
      · exact hother.resolve_left hmalformed
    rw [compile_of_not_malformed hmalformed, if_pos hidle]
    exact .inr rfl

theorem textAll_pieces_create : Piece.textAll (dialect.pieces source .create) =
    Definer.create.text (dialect.tableName source.table) (source.columns.map columnDefinition) := by
  unfold Definer.text
  simp [pieces, Piece.textAll, Piece.text, String.append_assoc]

theorem writtenInFull_or_creation (h : dialect.grammar.compileAll source = .ok statements)
    {statement : String} (hstatement : statement ∈ statements) :
    dialect.WrittenInFull source statement ∨
      statement = Definer.create.text (dialect.tableName source.table) [] ∧
        .create ∈ source.commands ∧ source.columns = [] := by
  obtain ⟨hmalformed, rfl⟩ := compileAll_eq_ok_iff.1 h
  obtain ⟨command, hcommand, rfl⟩ := List.mem_map.1 hstatement
  obtain ⟨hcommand, hidle⟩ := List.mem_filter.1 hcommand
  by_cases hempty : .items [] ∈ dialect.pieces source command
  · obtain ⟨rfl, hcolumns⟩ | hother := cases_of_empty_list hempty
    · refine .inr ⟨?_, hcommand, hcolumns⟩
      rw [textAll_pieces_create, hcolumns, List.map_nil]
    · exact absurd (hother.resolve_left (hmalformed _ hcommand)) (by simpa using hidle)
  · exact .inl ⟨command, hcommand, rfl, hempty⟩

theorem creation_mem_of_no_columns (h : dialect.grammar.compileAll source = .ok statements)
    (hcreate : .create ∈ source.commands) (hcolumns : source.columns = []) :
    Definer.create.text (dialect.tableName source.table) [] ∈ statements := by
  obtain ⟨-, rfl⟩ := compileAll_eq_ok_iff.1 h
  refine List.mem_map.2 ⟨.create, List.mem_filter.2 ⟨hcreate, by simp [Source.IsIdle]⟩, ?_⟩
  rw [textAll_pieces_create, hcolumns, List.map_nil]

theorem creation_ne_of_columns {columns : List Column} (h : columns ≠ []) (table other : String) :
    Definer.create.text (dialect.tableName table) [] ≠
      Definer.create.text (dialect.tableName other) (columns.map columnDefinition) := by
  intro htext
  have htexts := congrArg String.toList htext
  unfold Definer.text at htexts
  simp only [String.toList_append, List.append_assoc, List.append_cancel_left_eq] at htexts
  obtain ⟨-, hbehind⟩ := dialect.readable_tableName _ _ _ _ (apart_append _ (by decide))
    (apart_append _ (by decide)) htexts
  exact definitions_ne_closing h (List.append_cancel_left hbehind).symm

/-- Of what a blueprint compiles to, only the creation of a table without columns holds an empty
list, and it does whenever it is queued. What a query compiles to holds none. -/
theorem empty_list_in_creations_only (dialect : MySql) :
    (∀ (source : Source) (command : Command), .items [] ∈ dialect.pieces source command →
      command ≠ .create →
        (∃ fault, source.Fault command fault ∧
          dialect.compile source command = .error (.invalidCommand fault.message)) ∨
        dialect.compile source command = .ok (.statements [])) ∧
    (∀ (blueprint : Blueprint) (statements : List String),
      blueprint.toSql dialect.grammar = .ok statements →
        let bare := Definer.create.text (dialect.tableName blueprint.table) []
        (∀ statement ∈ statements, dialect.WrittenInFull blueprint.addImplied.source statement ∨
          statement = bare ∧ .create ∈ blueprint.commands ∧ blueprint.columns = []) ∧
        (.create ∈ blueprint.commands → blueprint.columns = [] → bare ∈ statements)) ∧
    ∀ (table : String) (calls : List Query.Call) (statements : List String),
      (Query.ofCalls table calls).toSql dialect.grammar = .ok statements →
        ∀ statement ∈ statements,
          dialect.WrittenInFull (Query.ofCalls table calls).source statement := by
  refine ⟨fun source command => compile_of_empty_list, ?_, ?_⟩
  · intro blueprint statements hsql bare
    have htable : blueprint.addImplied.source.table = blueprint.table := blueprint.table_addImplied
    have hcolumns : blueprint.addImplied.source.columns = blueprint.columns :=
      blueprint.columns_addImplied
    have hcreate : .create ∈ blueprint.addImplied.source.commands ↔ .create ∈ blueprint.commands :=
      blueprint.create_mem_addImplied_iff
    constructor
    · intro statement hstatement
      have hcases := writtenInFull_or_creation hsql hstatement
      rwa [htable, hcolumns, hcreate] at hcases
    · intro hqueued hnone
      have hmem := creation_mem_of_no_columns hsql (hcreate.2 hqueued) (hcolumns.trans hnone)
      rwa [htable] at hmem
  · intro table calls statements hsql statement hstatement
    refine (writtenInFull_or_creation hsql hstatement).resolve_right ?_
    rintro ⟨-, hcreate, -⟩
    rw [Query.ofCalls_eq] at hcreate
    obtain ⟨call, -, hcall⟩ := List.mem_filterMap.1 hcreate
    cases call <;> cases hcall

theorem posts_written_in_full :
    let dialect : MySql := { tablePrefix := "app_" }
    let blueprint : Blueprint :=
      { table := "posts", columns := [{ Column.string "slug" 40 with unique := true }]
        commands := [.dropColumns ["nick"]] }
    let statements := ["ALTER TABLE `app_posts` ADD `slug` varchar(40) NOT NULL",
      "ALTER TABLE `app_posts` DROP `nick`",
      "ALTER TABLE `app_posts` ADD UNIQUE `posts_slug_unique` (`slug`)"]
    let calls : List Query.Call := [.insert (.single "slug" .null), .find]
    let reads := ["INSERT INTO `app_posts` (`slug`) VALUES (NULL)", "SELECT * FROM `app_posts` LIMIT 10"]
    blueprint.toSql dialect.grammar = .ok statements ∧
      (∀ statement ∈ statements, dialect.WrittenInFull blueprint.addImplied.source statement) ∧
      (Query.ofCalls "posts" calls).toSql dialect.grammar = .ok reads ∧
      ∀ statement ∈ reads, dialect.WrittenInFull (Query.ofCalls "posts" calls).source statement := by
  intro dialect blueprint statements calls reads
  have hsql : blueprint.toSql dialect.grammar = .ok statements := by decide +kernel
  have hreads : (Query.ofCalls "posts" calls).toSql dialect.grammar = .ok reads := by decide +kernel
  obtain ⟨-, hblueprints, hqueries⟩ := empty_list_in_creations_only dialect
  refine ⟨hsql, fun statement hstatement => ?_, hreads, hqueries "posts" calls reads hreads⟩
  refine ((hblueprints blueprint statements hsql).1 statement hstatement).resolve_right ?_
  exact fun hbare => List.cons_ne_nil _ _ hbare.2.2

/-- A table that is created without columns is created with an empty list of them, which is the text
of no creation with columns. -/
theorem table_created_without_columns :
    let dialect : MySql := { tablePrefix := "" }
    let blueprint : Blueprint := { table := "t", commands := [.create] }
    let statement := "CREATE TABLE `t` (  )"
    blueprint.toSql dialect.grammar = .ok [statement] ∧
      statement = Piece.textAll (dialect.pieces blueprint.addImplied.source .create) ∧
      .items [] ∈ dialect.pieces blueprint.addImplied.source .create ∧
      ∀ (table : String) (columns : List Column), columns ≠ [] →
        statement ≠ Definer.create.text (dialect.tableName table) (columns.map columnDefinition) := by
  intro dialect blueprint statement
  have htext : statement = Definer.create.text (dialect.tableName "t") [] := by decide +kernel
  refine ⟨by decide +kernel, by decide +kernel, by decide +kernel, fun table columns hcolumns => ?_⟩
  rw [htext]
  exact creation_ne_of_columns hcolumns "t" table

end MySql

end SchemaLedger
