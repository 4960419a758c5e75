import Mathlib.Data.List.Nodup
import SchemaLedger.Proofs.Plan.ImpliedCommands
import SchemaLedger.Proofs.Sql.Compilation
import SchemaLedger.Proofs.Sql.RecordStatement

/-! # Every column is defined once

Three kinds of statements define columns: the one that creates the table, the one that modifies its
columns and the one that adds columns to it. What a blueprint compiles to holds each of its columns
in one of these, and there once.
-/

namespace SchemaLedger

set_option autoImplicit false

open Text

inductive Definer where
  | create
  | modify
  | add
  deriving DecidableEq

/-- The statement of this kind with a list of definitions. -/
def Definer.text (table : String) (definitions : List String) : Definer → String
  | create => "CREATE TABLE " ++ table ++ " ( " ++ joined ", " definitions ++ " )"
  | modify => "ALTER TABLE " ++ table ++ " " ++ joined ", " (definitions.map ("MODIFY " ++ ·))
  | add => "ALTER TABLE " ++ table ++ " " ++ joined ", " (definitions.map ("ADD " ++ ·))

/-- What stands behind the table in a statement that alters one. -/
def alteration (statement : String) : List Char :=
  ((readDoubled? MySql.identifierQuote (statement.toList.drop "ALTER TABLE \x60".length)).map
    Prod.snd).getD []

/-- The statement creates a table, modifies columns or adds columns: behind ADD, only the name of a
column begins with a quote. -/
def DefinesColumns (statement : String) : Prop :=
  "CREATE TABLE ".toList <+: statement.toList ∨ "ALTER TABLE ".toList <+: statement.toList ∧
    (" MODIFY ".toList <+: alteration statement ∨ " ADD \x60".toList <+: alteration statement)

instance (statement : String) : Decidable (DefinesColumns statement) :=
  inferInstanceAs (Decidable (_ ∨ _ ∧ (_ ∨ _)))

theorem exists_joined_cons (separator text : String) (rest : List String) :
    ∃ behind, joined separator (text :: rest) = text ++ behind := by
  cases rest with
  | nil => exact ⟨"", by simp [joined]⟩
  | cons next rest =>
    exact ⟨separator ++ joined separator (next :: rest), by simp [joined, String.append_assoc]⟩

theorem not_definesColumns_of_head? {statement : String}
    (h : statement.toList.head? ≠ some 'C' ∧ statement.toList.head? ≠ some 'A') :
    ¬ DefinesColumns statement := by
  rintro (⟨behind, hbehind⟩ | ⟨⟨behind, hbehind⟩, -⟩) <;> simp [← hbehind] at h

theorem alteration_alter (name change : String) :
    alteration ("ALTER TABLE " ++ MySql.identifier name ++ " " ++ change) = ' ' :: change.toList := by
  have hlength : "ALTER TABLE \x60".length = 13 := by decide
  have hdrop : ("ALTER TABLE " ++ MySql.identifier name ++ " " ++ change).toList.drop 13 =
      doubled MySql.identifierQuote name.toList ++
        MySql.identifierQuote :: ' ' :: change.toList := by
    simp [MySql.identifier, quoted]
  rw [alteration, hlength, hdrop, readDoubled?_doubled _ _ (by simp [MySql.identifierQuote])]
  rfl

theorem definesColumns_alter_iff {name change : String} :
    DefinesColumns ("ALTER TABLE " ++ MySql.identifier name ++ " " ++ change) ↔
      "MODIFY ".toList <+: change.toList ∨ "ADD \x60".toList <+: change.toList := by
  rw [DefinesColumns, alteration_alter]
  simp

namespace MySql

theorem firstRepeated?_eq_none_iff {seen names : List String} :
    firstRepeated? seen names = none ↔ names.Nodup ∧ ∀ name ∈ names, name ∉ seen := by
  induction names generalizing seen with
  | nil => simp [firstRepeated?]
  | cons name rest ih =>
    rw [firstRepeated?]
    by_cases hseen : name ∈ seen
    · simp [hseen]
    · rw [if_neg hseen, ih, List.nodup_cons, List.forall_mem_cons]
      constructor
      · rintro ⟨hnodup, hrest⟩
        have hnew : name ∉ rest := fun hname => hrest name hname List.mem_cons_self
        exact ⟨⟨hnew, hnodup⟩, hseen, fun other hother h => hrest other hother (.tail name h)⟩
      · rintro ⟨⟨hnew, hnodup⟩, -, hrest⟩
        refine ⟨hnodup, fun other hother h => ?_⟩
        obtain rfl | h := List.mem_cons.1 h
        · exact hnew hother
        · exact hrest other hother h

theorem requireDistinctColumns_eq_ok_iff {source : Source} :
    requireDistinctColumns source = .ok () ↔ (source.columns.map (·.name)).Nodup := by
  have hnone : firstRepeated? [] (source.columns.map (·.name)) = none ↔
      (source.columns.map (·.name)).Nodup := by
    rw [firstRepeated?_eq_none_iff]
    simp
  rw [← hnone, requireDistinctColumns]
  cases firstRepeated? [] (source.columns.map (·.name)) <;> simp

theorem name_eq_of_columnDefinition {first second : Column}
    (h : columnDefinition first = columnDefinition second) : first.name = second.name := by
  have htexts := congrArg String.toList h
  simp only [columnDefinition, String.toList_append, List.append_assoc] at htexts
  exact (readable_identifier _ _ _ _ (apart_append _ (by decide)) (apart_append _ (by decide))
    htexts).1

theorem nodup_columnDefinition {columns : List Column} (h : (columns.map (·.name)).Nodup) :
    (columns.map columnDefinition).Nodup := by
  refine List.Nodup.map_on ?_ h.of_map
  intro first hfirst second hsecond hdefinition
  exact List.inj_on_of_nodup_map h hfirst hsecond (name_eq_of_columnDefinition hdefinition)

def definitionLists (source : Source) : Command → List (Definer × List Column)
  | .create => [(.create, source.columns)]
  | .add => if source.addedColumns = [] then [] else [(.add, source.addedColumns)]
  | .change => if source.changedColumns = [] then [] else [(.modify, source.changedColumns)]
  | _ => []

variable {dialect : MySql} {source : Source}

theorem distinct_eq_ok_iff {result compiled : Compiled} :
    (do requireDistinctColumns source; return result) = .ok compiled ↔
      (source.columns.map (·.name)).Nodup ∧ compiled = result := by
  rw [← requireDistinctColumns_eq_ok_iff]
  cases requireDistinctColumns source with
  | error error => exact ⟨nofun, fun h => nomatch h.1⟩
  | ok _ => exact ⟨fun h => ⟨rfl, (Except.ok.inj h).symm⟩, fun h => congrArg Except.ok h.2.symm⟩

theorem create_eq_ok_iff {compiled : Compiled} : dialect.create source = .ok compiled ↔
    (source.columns.map (·.name)).Nodup ∧
      compiled = .one (Definer.create.text (dialect.tableName source.table)
        (source.columns.map columnDefinition)) :=
  distinct_eq_ok_iff

theorem alterColumns_eq_ok_iff {columns : List Column} {verb : String} {compiled : Compiled} :
    dialect.alterColumns source columns verb = .ok compiled ↔
      (source.columns.map (·.name)).Nodup ∧
        compiled = if columns = [] then .statements [] else
          .one (dialect.alterTable source
            (joined ", " (columns.map fun column => verb ++ " " ++ columnDefinition column))) := by
  cases columns with
  | nil => exact distinct_eq_ok_iff
  | cons column columns => exact distinct_eq_ok_iff

theorem nodup_of_definitionLists {command : Command} (h : dialect.grammar.Compiles source command)
    (hlists : definitionLists source command ≠ []) : (source.columns.map (·.name)).Nodup := by
  obtain ⟨compiled, hcompile⟩ := h.exists_ok
  change dialect.compile source command = .ok compiled at hcompile
  cases command with
  | create => exact (create_eq_ok_iff.1 hcompile).1
  | add | change => exact (alterColumns_eq_ok_iff.1 hcompile).1
  | _ => exact absurd rfl hlists

theorem filter_one {statement : String} (h : DefinesColumns statement) :
    (Compiled.one statement).toList.filter (DefinesColumns ·) = [statement] := by
  simp [Compiled.one, Compiled.toList, h]

theorem filter_one_of_not {statement : String} (h : ¬ DefinesColumns statement) :
    (Compiled.one statement).toList.filter (DefinesColumns ·) = [] := by
  simp [Compiled.one, Compiled.toList, h]

theorem not_definesColumns_alterTable {change : String} (hword : ¬ "MODIFY ".toList <+: change.toList)
    (hname : ¬ "ADD \x60".toList <+: change.toList) :
    ¬ DefinesColumns (dialect.alterTable source change) := by
  rw [alterTable, tableName, definesColumns_alter_iff]
  exact not_or.2 ⟨hword, hname⟩

theorem filter_alterColumns {definer : Definer} {columns : List Column} {verb : String}
    {compiled : Compiled}
    (htext : ∀ table definitions, definer.text table definitions =
      "ALTER TABLE " ++ table ++ " " ++ joined ", " (definitions.map (verb ++ " " ++ ·)))
    (hdefines : ∀ column behind,
      "MODIFY ".toList <+: (verb ++ " " ++ columnDefinition column ++ behind).toList ∨
        "ADD \x60".toList <+: (verb ++ " " ++ columnDefinition column ++ behind).toList)
    (h : dialect.alterColumns source columns verb = .ok compiled) :
    compiled.toList.filter (DefinesColumns ·) =
      (if columns = [] then [] else [(definer, columns)]).map fun list =>
        list.1.text (dialect.tableName source.table) (list.2.map columnDefinition) := by
  obtain ⟨-, rfl⟩ := alterColumns_eq_ok_iff.1 h
  cases columns with
  | nil => rfl
  | cons column columns =>
    simp only [reduceCtorEq, if_false, List.map_singleton, htext, List.map_map]
    refine filter_one ?_
    rw [alterTable, tableName, definesColumns_alter_iff, List.map_cons]
    obtain ⟨behind, hbehind⟩ := exists_joined_cons ", " (verb ++ " " ++ columnDefinition column)
      (columns.map fun column => verb ++ " " ++ columnDefinition column)
    rw [hbehind]
    exact hdefines column behind

theorem addIndex_eq_ok {index : Index} {what : String} {compiled : Compiled}
    (h : dialect.addIndex source index what = .ok compiled) :
    ∃ behind, compiled = .one (dialect.alterTable source ("ADD " ++ what ++ behind)) := by
  unfold addIndex at h
  split at h
  · cases h
  · obtain rfl := Except.ok.inj h
    exact ⟨optional " USING " (index.algorithm.map upper) ++ " (" ++ identifiers index.columns ++ ")",
      by simp only [String.append_assoc]⟩

theorem not_definesColumns_of_compile {command : Command} {compiled : Compiled}
    (hcommand : command ∉ [.create, .add, .change])
    (h : dialect.compile source command = .ok compiled) :
    ∃ statement, compiled = .one statement ∧
      ¬ DefinesColumns statement := by
  cases command with
  | create | add | change => simp at hcommand
  | drop | dropIfExists | rename newName =>
    obtain rfl := Except.ok.inj h
    exact ⟨_, rfl, not_definesColumns_of_head? (by simp)⟩
  | dropColumns columns =>
    cases columns with
    | nil => cases h
    | cons column columns =>
      obtain rfl := Except.ok.inj h
      obtain ⟨behind, hbehind⟩ := exists_joined_cons ", " ("DROP " ++ identifier column)
        (columns.map fun column => "DROP " ++ identifier column)
      refine ⟨_, rfl, not_definesColumns_alterTable ?_ ?_⟩ <;>
        simp [List.map_cons, hbehind]
  | renameColumn oldName newName =>
    obtain rfl := Except.ok.inj h
    exact ⟨_, rfl, not_definesColumns_alterTable (by simp) (by simp)⟩
  | primary index | unique index | index index =>
    obtain ⟨behind, rfl⟩ := addIndex_eq_ok h
    exact ⟨_, rfl, not_definesColumns_alterTable (by simp) (by simp)⟩
  | foreign key =>
    simp only [MySql.compile, addForeignKey] at h
    split at h
    · cases h
    · split at h
      · cases h
      · obtain rfl := Except.ok.inj h
        exact ⟨_, rfl, not_definesColumns_alterTable (by simp) (by simp)⟩
  | insert data =>
    simp only [MySql.compile, insert_eq] at h
    split at h
    · cases h
    · obtain rfl := Except.ok.inj h
      exact ⟨_, rfl, not_definesColumns_of_head? (by unfold insertText; simp)⟩
  | update data =>
    simp only [MySql.compile, update_eq] at h
    split at h
    · cases h
    · obtain rfl := Except.ok.inj h
      exact ⟨_, rfl, not_definesColumns_of_head? (by unfold updateText; simp)⟩
  | delete =>
    obtain rfl := Except.ok.inj h
    exact ⟨_, rfl, not_definesColumns_of_head? (by unfold MySql.delete; simp)⟩
  | find =>
    obtain rfl := Except.ok.inj h
    exact ⟨_, rfl, not_definesColumns_of_head? (by unfold MySql.find; simp)⟩

theorem filter_outputs {command : Command} (h : dialect.grammar.Compiles source command) :
    (dialect.grammar.outputs source command).filter (DefinesColumns ·) =
      (definitionLists source command).map fun list =>
        list.1.text (dialect.tableName source.table) (list.2.map columnDefinition) := by
  obtain ⟨compiled, hcompile⟩ := h.exists_ok
  rw [Grammar.outputs_of_ok hcompile]
  change dialect.compile source command = .ok compiled at hcompile
  cases command with
  | create =>
    obtain ⟨-, rfl⟩ := create_eq_ok_iff.1 hcompile
    refine filter_one (.inl ?_)
    unfold Definer.text
    simp [String.append_assoc]
  | add =>
    refine filter_alterColumns (fun _ _ => ?_) (fun column behind => .inr ?_) hcompile
    · unfold Definer.text
      simp
    · simp [columnDefinition, identifier, quoted, identifierQuote, String.append_assoc]
  | change =>
    refine filter_alterColumns (fun _ _ => ?_) (fun column behind => .inl ?_) hcompile
    · unfold Definer.text
      simp
    · simp [String.append_assoc]
  | _ =>
    obtain ⟨statement, rfl, hnot⟩ := not_definesColumns_of_compile (by simp) hcompile
    exact filter_one_of_not hnot

end MySql

namespace Blueprint

variable (blueprint : Blueprint)

def columnCommands : List Command :=
  if blueprint.creating then []
  else
    (if blueprint.source.changedColumns = [] then [] else [.change]) ++
      (if blueprint.source.addedColumns = [] then [] else [.add])

variable {blueprint}

theorem addImplied_eq (hadd : .add ∉ blueprint.commands) (hchange : .change ∉ blueprint.commands) :
    ∃ later, blueprint.addImplied = { blueprint with
        commands := blueprint.columnCommands ++ blueprint.commands ++ later } ∧
      ∀ command ∈ later, command.indexName? ≠ none := by
  have hleading : blueprint.leadingCommands = blueprint.columnCommands := by
    simp [leadingCommands, columnCommands, hadd, hchange]
  refine ⟨_, hleading ▸ blueprint.addImplied_eq_append, ?_⟩
  rw [List.forall_mem_map]
  intro wanted _
  rw [impliedIndex, Command.indexName?_ofIndex]
  exact Option.some_ne_none _

/-- The lists of columns that statements are to define, in the order of these. -/
def definitionLists (blueprint : Blueprint) : List (Definer × List Column) :=
  if blueprint.creating then [(.create, blueprint.columns)]
  else
    (if blueprint.source.changedColumns = [] then []
      else [(.modify, blueprint.source.changedColumns)]) ++
    (if blueprint.source.addedColumns = [] then [] else [(.add, blueprint.source.addedColumns)])

theorem flatMap_definitionLists {commands : List Command} (hadd : .add ∉ commands)
    (hchange : .change ∉ commands) :
    commands.flatMap (MySql.definitionLists blueprint.source) =
      List.replicate (commands.count .create) (.create, blueprint.columns) := by
  induction commands with
  | nil => rfl
  | cons command rest ih =>
    rw [List.mem_cons, not_or] at hadd hchange
    rw [List.flatMap_cons, ih hadd.2 hchange.2]
    cases command with
    | add => exact absurd rfl hadd.1
    | change => exact absurd rfl hchange.1
    | create => simp [MySql.definitionLists, List.replicate_succ, source]
    | _ => simp [MySql.definitionLists]

/-- The commands that are compiled define these lists of columns and nothing else. -/
theorem definitionLists_addImplied (hcreate : blueprint.commands.count .create ≤ 1)
    (hadd : .add ∉ blueprint.commands) (hchange : .change ∉ blueprint.commands) :
    blueprint.addImplied.commands.flatMap (MySql.definitionLists blueprint.addImplied.source) =
      blueprint.definitionLists := by
  obtain ⟨later, himplied, hindexes⟩ := addImplied_eq hadd hchange
  have hsource : MySql.definitionLists blueprint.addImplied.source =
      MySql.definitionLists blueprint.source := by
    funext command
    rw [himplied]
    cases command <;> rfl
  have hlater : later.flatMap (MySql.definitionLists blueprint.source) = [] := by
    refine List.flatMap_eq_nil_iff.2 fun command hcommand => ?_
    have hindex := hindexes command hcommand
    cases command <;> simp [Command.indexName?] at hindex ⊢ <;> rfl
  rw [hsource, himplied]
  simp only [List.flatMap_append, hlater, List.append_nil, flatMap_definitionLists hadd hchange]
  unfold columnCommands definitionLists
  by_cases hcreating : blueprint.creating
  · have hone : blueprint.commands.count .create = 1 := by
      have hmem : .create ∈ blueprint.commands := by simpa [creating] using hcreating
      have := List.count_pos_iff.2 hmem
      omega
    simp [hcreating, hone]
  · have hnone : blueprint.commands.count .create = 0 := by
      rw [List.count_eq_zero]
      simpa [creating] using hcreating
    simp only [hcreating, hnone, List.replicate_zero, List.append_nil]
    cases hadded : blueprint.source.addedColumns <;>
      cases hchanged : blueprint.source.changedColumns <;>
        simp [MySql.definitionLists, hadded, hchanged]

theorem perm_definitionLists :
    (blueprint.definitionLists.flatMap Prod.snd).Perm blueprint.columns := by
  unfold definitionLists
  split
  · simp
  · have hlists : ((if blueprint.source.changedColumns = [] then []
          else [(Definer.modify, blueprint.source.changedColumns)]) ++
        (if blueprint.source.addedColumns = [] then []
          else [(Definer.add, blueprint.source.addedColumns)])).flatMap Prod.snd =
        blueprint.source.changedColumns ++ blueprint.source.addedColumns := by
      cases blueprint.source.addedColumns <;> cases blueprint.source.changedColumns <;> simp
    rw [hlists]
    exact List.filter_append_perm (·.change) blueprint.columns

theorem nodup_names {dialect : MySql}
    (hlists : blueprint.addImplied.commands.flatMap (MySql.definitionLists
      blueprint.addImplied.source) = blueprint.definitionLists)
    (hcolumns : blueprint.addImplied.columns = blueprint.columns)
    (hcompiles : ∀ command ∈ blueprint.addImplied.commands,
      dialect.grammar.Compiles blueprint.addImplied.source command) :
    (blueprint.columns.map (·.name)).Nodup := by
  by_cases hnone : blueprint.columns = []
  · simp [hnone]
  · have hsome : blueprint.definitionLists ≠ [] := by
      intro hempty
      have hperm := blueprint.perm_definitionLists
      rw [hempty] at hperm
      exact hnone hperm.nil_eq.symm
    rw [← hlists, Ne, List.flatMap_eq_nil_iff, not_forall] at hsome
    obtain ⟨command, hcommand⟩ := hsome
    obtain ⟨hmem, hdefines⟩ := Classical.not_imp.1 hcommand
    rw [← hcolumns]
    exact MySql.nodup_of_definitionLists (hcompiles command hmem) hdefines

/-- Every column of the blueprint is defined once: the statements that define columns are those of
the blueprint's lists, in this order, and no definition stands twice in them. -/
theorem columns_defined_once (dialect : MySql) {statements : List String}
    (hcreate : blueprint.commands.count .create ≤ 1) (hadd : .add ∉ blueprint.commands)
    (hchange : .change ∉ blueprint.commands)
    (h : blueprint.toSql dialect.grammar = .ok statements) :
    let table := dialect.tableName blueprint.table
    let lists := blueprint.definitionLists
    let definitions := lists.flatMap fun list => list.2.map MySql.columnDefinition
    statements.filter (DefinesColumns ·) =
        lists.map (fun list => list.1.text table (list.2.map MySql.columnDefinition)) ∧
      (∀ column ∈ blueprint.columns, definitions.count (MySql.columnDefinition column) = 1) ∧
      ∀ definition ∈ definitions, ∃ column ∈ blueprint.columns,
        definition = MySql.columnDefinition column := by
  intro table lists definitions
  obtain ⟨hcompiles, rfl⟩ := Grammar.compileEach_eq_ok_iff.1 h
  have hlists := definitionLists_addImplied hcreate hadd hchange
  obtain ⟨later, himplied, -⟩ := addImplied_eq hadd hchange
  have htable : blueprint.addImplied.source.table = blueprint.table := by rw [himplied]; rfl
  have hcolumns : blueprint.addImplied.columns = blueprint.columns := by rw [himplied]
  have hdefinitions : definitions.Perm (blueprint.columns.map MySql.columnDefinition) := by
    have hmap : definitions = (lists.flatMap Prod.snd).map MySql.columnDefinition :=
      (List.map_flatMap ..).symm
    rw [hmap]
    exact perm_definitionLists.map _
  refine ⟨?_, fun column hcolumn => ?_, fun definition hdefinition => ?_⟩
  · have hfilter := fun command hcommand => MySql.filter_outputs (hcompiles command hcommand)
    rw [htable] at hfilter
    rw [List.filter_flatMap, List.flatMap_congr hfilter, ← List.map_flatMap]
    exact congrArg (List.map _) hlists
  · have hnodup := nodup_names hlists hcolumns hcompiles
    rw [hdefinitions.count_eq]
    exact List.count_eq_one_of_mem (MySql.nodup_columnDefinition hnodup)
      (List.mem_map_of_mem hcolumn)
  · obtain ⟨column, hcolumn, rfl⟩ := List.mem_map.1 (hdefinitions.mem_iff.1 hdefinition)
    exact ⟨column, hcolumn, rfl⟩

theorem users_columns_defined_once :
    let dialect : MySql := { tablePrefix := "app_" }
    let age : Column := { type := .integer, name := "age", change := true }
    let blueprint : Blueprint :=
      { table := "users", commands := [.dropColumns ["nick"]]
        columns := [{ Column.string "email" 80 with unique := true }, age,
          { type := .boolean, name := "active", index := true }] }
    let statements :=
      ["ALTER TABLE `app_users` MODIFY `age` int NOT NULL",
        "ALTER TABLE `app_users` ADD `email` varchar(80) NOT NULL, ADD `active` tinyint(1) NOT NULL",
        "ALTER TABLE `app_users` DROP `nick`",
        "ALTER TABLE `app_users` ADD UNIQUE `users_email_unique` (`email`)",
        "ALTER TABLE `app_users` ADD INDEX `users_active_index` (`active`)"]
    blueprint.toSql dialect.grammar = .ok statements ∧
      statements.filter (DefinesColumns ·) = statements.take 2 ∧
      (blueprint.definitionLists.flatMap fun list =>
        list.2.map MySql.columnDefinition).count (MySql.columnDefinition age) = 1 := by
  intro dialect age blueprint statements
  have hcompile : blueprint.toSql dialect.grammar = .ok statements := by decide +kernel
  have htable : dialect.tableName blueprint.table = "`app_users`" := by decide +kernel
  have htexts : (blueprint.definitionLists.map fun list =>
      list.1.text "`app_users`" (list.2.map MySql.columnDefinition)) = statements.take 2 := by
    decide +kernel
  have hage : age ∈ blueprint.columns := by decide
  obtain ⟨hstatements, hcount, -⟩ :=
    columns_defined_once dialect (by decide) (by decide) (by decide) hcompile
  rw [htable, htexts] at hstatements
  exact ⟨hcompile, hstatements, hcount age hage⟩

end Blueprint

end SchemaLedger
