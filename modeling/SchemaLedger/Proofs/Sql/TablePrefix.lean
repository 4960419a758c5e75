import SchemaLedger.Proofs.Plan.ColumnDefinitions

/-! # The prefix stands before the names of tables

Whatever a dialect with a prefix compiles, a dialect without one compiles from the same source with
the prefix written before its table names: its own, those that tables are renamed to and those that
foreign keys refer to. Columns, indexes, keys and values stay as they are.
-/

namespace SchemaLedger

set_option autoImplicit false

/-- The command with the names of tables in it behind a start. -/
def Command.relabel (start : String) : Command → Command
  | rename newName => rename (start ++ newName)
  | foreign key => foreign { key with target := key.target.map (start ++ ·) }
  | command => command

/-- The source with every table name behind a start. -/
def Source.relabel (start : String) (source : Source) : Source :=
  { source with
    table := start ++ source.table
    commands := source.commands.map (·.relabel start) }

namespace Grammar

variable {grammar other : Grammar} {source target : Source} {translate : Command → Command}

/-- Where the commands of two lists compile to the same one by one, the lists do. -/
theorem compileEach_map_eq_ok_iff {commands : List Command} {statements : List String}
    (h : ∀ command ∈ commands, ∀ compiled, grammar.compile source command = .ok compiled ↔
      other.compile target (translate command) = .ok compiled) :
    grammar.compileEach source commands = .ok statements ↔
      other.compileEach target (commands.map translate) = .ok statements := by
  have hcommand : ∀ command ∈ commands,
      (grammar.Compiles source command ↔ other.Compiles target (translate command)) ∧
        grammar.outputs source command = other.outputs target (translate command) := by
    intro command hmem
    have hiff := h command hmem
    cases hcompile : grammar.compile source command with
    | ok compiled =>
      have hother := (hiff compiled).1 hcompile
      exact ⟨iff_of_true (compiles_of_ok hcompile) (compiles_of_ok hother),
        (outputs_of_ok hcompile).trans (outputs_of_ok hother).symm⟩
    | error error =>
      cases hother : other.compile target (translate command) with
      | ok compiled => exact absurd ((hiff compiled).2 hother) (by simp [hcompile])
      | error error' =>
        refine ⟨iff_of_false (not_compiles_of_error hcompile) (not_compiles_of_error hother), ?_⟩
        simp [outputs, hcompile, hother, Except.toOption]
  rw [compileEach_eq_ok_iff, compileEach_eq_ok_iff, List.forall_mem_map, List.flatMap_map]
  refine and_congr (forall₂_congr fun command hmem => (hcommand command hmem).1) ?_
  rw [List.flatMap_congr fun command hmem => (hcommand command hmem).2]

end Grammar

namespace MySql

variable (dialect : MySql) (source : Source)

def withoutPrefix : MySql :=
  { dialect with tablePrefix := "" }

theorem tableName_withoutPrefix (table : String) :
    dialect.withoutPrefix.tableName (dialect.tablePrefix ++ table) = dialect.tableName table := by
  rw [tableName, tableName, withoutPrefix, String.empty_append]

theorem tableName_relabel :
    dialect.withoutPrefix.tableName (source.relabel dialect.tablePrefix).table =
      dialect.tableName source.table :=
  dialect.tableName_withoutPrefix source.table

theorem alterTable_relabel (change : String) :
    dialect.withoutPrefix.alterTable (source.relabel dialect.tablePrefix) change =
      dialect.alterTable source change := by
  rw [alterTable, alterTable, tableName_relabel]

theorem addIndex_relabel (index : Index) (what : String) :
    dialect.withoutPrefix.addIndex (source.relabel dialect.tablePrefix) index what =
      dialect.addIndex source index what := by
  simp only [addIndex, alterTable_relabel]

theorem addForeignKey_relabel (key : ForeignKey) :
    dialect.withoutPrefix.addForeignKey (source.relabel dialect.tablePrefix)
        { key with target := key.target.map (dialect.tablePrefix ++ ·) } =
      dialect.addForeignKey source key := by
  unfold addForeignKey
  cases key.target with
  | none => rfl
  | some target => simp only [Option.map_some, alterTable_relabel, tableName_withoutPrefix]

variable {dialect source} {compiled : Compiled}

theorem create_relabel_eq_ok_iff : dialect.create source = .ok compiled ↔
    dialect.withoutPrefix.create (source.relabel dialect.tablePrefix) = .ok compiled := by
  rw [create_eq_ok_iff, create_eq_ok_iff, tableName_relabel]
  rfl

theorem alterColumns_relabel_eq_ok_iff {columns : List Column} {verb : String} :
    dialect.alterColumns source columns verb = .ok compiled ↔
      dialect.withoutPrefix.alterColumns (source.relabel dialect.tablePrefix) columns verb =
        .ok compiled := by
  rw [alterColumns_eq_ok_iff, alterColumns_eq_ok_iff, alterTable_relabel]
  rfl

theorem dropColumns_relabel_eq_ok_iff (columns : List String) :
    dialect.dropColumns source columns = .ok compiled ↔
      dialect.withoutPrefix.dropColumns (source.relabel dialect.tablePrefix) columns =
        .ok compiled := by
  cases columns with
  | nil => exact iff_of_false nofun nofun
  | cons column columns =>
    simp only [dropColumns, alterTable_relabel]
    rfl

theorem insert_relabel_eq_ok_iff (data : Bag) : dialect.insert source data = .ok compiled ↔
    dialect.withoutPrefix.insert (source.relabel dialect.tablePrefix) data = .ok compiled := by
  have htext : dialect.withoutPrefix.insertText (source.relabel dialect.tablePrefix).table
      (fieldsOf data.entries) = dialect.insertText source.table (fieldsOf data.entries) := by
    unfold insertText
    rw [tableName_relabel]
  rw [insert_eq, insert_eq, htext]
  split
  · exact iff_of_false nofun nofun
  · rfl

theorem update_relabel_eq_ok_iff (data : Bag) : dialect.update source data = .ok compiled ↔
    dialect.withoutPrefix.update (source.relabel dialect.tablePrefix) data = .ok compiled := by
  have htext : dialect.withoutPrefix.updateText (source.relabel dialect.tablePrefix).table
      (fieldsOf data.entries) source.operator (predicates source) =
        dialect.updateText source.table (fieldsOf data.entries) source.operator
          (predicates source) := by
    unfold updateText
    rw [tableName_relabel]
  rw [update_eq, update_eq, ← htext]
  split
  · exact iff_of_false nofun nofun
  · rfl

theorem delete_relabel : dialect.withoutPrefix.delete (source.relabel dialect.tablePrefix) =
    dialect.delete source := by
  unfold MySql.delete
  rw [tableName_relabel]
  rfl

theorem find_relabel : dialect.withoutPrefix.find (source.relabel dialect.tablePrefix) =
    dialect.find source := by
  unfold MySql.find
  rw [tableName_relabel]
  rfl

/-- A command compiles under a prefix to what it compiles to without one when the prefix is written
before its table names. Only the errors differ: they name the table as it is given. -/
theorem compile_relabel_eq_ok_iff (command : Command) :
    dialect.compile source command = .ok compiled ↔
      dialect.withoutPrefix.compile (source.relabel dialect.tablePrefix)
        (command.relabel dialect.tablePrefix) = .ok compiled := by
  cases command with
  | create => exact create_relabel_eq_ok_iff
  | add | change => exact alterColumns_relabel_eq_ok_iff
  | drop | dropIfExists => simp only [compile, Command.relabel, tableName_relabel]
  | rename newName =>
    simp only [compile, Command.relabel, tableName_relabel, tableName_withoutPrefix]
  | dropColumns columns => exact dropColumns_relabel_eq_ok_iff columns
  | renameColumn oldName newName => simp only [compile, Command.relabel, alterTable_relabel]
  | primary index | unique index | index index =>
    simp only [compile, Command.relabel, addIndex_relabel]
  | foreign key => simp only [compile, Command.relabel, addForeignKey_relabel]
  | insert data => exact insert_relabel_eq_ok_iff data
  | update data => exact update_relabel_eq_ok_iff data
  | delete => simp only [compile, Command.relabel, delete_relabel]
  | find => simp only [compile, Command.relabel, find_relabel]

/-- A source compiles under a prefix exactly when it compiles without one, the prefix standing in
its table names, and to the same statements. -/
theorem prefix_names_tables (dialect : MySql) (source : Source) (statements : List String) :
    dialect.grammar.compileAll source = .ok statements ↔
      dialect.withoutPrefix.grammar.compileAll (source.relabel dialect.tablePrefix) =
        .ok statements :=
  Grammar.compileEach_map_eq_ok_iff fun command _ _ => compile_relabel_eq_ok_iff command

end MySql

end SchemaLedger
