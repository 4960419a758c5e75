import Mathlib.Data.List.Nodup
import SchemaLedger.Proofs.Sql.RecordStatement
import SchemaLedger.Proofs.Value.Bag

/-! # Null among values

A statement about rows in which a key stands for Null is never the one in which it stands for a
value, not even for the empty text. Column definitions have no such law: a default that is Null is
written as the empty text.
-/

namespace SchemaLedger

set_option autoImplicit false

open Text

theorem Value.sqlText?_eq_none_iff {value : Value} : value.sqlText? = none ↔ value = .null := by
  cases value <;> simp [sqlText?, isNull]

section

variable {key : String} {value : Value} {entries others : List (String × Value)}

theorem lookup_fieldsOf (key : String) (entries : List (String × Value)) :
    (fieldsOf entries).lookup key = (entries.lookup key).map Value.sqlText? := by
  induction entries with
  | nil => rfl
  | cons entry rest ih =>
    change ((entry.1, entry.2.sqlText?) :: fieldsOf rest).lookup key = _
    rw [List.lookup_cons, List.lookup_cons, ih]
    split <;> rfl

theorem fieldsOf_ne_nil_of_lookup (h : entries.lookup key = some value) :
    fieldsOf entries ≠ [] := by
  rintro hnil
  have hlookup := lookup_fieldsOf key entries
  rw [hnil, h] at hlookup
  cases hlookup

theorem fieldsOf_ne_of_null (hvalue : value ≠ .null) (hnull : entries.lookup key = some .null)
    (hother : others.lookup key = some value) : fieldsOf entries ≠ fieldsOf others := by
  rintro heq
  have hlookup := lookup_fieldsOf key entries
  rw [heq, lookup_fieldsOf, hnull, hother] at hlookup
  exact hvalue (Value.sqlText?_eq_none_iff.1 (Option.some.inj hlookup))

end

/-- Both are compiled, and into different statements. -/
def ToldApart (first second : Except Error Compiled) : Prop :=
  ∃ statement other, first = .ok (.one statement) ∧ second = .ok (.one other) ∧ statement ≠ other

namespace MySql

section

variable {dialect : MySql} {source other : Source} {data changed : Bag}

theorem toldApart_insert (hdata : fieldsOf data.entries ≠ [])
    (hchanged : fieldsOf changed.entries ≠ [])
    (h : fieldsOf data.entries ≠ fieldsOf changed.entries) :
    ToldApart (dialect.compile source (.insert data)) (dialect.compile other (.insert changed)) := by
  have hfirst := (dialect.insert_eq source data).trans (if_neg hdata)
  have hsecond := (dialect.insert_eq other changed).trans (if_neg hchanged)
  exact ⟨_, _, hfirst, hsecond, fun heq => h (dialect.eq_of_insertText hdata hchanged heq).2⟩

theorem toldApart_update (hdata : fieldsOf data.entries ≠ [])
    (hchanged : fieldsOf changed.entries ≠ [])
    (h : fieldsOf data.entries ≠ fieldsOf changed.entries ∨ predicates source ≠ predicates other) :
    ToldApart (dialect.compile source (.update data)) (dialect.compile other (.update changed)) := by
  have hfirst := (dialect.update_eq source data).trans (if_neg hdata)
  have hsecond := (dialect.update_eq other changed).trans (if_neg hchanged)
  refine ⟨_, _, hfirst, hsecond, fun heq => ?_⟩
  obtain ⟨-, hfields, hpredicates, -⟩ := dialect.eq_of_updateText hdata hchanged heq
  exact h.elim (· hfields) (· hpredicates)

theorem toldApart_delete (h : predicates source ≠ predicates other) :
    ToldApart (dialect.compile source .delete) (dialect.compile other .delete) := by
  refine ⟨_, _, rfl, rfl, fun heq => ?_⟩
  rw [delete_eq_deleteText, delete_eq_deleteText] at heq
  exact h (dialect.eq_of_deleteText heq).2.1

theorem toldApart_find (h : predicates source ≠ predicates other) :
    ToldApart (dialect.compile source .find) (dialect.compile other .find) := by
  refine ⟨_, _, rfl, rfl, fun heq => ?_⟩
  rw [find_eq_findText, find_eq_findText] at heq
  exact h (dialect.eq_of_findText heq).2.1

theorem predicates_ne_of_null {key : String} {value : Value} (hvalue : value ≠ .null)
    (hkey : key ≠ "limit") (hnull : source.clause.get? key = some .null)
    (hother : other.clause.get? key = some value) : predicates source ≠ predicates other :=
  fieldsOf_ne_of_null hvalue ((lookup_filter_ne hkey _).trans hnull)
    ((lookup_filter_ne hkey _).trans hother)

end

theorem literal_eq_empty_iff {value : Value} : value.literal = quoted '\'' "" ↔ value.sqlText = "" :=
  (quoted_injective '\'').eq_iff

theorem defaultText_eq_empty_iff {value : Value} :
    defaultText value = defaultText .null ↔ value.sqlText = "" := by
  cases value with
  | bool flag => cases flag <;> decide
  | _ => exact literal_eq_empty_iff

theorem columnDefinition_eq_iff (column : Column) (value other : Value) :
    columnDefinition { column with defaultValue := some value } =
        columnDefinition { column with defaultValue := some other } ↔
      defaultText value = defaultText other := by
  simp [columnDefinition, columnType, modifiers, optional, String.append_right_inj,
    String.append_left_inj]

theorem alterColumns_congr {dialect : MySql} {source other : Source} {columns others : List Column}
    (hdistinct : requireDistinctColumns source = requireDistinctColumns other)
    (htable : source.table = other.table)
    (h : columns.map columnDefinition = others.map columnDefinition) (verb : String) :
    dialect.alterColumns source columns verb = dialect.alterColumns other others verb := by
  have hempty : columns.isEmpty = others.isEmpty := by
    simpa using congrArg List.isEmpty h
  have htexts : (columns.map fun column => verb ++ " " ++ columnDefinition column) =
      others.map fun column => verb ++ " " ++ columnDefinition column := by
    simpa [Function.comp_def] using congrArg (List.map (verb ++ " " ++ ·)) h
  simp only [alterColumns, alterTable, htable, hdistinct, hempty, htexts]

/-- Of the columns, a statement has the names, the definitions and whether they exist already. -/
theorem compile_congr_columns (dialect : MySql) (source : Source) {columns others : List Column}
    (h : columns.map (fun column => (column.name, column.change, columnDefinition column)) =
      others.map fun column => (column.name, column.change, columnDefinition column))
    (command : Command) :
    dialect.compile { source with columns } command =
      dialect.compile { source with columns := others } command := by
  have hnames : columns.map (·.name) = others.map (·.name) := by
    simpa [Function.comp_def] using congrArg (List.map Prod.fst) h
  have hdistinct : requireDistinctColumns { source with columns } =
      requireDistinctColumns { source with columns := others } := by
    simp only [requireDistinctColumns, hnames]
  have hpart : ∀ included : Bool → Bool,
      (columns.filter (included ·.change)).map columnDefinition =
        (others.filter (included ·.change)).map columnDefinition := by
    intro included
    have hfiltered := congrArg (fun parts => (parts.filter (included ·.2.1)).map (·.2.2)) h
    simpa [List.filter_map, Function.comp_def] using hfiltered
  cases command with
  | create =>
    have hdefinitions : columns.map columnDefinition = others.map columnDefinition := by
      simpa using hpart fun _ => true
    simp only [compile, create, tableName, hdistinct, hdefinitions]
  | add => exact alterColumns_congr hdistinct rfl (hpart (!·)) "ADD"
  | change => exact alterColumns_congr hdistinct rfl (hpart id) "MODIFY"
  | _ => rfl

/-- A key that stands for Null in the written data or among the predicates is told apart from one
that stands for a value, whatever else the two commands say. A default that is Null is told apart
from those values only whose text is not empty, and no command shows a difference from the empty
text. -/
theorem null_told_apart_outside_defaults (dialect : MySql) {value : Value} (hvalue : value ≠ .null) :
    (∀ (source other : Source) (data changed : Bag) (key : String),
      data.get? key = some .null → changed.get? key = some value →
        ToldApart (dialect.compile source (.insert data)) (dialect.compile other (.insert changed)) ∧
        ToldApart (dialect.compile source (.update data)) (dialect.compile other (.update changed))) ∧
    (∀ (source other : Source) (key : String), key ≠ "limit" →
      source.clause.get? key = some .null → other.clause.get? key = some value →
        ToldApart (dialect.compile source .delete) (dialect.compile other .delete) ∧
        ToldApart (dialect.compile source .find) (dialect.compile other .find) ∧
        ∀ data changed : Bag, data.entries ≠ [] → changed.entries ≠ [] →
          ToldApart (dialect.compile source (.update data))
            (dialect.compile other (.update changed))) ∧
    ∀ column : Column, column.defaultValue = some .null →
      let replaced := { column with defaultValue := some value }
      (columnDefinition replaced = columnDefinition column ↔ value.sqlText = "") ∧
      (value.sqlText = "" → ∀ (source : Source) (before after : List Column) (command : Command),
        dialect.compile { source with columns := before ++ replaced :: after } command =
          dialect.compile { source with columns := before ++ column :: after } command) := by
  refine ⟨?_, ?_, ?_⟩
  · intro source other data changed key hnull hother
    have hdata := fieldsOf_ne_nil_of_lookup hnull
    have hchanged := fieldsOf_ne_nil_of_lookup hother
    have hfields := fieldsOf_ne_of_null hvalue hnull hother
    exact ⟨toldApart_insert hdata hchanged hfields, toldApart_update hdata hchanged (.inl hfields)⟩
  · intro source other key hkey hnull hother
    have hpredicates := predicates_ne_of_null hvalue hkey hnull hother
    refine ⟨toldApart_delete hpredicates, toldApart_find hpredicates, ?_⟩
    intro data changed hdata hchanged
    exact toldApart_update (by simpa [fieldsOf] using hdata) (by simpa [fieldsOf] using hchanged)
      (.inr hpredicates)
  · intro column hnull replaced
    have hdefinition : columnDefinition replaced = columnDefinition column ↔ value.sqlText = "" := by
      have hself : column = { column with defaultValue := some .null } := by rw [← hnull]
      rw [← defaultText_eq_empty_iff, ← columnDefinition_eq_iff column value .null, ← hself]
    refine ⟨hdefinition, fun htext source before after command => ?_⟩
    apply compile_congr_columns
    simp only [List.map_append, List.map_cons, hdefinition.2 htext]
    rfl

theorem missing_note_told_apart :
    let dialect : MySql := { tablePrefix := "" }
    let source : Source := { table := "t", commands := [], clauses := [.single "note" .null] }
    let other : Source := { table := "t", commands := [], clauses := [.single "note" (.text "")] }
    Value.text "" ≠ .null ∧
      dialect.compile source .delete = .ok (.one "DELETE FROM `t` WHERE `note` IS NULL") ∧
      ToldApart (dialect.compile source .delete) (dialect.compile other .delete) ∧
      ToldApart (dialect.compile source (.insert (.single "note" .null)))
        (dialect.compile source (.insert (.single "note" (.text "")))) := by
  intro dialect source other
  have hvalue : Value.text "" ≠ .null := by decide
  obtain ⟨hwritten, hmatched, -⟩ := null_told_apart_outside_defaults dialect hvalue
  refine ⟨hvalue, ?_, ?_, ?_⟩
  · decide +kernel
  · exact (hmatched source other "note" (by decide +kernel) rfl rfl).1
  · exact (hwritten source source _ _ "note" rfl rfl).1

/-- A row that is written without a biography has an empty one, although the column takes Null. -/
theorem null_default_is_empty_text :
    let dialect : MySql := { tablePrefix := "" }
    let create (value : Value) : Except Error Compiled :=
      let column : Column :=
        { type := .string, name := "bio", nullable := true, defaultValue := some value }
      dialect.compile { table := "t", columns := [column], commands := [] } .create
    create .null = .ok (.one "CREATE TABLE `t` ( `bio` varchar(255) NULL DEFAULT '' )") ∧
      create (.text "") = create .null := by
  decide +kernel

end MySql

end SchemaLedger
