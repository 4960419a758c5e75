import Mathlib.Data.List.Nodup
import SchemaLedger.Proofs.Plan.QueryCalls
import SchemaLedger.Proofs.Sql.RecordStatement
import SchemaLedger.Proofs.Value.Bag

/-! # Limits of queries

The limit stands among the clause maps of a query, under a name of its own, and is no predicate.
Reads ask for the number that was set last. Updates and deletes have no limit: they reach every row
that their predicates let through, whatever limit was set.
-/

namespace SchemaLedger

set_option autoImplicit false

open Text

/-- The text is not empty, and its last character is no digit. -/
def Closed (text : String) : Prop :=
  ∃ c, text.toList.getLast? = some c ∧ c.isDigit = false

theorem Closed.behind {text : String} (h : Closed text) (start : String) :
    Closed (start ++ text) := by
  obtain ⟨c, hlast, hdigit⟩ := h
  refine ⟨c, ?_, hdigit⟩
  rw [String.toList_append, List.getLast?_append, hlast]
  rfl

theorem closed_quoted {quote : Char} (h : quote.isDigit = false) (text : String) :
    Closed (quoted quote text) := by
  refine ⟨quote, ?_, h⟩
  rw [quoted, String.toList_ofList, List.getLast?_append]
  rfl

theorem closed_joined (separator : String) {texts : List String} (hnonempty : texts ≠ [])
    (h : ∀ text ∈ texts, Closed text) : Closed (joined separator texts) := by
  induction texts with
  | nil => exact absurd rfl hnonempty
  | cons text rest ih =>
    obtain ⟨htext, hrest⟩ := List.forall_mem_cons.1 h
    cases rest with
    | nil => exact htext
    | cons next rest => exact (ih (List.cons_ne_nil next rest) hrest).behind (text ++ separator)

theorem Closed.not_number {text : String} (h : Closed text) (start : String) (number : Int) :
    text ≠ start ++ toString number := by
  rintro rfl
  obtain ⟨c, hlast, hdigit⟩ := h
  obtain ⟨d, hnumber, hdigit'⟩ := exists_last_digit number
  rw [String.toList_append, List.getLast?_append, hnumber, Option.some_or] at hlast
  rw [Option.some.inj hlast, hdigit] at hdigit'
  cases hdigit'

namespace Query.Call

/-- What the call sets the limit to, if it sets it at all. -/
def limit? (call : Call) : Option Value :=
  call.clause?.bind (·.get? "limit")

def isLimit : Call → Bool
  | limit _ => true
  | _ => false

theorem exists_limit? (count : UInt64) : ∃ number : Int64,
    (limit count).limit? = some (.long number) ∧
      number.toInt = ↑(min count.toNat Int64.maxValue.toInt.toNat) := by
  refine ⟨Int64.ofNat (min count.toNat Int64.maxValue.toInt.toNat), by rfl, ?_⟩
  have hmax : Int64.maxValue.toInt.toNat = 2 ^ 63 - 1 := by decide
  rw [Int64.toInt_ofNat_of_lt (by omega)]

end Query.Call

namespace MySql

open Query

variable {dialect : MySql} {calls : List Call}

theorem get?_limit (table : String) (calls : List Call) :
    (ofCalls table calls).source.clause.get? "limit" = (calls.filterMap Call.limit?).getLast? := by
  rw [Source.clause, clauses_ofCalls, Bag.get?_flatten, Bag.valuesOf_flatMap,
    List.filterMap_filterMap]
  rfl

theorem exists_last_limit {count : UInt64} (h : .limit count ∈ calls) :
    ∃ last, (calls.filterMap Call.limit?).getLast? = some last := by
  obtain ⟨number, hnumber, -⟩ := Call.exists_limit? count
  have hmem : .long number ∈ calls.filterMap Call.limit? := List.mem_filterMap.2 ⟨_, h, hnumber⟩
  exact ⟨_, List.getLast?_eq_some_getLast (List.ne_nil_of_mem hmem)⟩

theorem rowLimit_ofCalls (table : String) {last : Value}
    (h : (calls.filterMap Call.limit?).getLast? = some last) :
    dialect.rowLimit (ofCalls table calls).source = (last.asLong?.map Int64.toInt).or
      (if .unlimited ∈ calls then none else some dialect.defaultLimit.toNat) := by
  have hunbounded : (ofCalls table calls).source.unbounded = decide (.unlimited ∈ calls) := by
    rw [ofCalls_eq]
    rfl
  rw [rowLimit, Bag.get, get?_limit, h, hunbounded, Option.getD_some]
  cases last.asLong? with
  | some number => rfl
  | none => simp only [decide_eq_true_iff, Option.map_none, Option.none_or]

theorem compile_find (source : Source) : dialect.compile source .find =
    .ok (.one ("SELECT * FROM " ++ dialect.tableName source.table ++ whereClause source ++
      limitText (dialect.rowLimit source))) := by
  rw [whereClause_eq]
  exact congrArg (fun text => Except.ok (Compiled.one text)) (dialect.find_eq_findText source)

theorem filter_entries_of_isLimit {call : Call} {clause : Bag} (h : call.isLimit)
    (hclause : call.clause? = some clause) : clause.entries.filter (·.1 ≠ "limit") = [] := by
  cases call <;> cases h
  cases hclause
  rfl

theorem filter_entries_without_limits (calls : List Call) :
    (((calls.filter (!·.isLimit)).filterMap Call.clause?).flatMap Bag.entries).filter
        (·.1 ≠ "limit") =
      ((calls.filterMap Call.clause?).flatMap Bag.entries).filter (·.1 ≠ "limit") := by
  induction calls with
  | nil => rfl
  | cons call rest ih =>
    by_cases hlimit : call.isLimit
    · rw [List.filter_cons_of_neg (by simpa using hlimit), ih, List.filterMap_cons]
      cases hclause : call.clause? with
      | none => rfl
      | some clause =>
        rw [List.flatMap_cons, List.filter_append, filter_entries_of_isLimit hlimit hclause]
        rfl
    · rw [List.filter_cons_of_pos (by simpa using hlimit), List.filterMap_cons,
        List.filterMap_cons]
      cases call.clause? with
      | none => exact ih
      | some clause =>
        rw [List.flatMap_cons, List.flatMap_cons, List.filter_append, List.filter_append, ih]

theorem filters_without_limits (table : String) (calls : List Call) :
    filters (ofCalls table (calls.filter (!·.isLimit))).source =
      filters (ofCalls table calls).source := by
  rw [filters, filters, Source.clause, Source.clause, Bag.filter_flatten, Bag.filter_flatten,
    clauses_ofCalls, clauses_ofCalls, filter_entries_without_limits]

theorem compile_write_congr {source other : Source} {command : Command}
    (hcommand : command.kind = .update ∨ command.kind = .delete) (htable : source.table = other.table)
    (hoperator : source.operator = other.operator) (hfilters : filters source = filters other) :
    dialect.compile source command = dialect.compile other command := by
  have hpredicates : predicates source = predicates other := congrArg fieldsOf hfilters
  obtain hkind | hkind := hcommand
  · cases command <;> cases hkind
    rw [compile, compile, update_eq, update_eq, htable, hoperator, hpredicates]
  · cases command <;> cases hkind
    rw [compile, compile, delete_eq_deleteText, delete_eq_deleteText, htable, hoperator,
      hpredicates]

theorem compile_write_without_limits (table : String) (calls : List Call) {command : Command}
    (hcommand : command.kind = .update ∨ command.kind = .delete) :
    dialect.compile (ofCalls table (calls.filter (!·.isLimit))).source command =
      dialect.compile (ofCalls table calls).source command := by
  have hor : .orWhere ∈ calls.filter (!·.isLimit) ↔ .orWhere ∈ calls := by
    simp [List.mem_filter, Call.isLimit]
  apply compile_write_congr hcommand
  · rw [ofCalls_eq, ofCalls_eq]
    rfl
  · rw [ofCalls_eq, ofCalls_eq]
    simp only [source, hor]
  · exact filters_without_limits table calls

theorem closed_valueText (text : Option String) : Closed (valueText text) := by
  cases text with
  | none => exact ⟨'L', rfl, rfl⟩
  | some text => exact closed_quoted rfl text

theorem closed_predicateText (field : Field) : Closed (predicateText field) := by
  unfold predicateText
  apply Closed.behind
  cases field.2 with
  | none => exact ⟨'L', rfl, rfl⟩
  | some text => exact (closed_quoted rfl text).behind " = "

theorem closed_whereText {text : String} (h : Closed text) (operator : Operator)
    (fields : List Field) : Closed (text ++ whereText operator fields) := by
  cases fields with
  | nil => simpa [whereText] using h
  | cons field fields =>
    rw [whereText_cons]
    apply Closed.behind
    apply Closed.behind
    apply closed_joined
    · simp
    · intro text htext
      obtain ⟨field, -, rfl⟩ := List.mem_map.1 htext
      exact closed_predicateText field

theorem closed_updateText (table : String) {fields : List Field} (h : fields ≠ [])
    (operator : Operator) (predicates : List Field) :
    Closed (dialect.updateText table fields operator predicates) := by
  unfold updateText
  apply closed_whereText
  apply Closed.behind
  apply closed_joined
  · simpa using h
  · intro text htext
    obtain ⟨field, -, rfl⟩ := List.mem_map.1 htext
    exact ((closed_valueText field.2).behind "=").behind (identifier field.1)

theorem closed_deleteText (table : String) (operator : Operator) (predicates : List Field) :
    Closed (dialect.deleteText table operator predicates) := by
  unfold deleteText
  apply closed_whereText
  exact (closed_quoted rfl _).behind "DELETE FROM "

theorem closed_write {source : Source} {command : Command} {statement : String}
    (hcommand : command.kind = .update ∨ command.kind = .delete)
    (h : dialect.compile source command = .ok (.one statement)) : Closed statement := by
  have hrecord : command.IsRecord := by
    obtain hkind | hkind := hcommand <;> simp [Command.IsRecord, hkind]
  obtain ⟨rfl, hfields⟩ := recordText_of_compile hrecord h
  unfold recordText
  obtain hkind | hkind := hcommand <;> simp only [hkind]
  · exact closed_updateText source.table (hfields (.inr hkind)) source.operator (predicates source)
  · exact closed_deleteText source.table source.operator (predicates source)

/-- Reads end in the limit that was set last, when it is a number. Updates and deletes are compiled
as if no limit was set. -/
theorem limit_on_reads_only (dialect : MySql) (table : String) {count : UInt64}
    (h : .limit count ∈ calls) :
    let source := (ofCalls table calls).source
    let select := "SELECT * FROM " ++ dialect.tableName table ++ whereClause source
    (∃ last, (calls.filterMap Call.limit?).getLast? = some last ∧
      (∀ number, last.asLong? = some number →
        dialect.compile source .find = .ok (.one (select ++ limitText (some number.toInt)))) ∧
      (∀ given : UInt64, (Call.limit given).limit? = some last →
        dialect.compile source .find =
          .ok (.one (select ++ limitText (some ↑(min given.toNat Int64.maxValue.toInt.toNat))))) ∧
      (last.asLong? = none →
        dialect.compile source .find = .ok (.one (select ++
          limitText (if .unlimited ∈ calls then none else some dialect.defaultLimit.toNat))))) ∧
    ∀ command : Command, command.kind = .update ∨ command.kind = .delete →
      dialect.compile source command =
        dialect.compile (ofCalls table (calls.filter (!·.isLimit))).source command ∧
      ∀ statement start, ∀ number : Int, dialect.compile source command = .ok (.one statement) →
        statement ≠ start ++ limitText (some number) := by
  intro source select
  constructor
  · obtain ⟨last, hlast⟩ := exists_last_limit h
    have hfind : dialect.compile source .find =
        .ok (.one (select ++ limitText (dialect.rowLimit source))) := by
      simp only [compile_find, select, source, ofCalls_eq]
      rfl
    rw [rowLimit_ofCalls table hlast] at hfind
    have hread : ∀ number : Int64, last.asLong? = some number →
        dialect.compile source .find = .ok (.one (select ++ limitText (some number.toInt))) := by
      intro number hlong
      rw [hfind, hlong]
      rfl
    refine ⟨last, hlast, hread, ?_, ?_⟩
    · intro given hgiven
      obtain ⟨number, hset, htoInt⟩ := Call.exists_limit? given
      obtain rfl : .long number = last := Option.some.inj (hset.symm.trans hgiven)
      rw [hread number rfl, htoInt]
    · intro hlong
      rw [hfind, hlong]
      rfl
  · intro command hcommand
    refine ⟨(compile_write_without_limits table calls hcommand).symm, ?_⟩
    intro statement start number hcompile
    rw [limitText, ← String.append_assoc]
    exact (closed_write hcommand hcompile).not_number (start ++ " LIMIT ") number

theorem last_limit_read :
    let dialect : MySql := { tablePrefix := "app_" }
    let condition : Call := .whereEq "status" (.text "old")
    let calls : List Call := [.limit 5, condition, .find, .limit 3, .deleteWhere]
    let source := (ofCalls "t" calls).source
    .limit 3 ∈ calls ∧
      dialect.compile source .find =
        .ok (.one "SELECT * FROM `app_t` WHERE `status` = 'old' LIMIT 3") ∧
      dialect.compile source .delete =
        dialect.compile (ofCalls "t" [condition, .find, .deleteWhere]).source .delete := by
  intro dialect condition calls source
  have hmem : .limit 3 ∈ calls := by decide +kernel
  have hset : (calls.filterMap Call.limit?).getLast? = (Call.limit 3).limit? := by decide +kernel
  obtain ⟨⟨last, hlast, -, hread, -⟩, hwrites⟩ := limit_on_reads_only dialect "t" hmem
  refine ⟨hmem, (hread 3 (hset.symm.trans hlast)).trans ?_, (hwrites .delete (.inr rfl)).1⟩
  decide +kernel

/-- The caller asks for five rows at most, and both writes reach every old row. -/
theorem limit_dropped_by_writes :
    let dialect : MySql := { tablePrefix := "" }
    let calls : List Call := [.whereEq "status" (.text "old"), .limit 5,
      .updateWhere (.single "seen" (.bool true)), .deleteWhere]
    let statements := ["UPDATE `t` SET `seen`='1' WHERE `status` = 'old'",
      "DELETE FROM `t` WHERE `status` = 'old'"]
    .limit 5 ∈ calls ∧ (ofCalls "t" calls).toSql dialect.grammar = .ok statements ∧
      ∀ statement ∈ statements, ¬ " LIMIT 5".toList <:+ statement.toList := by
  intro dialect calls statements
  refine ⟨?_, ?_, ?_⟩ <;> decide +kernel

end MySql

end SchemaLedger
