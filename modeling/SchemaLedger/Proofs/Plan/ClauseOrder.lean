import Mathlib.Algebra.Group.Nat.Defs
import SchemaLedger.Proofs.Plan.Limits
import SchemaLedger.Proofs.Sql.MissingRules

/-! # The order of clauses

The clause maps of a query count as one, in which a key stands where it first came and has the value
that it was given last. The limit stands apart from the predicates. So a limit may be set anywhere
between the limits before and after it, and a clause may be given before or after a command.
-/

namespace SchemaLedger

set_option autoImplicit false

open Text

namespace Query

variable {moved : Call} {before between after : List Call}

theorem filterMap_moved {β : Type} {part? : Call → Option β}
    (h : part? moved = none ∨ ∀ call ∈ between, part? call = none) :
    (before ++ moved :: between ++ after).filterMap part? =
      (before ++ between ++ moved :: after).filterMap part? := by
  obtain hmoved | hbetween := h
  · simp [hmoved]
  · have hnone : between.filterMap part? = [] := List.filterMap_eq_nil_iff.2 hbetween
    simp [List.filterMap_cons, hnone]

theorem mem_moved (call : Call) : call ∈ before ++ moved :: between ++ after ↔
    call ∈ before ++ between ++ moved :: after := by
  simp [or_left_comm]

/-- Past calls that queue what it does not, a call can only move its clause map. -/
theorem ofCalls_moved (table : String)
    (h : moved.command? = none ∨ ∀ call ∈ between, call.command? = none) :
    ofCalls table (before ++ moved :: between ++ after) =
      { ofCalls table (before ++ between ++ moved :: after) with
        clauses := (before ++ moved :: between ++ after).filterMap Call.clause? } := by
  rw [ofCalls_eq, ofCalls_eq, filterMap_moved h]
  simp only [mem_moved]

theorem ofCalls_moved_clause (table : String) (hmoved : moved.command? = none)
    (hbetween : ∀ call ∈ between, call.clause? = none) :
    ofCalls table (before ++ moved :: between ++ after) =
      ofCalls table (before ++ between ++ moved :: after) := by
  rw [ofCalls_moved table (.inl hmoved), filterMap_moved (.inr hbetween), ofCalls_eq]

end Query

namespace MySql

open Query

variable {dialect : MySql} {source : Source}

theorem keys_filters (source : Source) : (filters source).map Prod.fst =
    ((source.clauses.flatMap Bag.keys).filter (· ≠ "limit")).eraseDups := by
  rw [filters, Source.clause, Bag.filter_flatten]
  refine (Bag.keys_ofList _).trans (congrArg List.eraseDups ?_)
  calc ((source.clauses.flatMap Bag.entries).filter (·.1 ≠ "limit")).map Prod.fst
      = ((source.clauses.flatMap Bag.entries).map Prod.fst).filter (· ≠ "limit") := by
        rw [List.filter_map]
        rfl
    _ = (source.clauses.flatMap Bag.keys).filter (· ≠ "limit") := by
        rw [List.map_flatMap]
        rfl

theorem getLast?_of_mem_filters {entry : String × Value} (h : entry ∈ filters source) :
    (source.clauses.filterMap (·.get? entry.1)).getLast? = some entry.2 :=
  Bag.getLast?_of_mem_flatten (List.mem_filter.1 h).1

theorem compile_with_clauses {clauses : List Bag}
    (hfilters : filters { source with clauses } = filters source)
    (hlimit : ({ source with clauses } : Source).clause.get? "limit" = source.clause.get? "limit")
    (command : Command) :
    dialect.compile { source with clauses } command = dialect.compile source command := by
  cases command with
  | update data => exact compile_write_congr (.inl rfl) rfl rfl hfilters
  | delete => exact compile_write_congr (.inr rfl) rfl rfl hfilters
  | find =>
    have hwhere : whereClause { source with clauses } = whereClause source := by
      rw [whereClause, hfilters]
      rfl
    have hrow : dialect.rowLimit { source with clauses } = dialect.rowLimit source := by
      rw [rowLimit, Bag.get, hlimit]
      rfl
    rw [compile_find, compile_find, hwhere, hrow]
  | _ => rfl

variable {before between after : List Call}

theorem filters_moved_limit (table : String) (count : UInt64) (before between after : List Call) :
    filters (ofCalls table (before ++ .limit count :: between ++ after)).source =
      filters (ofCalls table (before ++ between ++ .limit count :: after)).source := by
  -- without the limits, both sides are the same calls
  rw [← filters_without_limits, ← filters_without_limits table (before ++ between ++ _)]
  simp [Call.isLimit]

theorem toSql_moved_limit (table : String) (count : UInt64)
    (h : ∀ call ∈ between, call.limit? = none) :
    (ofCalls table (before ++ .limit count :: between ++ after)).toSql dialect.grammar =
      (ofCalls table (before ++ between ++ .limit count :: after)).toSql dialect.grammar := by
  have hfilters := filters_moved_limit table count before between after
  have hlimit := get?_limit table (before ++ .limit count :: between ++ after)
  rw [filterMap_moved (.inr h), ← get?_limit table] at hlimit
  -- the sources differ in their clause maps, which give the same predicates and the same limit
  rw [ofCalls_moved table (.inl rfl)] at hfilters hlimit ⊢
  exact Grammar.compileEach_congr fun command _ => compile_with_clauses hfilters hlimit command

theorem find_of_last_limit (table : String) (count : UInt64)
    (h : ∀ call ∈ after, call.limit? = none) :
    let source := (ofCalls table (before ++ .limit count :: after)).source
    dialect.compile source .find = .ok (.one ("SELECT * FROM " ++ dialect.tableName table ++
      whereClause source ++ " LIMIT " ++ toString (min count.toNat (2 ^ 63 - 1)))) := by
  intro source
  obtain ⟨number, hset, hnumber⟩ := Call.exists_limit? count
  have hafter : after.filterMap Call.limit? = [] := List.filterMap_eq_nil_iff.2 h
  have hlast : ((before ++ .limit count :: after).filterMap Call.limit?).getLast? =
      some (.long number) := by
    simp [hset, hafter]
  have htable : source.table = table := by
    simp only [source, ofCalls_eq]
    rfl
  have hlimit : dialect.rowLimit source = some ↑(min count.toNat (2 ^ 63 - 1)) := by
    rw [rowLimit_ofCalls table hlast]
    exact congrArg some hnumber
  rw [compile_find, htable, hlimit, limitText, ← String.append_assoc]
  rfl

/-- The predicates are those of the last values of the keys, where the keys first came. So
statements stay the same when a limit moves among calls that set none, or a clause past calls that
give none, and a read ends in the limit that was called for last, unlimited or not. -/
theorem clauses_up_to_last_wins (dialect : MySql) :
    (∀ query : Query,
      (filters query.source).map Prod.fst =
        ((query.clauses.flatMap Bag.keys).filter (· ≠ "limit")).eraseDups ∧
      (∀ entry ∈ filters query.source,
        (query.clauses.filterMap (·.get? entry.1)).getLast? = some entry.2) ∧
      whereClause query.source =
        whereText query.operator (fieldsOf (filters query.source))) ∧
    ∀ (table : String) (before between after : List Call),
      (∀ count : UInt64, (∀ call ∈ between, call.limit? = none) →
        (ofCalls table (before ++ .limit count :: between ++ after)).toSql dialect.grammar =
          (ofCalls table (before ++ between ++ .limit count :: after)).toSql dialect.grammar) ∧
      (∀ clause : Call, clause.command? = none → (∀ call ∈ between, call.clause? = none) →
        ofCalls table (before ++ clause :: between ++ after) =
          ofCalls table (before ++ between ++ clause :: after)) ∧
      ∀ count : UInt64, (∀ call ∈ after, call.limit? = none) →
        let source := (ofCalls table (before ++ .limit count :: after)).source
        dialect.compile source .find = .ok (.one ("SELECT * FROM " ++ dialect.tableName table ++
          whereClause source ++ " LIMIT " ++ toString (min count.toNat (2 ^ 63 - 1)))) := by
  constructor
  · intro query
    exact ⟨keys_filters query.source, fun _ => getLast?_of_mem_filters, whereClause_eq query.source⟩
  · intro table before between after
    exact ⟨toSql_moved_limit table, fun _ => ofCalls_moved_clause table, find_of_last_limit table⟩

theorem last_age_read :
    let dialect : MySql := { tablePrefix := "app_" }
    let people : Call := .whereAll (.ofList [("age", .int 7), ("limit", .text "all"), ("name", .null)])
    let older : Call := .whereEq "age" (.int 8)
    (ofCalls "t" ([people, .find] ++ .limit 3 :: [older, .deleteWhere] ++ [.unlimited])).toSql
        dialect.grammar =
      (ofCalls "t" ([people, .find] ++ [older, .deleteWhere] ++ .limit 3 :: [.unlimited])).toSql
        dialect.grammar ∧
    ofCalls "t" ([people, .find] ++ older :: [.deleteWhere] ++ [.limit 3]) =
      ofCalls "t" ([people, .find] ++ [.deleteWhere] ++ older :: [.limit 3]) ∧
    dialect.compile (ofCalls "t" ([people, .find] ++ .limit 3 :: [older, .unlimited])).source .find =
      .ok (.one "SELECT * FROM `app_t` WHERE `age` = '8' AND `name` IS NULL LIMIT 3") := by
  intro dialect people older
  have hmoves := (clauses_up_to_last_wins dialect).2 "t" [people, .find]
  refine ⟨(hmoves [older, .deleteWhere] [.unlimited]).1 3 (by decide +kernel),
    (hmoves [.deleteWhere] [.limit 3]).2.1 older rfl (by decide +kernel), ?_⟩
  refine ((hmoves [] [older, .unlimited]).2.2 3 (by decide +kernel)).trans ?_
  decide +kernel

end MySql

end SchemaLedger
