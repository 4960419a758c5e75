import Mathlib.Data.List.Nodup
import SchemaLedger.Proofs.Plan.QueryCalls
import SchemaLedger.Proofs.Sql.RecordStatement
import SchemaLedger.Proofs.Value.Bag

/-! # Writes to the row of an id

A query has one set of predicates for all of its commands, and a later predicate on a key replaces
an earlier one. Of several writes by id, every one is therefore filtered by the id that was given
last.
-/

namespace SchemaLedger

set_option autoImplicit false

namespace Query.Call

/-- The id to whose row the call is to write, and the command that it queues. -/
def byId? : Call → Option (Value × Command)
  | update id data => some (id, .update data)
  | delete id => some (id, .delete)
  | _ => none

/-- The call changes what rows the query is about by more than an id. -/
def filters : Call → Bool
  | whereEq _ _ | whereAll _ | orWhere => true
  | _ => false

theorem command?_of_byId? {call : Call} {write : Value × Command} (h : call.byId? = some write) :
    call.command? = some write.2 := by
  cases call <;> simp [byId?] at h <;> simp [← h, command?]

theorem keys_of_clause? {call : Call} {clause : Bag} (hfilters : call.filters = false)
    (h : call.clause? = some clause) : clause.keys = ["id"] ∨ clause.keys = ["limit"] := by
  cases call <;> simp [filters, clause?] at hfilters h <;> simp [← h, Bag.keys]

end Query.Call

namespace Query

variable {calls : List Call}

theorem valuesOf_id_clauses (hfilters : ∀ call ∈ calls, call.filters = false) :
    valuesOf "id" ((calls.filterMap Call.clause?).flatMap Bag.entries) =
      (calls.filterMap Call.byId?).map Prod.fst := by
  induction calls with
  | nil => rfl
  | cons call rest ih =>
    obtain ⟨hcall, hrest⟩ := List.forall_mem_cons.1 hfilters
    cases call with
    | whereEq key value => cases hcall
    | whereAll clause => cases hcall
    | orWhere => cases hcall
    | update id data | delete id =>
      simp [Call.clause?, Call.byId?, valuesOf_cons, ih hrest]
    | limit count =>
      simp [List.filterMap_cons, Call.clause?, Call.byId?, valuesOf_cons, ih hrest]
    | _ => simpa [List.filterMap_cons, Call.clause?, Call.byId?] using ih hrest

end Query

namespace MySql

open Query

variable {calls : List Call}

theorem filters_of_keys {source : Source}
    (hkeys : ∀ key ∈ source.clause.keys, key = "id" ∨ key = "limit") :
    filters source = ((source.clause.get? "id").map ("id", ·)).toList := by
  rw [Bag.get?, ← filter_eq_of_lookup source.clause.keysNodup, filters]
  refine List.filter_congr fun entry hentry => ?_
  obtain hkey | hkey := hkeys entry.1 (List.mem_map_of_mem hentry) <;> simp [hkey]

theorem predicates_ofCalls (table : String) (hfilters : ∀ call ∈ calls, call.filters = false) :
    predicates (ofCalls table calls).source =
      ((calls.filterMap Call.byId?).getLast?.map fun write =>
        ("id", write.1.sqlText?)).toList := by
  have hkeys : ∀ key ∈ (ofCalls table calls).source.clause.keys, key = "id" ∨ key = "limit" := by
    intro key hkey
    rw [Source.clause, clauses_ofCalls, Bag.mem_keys_flatten] at hkey
    obtain ⟨clause, hclause, hkey⟩ := hkey
    obtain ⟨call, hcall, hclause⟩ := List.mem_filterMap.1 hclause
    obtain hkeys | hkeys := Call.keys_of_clause? (hfilters call hcall) hclause
    · exact .inl (List.mem_singleton.1 (hkeys ▸ hkey))
    · exact .inr (List.mem_singleton.1 (hkeys ▸ hkey))
  rw [predicates, filters_of_keys hkeys, Source.clause, clauses_ofCalls, Bag.get?_flatten,
    valuesOf_id_clauses hfilters, List.getLast?_map]
  cases (calls.filterMap Call.byId?).getLast? <;> rfl

variable (dialect : MySql)

def rowText (table : String) (id : Value) : Command → String
  | .update data => dialect.updateText table (fieldsOf data.entries) .and [("id", id.sqlText?)]
  | _ => dialect.deleteText table .and [("id", id.sqlText?)]

variable {dialect}

theorem compile_by_id {source : Source} {write : Value × Command} {call : Call} {id : Value}
    {statement : String} (hcall : call.byId? = some write) (hoperator : source.operator = .and)
    (hpredicates : predicates source = [("id", id.sqlText?)])
    (h : dialect.compile source write.2 = .ok (.one statement)) :
    statement = dialect.rowText source.table id write.2 := by
  cases call <;> simp only [Call.byId?, reduceCtorEq, Option.some.injEq] at hcall
  case update given data =>
    subst hcall
    simp only [compile, update_eq, hoperator, hpredicates] at h
    split at h
    · cases h
    · cases h
      rfl
  case delete given =>
    subst hcall
    simp only [compile, delete_eq_deleteText, hoperator, hpredicates] at h
    cases h
    rfl

theorem rowText_eq_iff {source : Source} {write : Value × Command} {call : Call} {id other : Value}
    {statement table : String} (hcall : call.byId? = some write)
    (h : dialect.compile source write.2 = .ok (.one statement)) :
    dialect.rowText table id write.2 = dialect.rowText table other write.2 ↔
      id.sqlText? = other.sqlText? := by
  constructor
  · intro htexts
    cases call <;> simp only [Call.byId?, reduceCtorEq, Option.some.injEq] at hcall
    case update given data =>
      subst hcall
      have hfields : fieldsOf data.entries ≠ [] := by
        intro hnone
        simp [compile, update_eq, hnone] at h
      have hids := (dialect.eq_of_updateText hfields hfields htexts).2.2.1
      simpa using hids
    case delete given =>
      subst hcall
      have hids := (dialect.eq_of_deleteText htexts).2.1
      simpa using hids
  · intro hids
    unfold rowText
    rw [hids]

/-- In a query without predicates of its own, a write by id is filtered by the id of the last such
write, which is its own exactly when the two are written in the same way. -/
theorem by_id_write (dialect : MySql) (table : String) {id : Value} {command : Command}
    {statement : String} (hfilters : ∀ call ∈ calls, call.filters = false)
    (hwrite : (id, command) ∈ calls.filterMap Call.byId?)
    (hcompile : dialect.compile (ofCalls table calls).source command = .ok (.one statement)) :
    command ∈ (ofCalls table calls).commands ∧
      ∃ last, (calls.filterMap Call.byId?).getLast? = some last ∧
        statement = dialect.rowText table last.1 command ∧
        (statement = dialect.rowText table id command ↔ last.1.sqlText? = id.sqlText?) := by
  obtain ⟨call, hcall, hbyId⟩ := List.mem_filterMap.1 hwrite
  have hpredicates := predicates_ofCalls table hfilters
  have hplain : Call.orWhere ∉ calls := fun h => Bool.noConfusion (hfilters _ h)
  have hoperator : (ofCalls table calls).source.operator = .and := by
    rw [ofCalls_eq]
    exact if_neg hplain
  cases hlast : (calls.filterMap Call.byId?).getLast? with
  | none =>
    rw [List.getLast?_eq_none_iff] at hlast
    rw [hlast] at hwrite
    exact absurd hwrite List.not_mem_nil
  | some last =>
    rw [hlast] at hpredicates
    have htable : (ofCalls table calls).source.table = table := by
      rw [ofCalls_eq]
      rfl
    have hstatement := compile_by_id hbyId hoperator hpredicates hcompile
    rw [htable] at hstatement
    refine ⟨?_, last, rfl, hstatement, ?_⟩
    · rw [ofCalls_eq]
      exact List.mem_filterMap.2 ⟨call, hcall, Call.command?_of_byId? hbyId⟩
    · rw [hstatement]
      exact rowText_eq_iff hbyId hcompile

theorem update_by_last_id :
    let dialect : MySql := { tablePrefix := "app_" }
    let calls : List Call :=
      [.update (.int 7) (.single "a" (.text "x")), .limit 3, .find, .delete (.long 7)]
    let statement := "UPDATE `app_t` SET `a`='x' WHERE `id` = '7'"
    let command := Command.update (.single "a" (.text "x"))
    dialect.compile (ofCalls "t" calls).source command = .ok (.one statement) ∧
      statement = dialect.rowText "t" (.int 7) command := by
  intro dialect calls statement command
  have hcompile : dialect.compile (ofCalls "t" calls).source command = .ok (.one statement) := by
    decide +kernel
  have hlast : (calls.filterMap Call.byId?).getLast? = some (.long 7, .delete) := by decide +kernel
  have hwrite : (.int 7, command) ∈ calls.filterMap Call.byId? := by decide +kernel
  obtain ⟨-, last, hwritten, -, hown⟩ := by_id_write dialect "t" (by decide) hwrite hcompile
  obtain rfl := Option.some.inj (hlast.symm.trans hwritten)
  exact ⟨hcompile, hown.2 (by decide +kernel)⟩

/-- The update of one row is sent as an update of the row that is deleted after it. -/
theorem update_misses_its_row :
    let dialect : MySql := { tablePrefix := "" }
    let calls : List Call := [.update (.int 1) (.single "a" (.text "x")), .delete (.int 2)]
    let command := Command.update (.single "a" (.text "x"))
    let statement := "UPDATE `t` SET `a`='x' WHERE `id` = '2'"
    (∀ call ∈ calls, call.filters = false) ∧ (.int 1, command) ∈ calls.filterMap Call.byId? ∧
      (ofCalls "t" calls).toSql dialect.grammar =
        .ok [statement, "DELETE FROM `t` WHERE `id` = '2'"] ∧
      dialect.compile (ofCalls "t" calls).source command = .ok (.one statement) ∧
      statement ≠ dialect.rowText "t" (.int 1) command := by
  refine ⟨by decide, ?_, ?_, ?_, ?_⟩ <;> decide +kernel

end MySql

end SchemaLedger
