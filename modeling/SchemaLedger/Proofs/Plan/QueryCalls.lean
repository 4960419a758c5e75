import SchemaLedger.Plan.Record

/-! # Queries that are put together call by call

Every query that can be had comes from an empty one by calls. Each call queues at most one command
and adds at most one clause map, whatever was called before it.
-/

namespace SchemaLedger

set_option autoImplicit false

namespace Query

inductive Call where
  | insert (data : Bag)
  | update (id : Value) (data : Bag)
  | updateWhere (data : Bag)
  | delete (id : Value)
  | deleteWhere
  | find
  | whereEq (key : String) (value : Value)
  | whereAll (clause : Bag)
  | orWhere
  | limit (count : UInt64)
  | unlimited
  deriving DecidableEq

def call (query : Query) : Call → Query
  | .insert data => query.insert data
  | .update id data => query.update id data
  | .updateWhere data => query.updateWhere data
  | .delete id => query.delete id
  | .deleteWhere => query.deleteWhere
  | .find => query.find
  | .whereEq key value => query.whereEq key value
  | .whereAll clause => query.whereAll clause
  | .orWhere => query.orWhere
  | .limit count => query.limit count
  | .unlimited => query.unlimited

def callAll (query : Query) (calls : List Call) : Query :=
  calls.foldl call query

def ofCalls (table : String) (calls : List Call) : Query :=
  ({ table } : Query).callAll calls

namespace Call

def command? : Call → Option Command
  | insert data => some (.insert data)
  | update _ data | updateWhere data => some (.update data)
  | delete _ | deleteWhere => some .delete
  | find => some .find
  | _ => none

def clause? : Call → Option Bag
  | update id _ | delete id => some (.single "id" id)
  | whereEq key value => some (.single key value)
  | whereAll clause => some clause
  | limit count =>
      some (.single "limit" (.long (Int64.ofNat (min count.toNat Int64.maxValue.toInt.toNat))))
  | _ => none

end Call

variable (query : Query)

/-- What one call adds does not depend on the calls before it. -/
theorem call_eq (call : Call) : query.call call = { query with
    commands := query.commands ++ call.command?.toList
    clauses := query.clauses ++ call.clause?.toList
    operator := if call = .orWhere then .or else query.operator
    unbounded := query.unbounded || decide (call = .unlimited) } := by
  cases call with
  | update id data =>
    simp [call, update, whereEq, whereAll, queue, Call.command?, Call.clause?]
  | delete id =>
    simp [call, delete, whereEq, whereAll, queue, Call.command?, Call.clause?]
  | insert data => simp [call, insert, queue, Call.command?, Call.clause?]
  | updateWhere data => simp [call, updateWhere, queue, Call.command?, Call.clause?]
  | deleteWhere => simp [call, deleteWhere, queue, Call.command?, Call.clause?]
  | find => simp [call, find, queue, Call.command?, Call.clause?]
  | whereEq key value => simp [call, whereEq, whereAll, Call.command?, Call.clause?]
  | whereAll clause => simp [call, whereAll, Call.command?, Call.clause?]
  | limit count => simp [call, limit, whereEq, whereAll, Call.command?, Call.clause?]
  | orWhere => simp [call, orWhere, Call.command?, Call.clause?]
  | unlimited => simp [call, unlimited, Call.command?, Call.clause?]

theorem callAll_eq (calls : List Call) : query.callAll calls = { query with
    commands := query.commands ++ calls.filterMap Call.command?
    clauses := query.clauses ++ calls.filterMap Call.clause?
    operator := if .orWhere ∈ calls then .or else query.operator
    unbounded := query.unbounded || decide (.unlimited ∈ calls) } := by
  induction calls generalizing query with
  | nil => simp [callAll]
  | cons first rest ih =>
    have hcons : ∀ {β : Type} (f : Call → Option β),
        (first :: rest).filterMap f = (f first).toList ++ rest.filterMap f := by
      intro β f
      rw [List.filterMap_cons]
      cases f first <;> rfl
    change (query.call first).callAll rest = _
    rw [ih, call_eq, hcons, hcons]
    by_cases hrest : Call.orWhere ∈ rest <;>
      simp [hrest, List.append_assoc, Bool.or_assoc, eq_comm]

theorem ofCalls_eq (table : String) (calls : List Call) : ofCalls table calls =
    { table, commands := calls.filterMap Call.command?, clauses := calls.filterMap Call.clause?
      operator := if .orWhere ∈ calls then .or else .and
      unbounded := decide (.unlimited ∈ calls) } := by
  rw [ofCalls, callAll_eq]
  simp

theorem clauses_ofCalls (table : String) (calls : List Call) :
    (ofCalls table calls).source.clauses = calls.filterMap Call.clause? := by
  rw [ofCalls_eq]
  rfl

end Query

inductive Finder.Step where
  | whereEq (key : String) (value : Value)
  | whereAll (clause : Bag)
  | limit (count : UInt64)
  | unlimited
  deriving DecidableEq

namespace Finder

def Step.call : Step → Query.Call
  | whereEq key value => .whereEq key value
  | whereAll clause => .whereAll clause
  | limit count => .limit count
  | unlimited => .unlimited

def step (finder : Finder) : Step → Finder
  | .whereEq key value => finder.whereEq key value
  | .whereAll clause => finder.whereAll clause
  | .limit count => finder.limit count
  | .unlimited => finder.unlimited

theorem step_eq (finder : Finder) (step : Step) :
    finder.step step = { finder with query := finder.query.call step.call } := by
  cases step <;> rfl

theorem foldl_step (finder : Finder) (steps : List Step) : steps.foldl step finder =
    { finder with query := finder.query.callAll (steps.map Step.call) } := by
  induction steps generalizing finder with
  | nil => rfl
  | cons first rest ih =>
    rw [List.foldl_cons, ih, step_eq]
    rfl

end Finder

/-- The read that the steps make of a fresh one. -/
def Record.finder (record : Record) (table : String) (steps : List Finder.Step) : Finder :=
  steps.foldl Finder.step (record.find table)

theorem Record.finder_eq (record : Record) (table : String) (steps : List Finder.Step) :
    record.finder table steps =
      ⟨record.grammar, Query.ofCalls table (.find :: steps.map Finder.Step.call)⟩ := by
  rw [finder, Finder.foldl_step]
  rfl

theorem Record.grammar_finder (record : Record) (table : String) (steps : List Finder.Step) :
    (record.finder table steps).grammar = record.grammar := by
  rw [finder_eq]

theorem Record.commands_finder (record : Record) (table : String) (steps : List Finder.Step) :
    (record.finder table steps).query.commands = [.find] := by
  have hnone : (steps.map Finder.Step.call).filterMap Query.Call.command? = [] := by
    rw [List.filterMap_eq_nil_iff]
    intro call hcall
    obtain ⟨step, -, rfl⟩ := List.mem_map.1 hcall
    cases step <;> rfl
  rw [finder_eq, Query.ofCalls_eq, List.filterMap_cons, hnone]
  rfl

end SchemaLedger
