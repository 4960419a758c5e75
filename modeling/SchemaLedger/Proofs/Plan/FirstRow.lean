import SchemaLedger.Proofs.Exchange.Delivery
import SchemaLedger.Proofs.History.LedgerStatement
import SchemaLedger.Proofs.Plan.Limits

/-! # The first row of a read

A read sends one statement for its rows, whatever steps narrowed it. Asking for its first row sets a
limit of one behind all other clauses: the predicates stay as they are, and every earlier limit
gives way.
-/

namespace SchemaLedger

set_option autoImplicit false

open Query

variable {σ : Type}

namespace MySql

variable (table : String) (calls : List Call)

theorem whereClause_with_limit (count : UInt64) :
    whereClause (ofCalls table (calls ++ [.limit count])).source =
      whereClause (ofCalls table calls).source := by
  have hfilters : filters (ofCalls table (calls ++ [.limit count])).source =
      filters (ofCalls table calls).source := by
    rw [← filters_without_limits, ← filters_without_limits table calls]
    simp [Call.isLimit]
  have hoperator : (ofCalls table (calls ++ [.limit count])).source.operator =
      (ofCalls table calls).source.operator := by
    rw [ofCalls_eq, ofCalls_eq]
    simp [source]
  rw [whereClause, whereClause, hfilters, hoperator]

/-- Neither an earlier limit nor a read without limits stands against the one that is set last. -/
theorem limitClause_with_one (dialect : MySql) :
    dialect.limitClause (ofCalls table (calls ++ [.limit 1])).source true = " LIMIT 1" := by
  have hlast : ((calls ++ [Call.limit 1]).filterMap Call.limit?).getLast? = some (.long 1) := by
    rw [List.filterMap_append, List.getLast?_append]
    rfl
  rw [limitClause_eq, rowLimit_ofCalls table hlast]
  rfl

end MySql

section

variable (record : Record) (table : String) (steps : List Finder.Step)

theorem Record.query_finder :
    (record.finder table steps).query = ofCalls table (.find :: steps.map Finder.Step.call) := by
  rw [finder_eq]

theorem Record.limit_finder (count : UInt64) :
    (record.finder table steps).limit count = record.finder table (steps ++ [.limit count]) := by
  rw [finder, finder, List.foldl_append]
  rfl

end

/-- The statement of the read that the steps make. -/
theorem MySql.find_finder (dialect : MySql) (record : Record) (table : String)
    (steps : List Finder.Step) :
    let source := (record.finder table steps).query.source
    dialect.find source = "SELECT * FROM " ++ dialect.tableName table ++ whereClause source ++
      dialect.limitClause source true := by
  intro source
  have htable : source.table = table := by
    simp only [source, Record.query_finder, ofCalls_eq]
    rfl
  rw [find_eq, htable]

theorem MySql.find_finder_with_one (dialect : MySql) (record : Record) (table : String)
    (steps : List Finder.Step) :
    dialect.find (record.finder table (steps ++ [.limit 1])).query.source =
      "SELECT * FROM " ++ dialect.tableName table ++
        whereClause (record.finder table steps).query.source ++ " LIMIT 1" := by
  have hcalls : (record.finder table (steps ++ [.limit 1])).query =
      ofCalls table ((.find :: steps.map Finder.Step.call) ++ [.limit 1]) := by
    rw [Record.query_finder, List.map_append]
    rfl
  rw [find_finder, hcalls, whereClause_with_limit, limitClause_with_one, Record.query_finder]

namespace Finder

theorem ends_results (dialect : MySql) (table : String) (steps : List Step)
    (connection : Connection σ) (start : σ) :
    let finder := (Record.mk dialect.grammar).finder table steps
    let select := dialect.find finder.query.source
    finder.results.Ends connection start
      ((connection.query select start).1.mapError (.ofStatement select))
      (connection.query select start).2 [(.query, select)] := by
  intro finder select
  have hresults : finder.results = read select := by
    rw [results, Record.grammar_finder, Query.results, Record.commands_finder, resultsOf_find]
  rw [Session.ends_iff, hresults, transcript_read]
  exact ⟨rfl, rfl, rfl⟩

/-- The first row of a read is asked for by one statement: the one that reads all its results, with
a limit of one in place of its own. -/
theorem first_asks_for_one_row (dialect : MySql) (table : String) (steps : List Step)
    (connection : Connection σ) (start : σ) :
    let finder := (Record.mk dialect.grammar).finder table steps
    let source := finder.query.source
    let select := "SELECT * FROM " ++ dialect.tableName table ++ MySql.whereClause source
    let all := select ++ dialect.limitClause source true
    let one := select ++ " LIMIT 1"
    finder.results.Ends connection start
      ((connection.query all start).1.mapError (.ofStatement all))
      (connection.query all start).2 [(.query, all)] ∧
    finder.first.Ends connection start
      (match (connection.query one start).1 with
        | .ok rows => .ok rows.head?
        | .error error => .error (.execution one error.message))
      (connection.query one start).2 [(.query, one)] := by
  intro finder source select all one
  have hresults := ends_results dialect table steps connection start
  have hfirst := ends_results dialect table (steps ++ [.limit 1]) connection start
  simp only [MySql.find_finder_with_one] at hfirst
  simp only [MySql.find_finder] at hresults
  constructor
  · exact hresults
  · have hanswer : ((connection.query one start).1.mapError (Error.ofStatement one)).map
        List.head? =
          match (connection.query one start).1 with
          | .ok rows => Except.ok rows.head?
          | .error error => .error (Error.execution one error.message) := by
      cases (connection.query one start).1 <;> rfl
    rw [first, Record.limit_finder, ← hanswer]
    exact hfirst.map List.head?

end Finder

end SchemaLedger
