import SchemaLedger.Proofs.History.KeptLedger
import SchemaLedger.Proofs.History.ReliableRun

/-! # Retries after a failed action

A run up that meets a failing action ends there: what was applied before has its rows, and nothing
of the migrations behind is sent. A later run over the same rows goes on with the migration that
failed.
-/

namespace SchemaLedger

set_option autoImplicit false

variable {σ : Type} {connection : Connection σ}

namespace Migrator

variable {migrator : Migrator} {view : LedgerView connection migrator.ledgerTable}
  {direction : Direction} {migrations : List Migration} {state : σ}

/-- A course that sends a statement about the row of a name visits a migration of that name. -/
theorem exists_stage_of_name? (htame : ∀ migration ∈ migrations, Tame direction view migration)
    {statement : LedgerStatement} {name : String} (hname : statement.name? = some name)
    {exchange : Exchange σ}
    (hmem : exchange ∈ (migrator.courseOf connection direction migrations state).exchanges)
    (htext : exchange.statement = statement.text migrator.ledgerTable) :
    ∃ stage ∈ (migrator.courseOf connection direction migrations state).stages,
      stage.migration.name = name := by
  obtain ⟨stage, hstage, hexchange⟩ := List.mem_flatMap.1 hmem
  obtain ⟨hmigration, hshape⟩ := eq_stage_of_mem_courseOf stage hstage
  rw [hshape] at hexchange
  rw [(htame _ hmigration).statement_eq hexchange htext] at hname
  exact ⟨stage, hstage, Direction.eq_of_name?_statement hname⟩

section

variable {tablePrefix : String} {config : Config} {registered : List Migration}
  {view : LedgerView connection (ofMigrations tablePrefix config registered).ledgerTable}

theorem retry_resumes (hreliable : view.Reliable)
    (hdistinct : (ofMigrations tablePrefix config registered).names.Nodup)
    (hspares : ∀ migration ∈ registered,
      view.Spares (migration.up ⟨.up, (ofMigrations tablePrefix config registered).grammar⟩))
    (hstart : config.bootstrapLedger = true ∨ (view.rows state).isSome) {stage : Stage σ}
    (hstage :
      stage ∈ ((ofMigrations tablePrefix config registered).course connection .up state).stages)
    (haction : stage.part = .action) {error : Error}
    (herror : stage.transcript.result = .error error) :
    let migrator := ofMigrations tablePrefix config registered
    let course := migrator.course connection .up state
    let failed := migrator.up.run connection state
    migrator.up.transcript connection state =
        course.transcript.map (·.map fun outcomes => ⟨.up, outcomes⟩) ∧
    ∃ before after, migrator.migrations = before ++ stage.migration :: after ∧
      let written := (before.filter (·.name ∉ view.names state)).map (·.name)
      stage.migration.name ∉ view.names state ∧
      failed.result = .error (.migration stage.migration.name error.message) ∧
      (view.rows failed.state =
        if written = [] then view.rows state else some (view.names state ++ written)) ∧
      (∀ other ∈ after, (∀ visited ∈ course.stages, visited.migration.name ≠ other.name) ∧
        (.query, (LedgerStatement.select other.name).text migrator.ledgerTable) ∉ failed.sent ∧
        (.execute, (LedgerStatement.insert other.name).text migrator.ledgerTable) ∉ failed.sent) ∧
      ∀ later, view.rows later = view.rows failed.state →
        (migrator.course connection .up later).ActionsSucceed →
        (migrator.course connection .up later).calls =
            (stage.migration :: after).filter (·.name ∉ view.names state) ∧
          ∃ report, (migrator.up.run connection later).result = .ok report ∧
            report.applied =
              ((stage.migration :: after).filter (·.name ∉ view.names state)).map (·.name) := by
  intro migrator course failed
  refine ⟨migrator.transcript_run connection .up state, ?_⟩
  obtain hcompletes | ⟨before, migration, after, cause, hsplit, hhalts⟩ :=
    up_completes_or_halts hreliable hdistinct hspares hstart
  · have hok := hcompletes.actions_succeed stage hstage haction
    rw [herror] at hok
    cases hok
  have hcourse : course = migrator.courseOf connection .up (before ++ migration :: after) state :=
    congrArg (migrator.courseOf connection .up · state) hsplit
  obtain ⟨rfl, rfl⟩ := hhalts.failing stage (hcourse ▸ hstage) haction error herror
  have hnames : ((before ++ stage.migration :: after).map (·.name)).Nodup := hsplit ▸ hdistinct
  -- all that was visited stands before these, and no name is registered twice
  have hbehind : ∀ other ∈ after, ∀ visited ∈ course.stages,
      visited.migration.name ≠ other.name := by
    intro other hother visited hvisited hname
    have hvisited :=
      List.mem_map_of_mem (f := (·.name)) (hhalts.visited visited (hcourse ▸ hvisited))
    rw [← List.singleton_append, ← List.append_assoc, List.map_append, List.nodup_append'] at hnames
    exact hnames.2.2 hvisited (hname ▸ List.mem_map_of_mem hother)
  have hunsent : ∀ other ∈ after, ∀ channel, ∀ statement : LedgerStatement,
      statement.name? = some other.name →
        (channel, statement.text migrator.ledgerTable) ∉ failed.sent := by
    intro other hother channel statement hname hsent
    rw [show failed.sent = course.exchanges.map Exchange.sending from
      migrator.sent_run connection .up state] at hsent
    obtain ⟨exchange, hexchange, hsending⟩ := List.mem_map.1 hsent
    obtain ⟨visited, hvisited, hsame⟩ := exists_stage_of_name? (tame_ofMigrations hspares) hname
      hexchange (congrArg Prod.snd hsending)
    exact hbehind other hother visited hvisited hsame
  have hrows : view.rows failed.state = _ :=
    rows_run.trans ((hcourse ▸ hhalts.rows).trans (Direction.foldl_enter_up _ _))
  refine ⟨before, after, hsplit, of_decide_eq_true hhalts.wanted, ?_, hrows, ?_, ?_⟩
  · have hresult : failed.result = course.result.map (Report.mk .up) :=
      migrator.result_run connection .up state
    rw [hresult, hcourse, hhalts.result, failure, String.empty_append]
    rfl
  · exact fun other hother => ⟨hbehind other hother, hunsent other hother _ (.select _) rfl,
      hunsent other hother _ (.insert _) rfl⟩
  · intro later hlater hsucceed
    have hstart : config.bootstrapLedger = true ∨ (view.rows later).isSome := by
      rw [hlater, hrows]
      split
      · exact hstart
      · exact .inr rfl
    -- the first run has left exactly the rows that make the second start with the failed one
    have hentered : view.names later = view.names state ++
        (Direction.up.wanted (view.names state) before).map (·.name) := by
      rw [LedgerView.names, hlater, hrows]
      split
      · next hnone =>
        rw [hnone, List.append_nil]
        rfl
      · rfl
    have hwanted : Direction.up.wanted (view.names later) migrator.migrations =
        Direction.up.wanted (view.names state) (stage.migration :: after) := by
      rw [hentered, hsplit]
      exact Direction.wanted_up_entered hnames
    have hcompletes := up_completes hreliable hdistinct hspares hstart hsucceed
    obtain ⟨report, hok, happlied⟩ : ∃ report,
        (migrator.up.run connection later).result = .ok report ∧ report.applied =
          (Direction.up.wanted (view.names later) migrator.migrations).map (·.name) :=
      hcompletes.report
    exact ⟨hcompletes.calls.trans hwanted, report, hok,
      happlied.trans (congrArg (List.map (·.name)) hwanted)⟩

end

end Migrator

theorem Migrator.retry_waking :
    let migrator := ofMigrations "app_" {}
      [.altering "add age" "users ADD age int" "users DROP age"]
    let connection := Connection.waking.withLedger migrator.ledgerTable
    let view := LedgerView.withLedger migrator.ledgerTable .waking
    ∃ migration rest,
      (migrator.up.run connection (.missing _, false)).result =
        .error (.migration migration.name
          (Error.ofStatement "ALTER TABLE users ADD age int" (.query "not ready")).message) ∧
      (migrator.course connection .up
          (migrator.up.run connection (.missing _, false)).state).calls =
        (migration :: rest).filter (·.name ∉ view.names (.missing _, false)) := by
  intro migrator connection view
  obtain ⟨stage, hstage, haction, herror⟩ :
      ∃ stage ∈ (migrator.course connection .up (.missing _, false)).stages, stage.part = .action ∧
        stage.transcript.result =
          .error (.ofStatement "ALTER TABLE users ADD age int" (.query "not ready")) := by
    decide +kernel
  have hsucceed : (migrator.course connection .up
      (migrator.up.run connection (.missing _, false)).state).ActionsSucceed := by
    decide +kernel
  obtain ⟨-, before, after, -, -, hresult, -, -, hretry⟩ :=
    retry_resumes (LedgerView.withLedger_reliable _ _) (by decide +kernel)
      (LedgerView.spares_altering migrator.ledgerTable .waking ⟨.up, migrator.grammar⟩) (.inl rfl)
      hstage haction herror
  exact ⟨stage.migration, after, hresult, (hretry _ rfl hsucceed).1⟩

end SchemaLedger
