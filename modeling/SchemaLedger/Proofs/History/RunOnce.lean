import SchemaLedger.Proofs.History.KeptLedger
import SchemaLedger.Proofs.History.ReliableRun

/-! # Every migration runs once

Over a reliable ledger, a run up in which no action fails applies the migrations without a row, each
once and in the order of registration. From then on further runs up only look the migrations up.
-/

namespace SchemaLedger

set_option autoImplicit false

variable {σ : Type} {connection : Connection σ}

namespace Migrator

variable {migrator : Migrator} {view : LedgerView connection migrator.ledgerTable}
  {migrations : List Migration} {state : σ}

theorem nodup_entered {names : List String} (hnames : names.Nodup)
    (hdistinct : (migrations.map (·.name)).Nodup) :
    (names ++ (Direction.up.wanted names migrations).map (·.name)).Nodup := by
  refine List.nodup_append'.2 ⟨hnames, hdistinct.sublist (List.filter_sublist.map _), ?_⟩
  intro name hname hwanted
  obtain ⟨migration, hmem, rfl⟩ := List.mem_map.1 hwanted
  exact (Direction.mem_wanted_up.1 hmem).2 hname

theorem mem_entered {names : List String} {migration : Migration} (hmem : migration ∈ migrations) :
    migration.name ∈ names ++ (Direction.up.wanted names migrations).map (·.name) := by
  by_cases hname : migration.name ∈ names
  · exact List.mem_append_left _ hname
  · exact List.mem_append_right _
      (List.mem_map_of_mem (Direction.mem_wanted_up.2 ⟨hmem, hname⟩))

/-- What a run up does when every registered migration has a row. -/
structure Idles (migrator : Migrator) (view : LedgerView connection migrator.ledgerTable)
    (state : σ) : Prop where
  calls : (migrator.course connection .up state).calls = []
  sent : (migrator.up.run connection state).sent = migrator.names.map fun name =>
    (.query, (LedgerStatement.select name).text migrator.ledgerTable)
  result : (migrator.up.run connection state).result =
    .ok ⟨.up, migrator.names.map fun name => ⟨name, .skipped⟩⟩
  rows : view.rows (migrator.up.run connection state).state = view.rows state

theorem idles_of_completes (hlookups : view.AnswersLookups)
    (hcompletes : Completes view .up migrator.migrations state)
    (happlied : ∀ migration ∈ migrator.migrations, migration.name ∈ view.names state) :
    Idles migrator view state := by
  have hunwanted : ∀ migration ∈ migrator.migrations,
      Direction.up.wants (view.names state) migration.name = false := fun migration hmem =>
    decide_eq_false (not_not_intro (happlied migration hmem))
  have hnone : Direction.up.wanted (view.names state) migrator.migrations = [] :=
    List.filter_eq_nil_iff.2 fun migration hmem => by simp [hunwanted migration hmem]
  refine ⟨?_, ?_, ?_, ?_⟩
  · exact hcompletes.calls.trans hnone
  · exact (migrator.sent_run connection .up state).trans
      ((sent_of_unwanted hlookups hunwanted).trans (by simp [names]))
  · refine (migrator.result_run connection .up state).trans ?_
    have hskipped : migrator.migrations.map (Direction.up.outcome (view.names state)) =
        migrator.names.map fun name => ⟨name, .skipped⟩ := by
      rw [names, List.map_map]
      exact List.map_congr_left fun migration hmem => by
        simp [Direction.outcome, hunwanted migration hmem]
    rw [← hskipped]
    exact congrArg (Except.map _) hcompletes.result
  · refine rows_run.trans (hcompletes.rows.trans ?_)
    rw [hnone]
    rfl

theorem rows_stateAfter {rows : Option (List String)}
    (hstep : ∀ state, view.rows state = rows →
      view.rows (migrator.up.run connection state).state = rows)
    (hstart : view.rows state = rows) (count : Nat) :
    view.rows (migrator.stateAfter connection (.replicate count .up) state) = rows := by
  induction count generalizing state with
  | zero => exact hstart
  | succ count ih => exact ih (hstep state hstart)

section

variable {tablePrefix : String} {config : Config} {registered : List Migration}
  {view : LedgerView connection (ofMigrations tablePrefix config registered).ledgerTable}

theorem rows_up_of_completes (hstart : config.bootstrapLedger = true ∨ (view.rows state).isSome)
    (hcompletes :
      Completes view .up (ofMigrations tablePrefix config registered).migrations state) :
    view.rows ((ofMigrations tablePrefix config registered).up.run connection state).state =
      some (view.names state ++ (Direction.up.wanted (view.names state)
        (ofMigrations tablePrefix config registered).migrations).map (·.name)) := by
  refine rows_run.trans (hcompletes.rows.trans ?_)
  cases hrows : view.rows state with
  | some names =>
    rw [LedgerView.names_of_rows hrows]
    exact Direction.foldl_enter_up_some _
  | none =>
    -- the bootstrap migration itself is then without a row
    have hbootstrap : config.bootstrapLedger = true := hstart.resolve_right (by simp [hrows])
    have hmem : Migration.bootstrap config.ledgerTable ∈
        (ofMigrations tablePrefix config registered).migrations := by
      simp [ofMigrations, ofConfig, hbootstrap]
    rw [LedgerView.names_of_absent hrows]
    exact (Direction.foldl_enter_up _ _).trans (if_neg (List.ne_nil_of_mem (List.mem_map_of_mem
      (Direction.mem_wanted_up.2 ⟨hmem, List.not_mem_nil⟩))))

/-- A first run up applies what has no row; however many further runs change nothing. -/
theorem run_once (hreliable : view.Reliable)
    (hdistinct : (ofMigrations tablePrefix config registered).names.Nodup)
    (hspares : ∀ migration ∈ registered,
      view.Spares (migration.up ⟨.up, (ofMigrations tablePrefix config registered).grammar⟩))
    (hstart : config.bootstrapLedger = true ∨ (view.rows state).isSome)
    (hnodup : (view.names state).Nodup)
    (hsucceed : ((ofMigrations tablePrefix config registered).course connection .up
      state).ActionsSucceed) :
    let migrator := ofMigrations tablePrefix config registered
    let pending := migrator.migrations.filter (·.name ∉ view.names state)
    let course := migrator.course connection .up state
    let first := migrator.up.run connection state
    (migrator.up.transcript connection state =
        course.transcript.map (·.map fun outcomes => ⟨.up, outcomes⟩) ∧
      course.calls = pending) ∧
    (∃ report, first.result = .ok report ∧ report.applied = pending.map (·.name)) ∧
    view.rows first.state = some (view.names state ++ pending.map (·.name)) ∧
    (∀ name ∈ migrator.names, (view.names first.state).count name = 1) ∧
    ∀ count, let reached := migrator.stateAfter connection (.replicate (count + 1) .up) state
      view.rows reached = view.rows first.state ∧ Idles migrator view reached := by
  intro migrator pending course first
  have hcompletes := up_completes hreliable hdistinct hspares hstart hsucceed
  have hrows : view.rows first.state = some (view.names state ++ pending.map (·.name)) :=
    rows_up_of_completes hstart hcompletes
  have happlied : ∀ migration ∈ migrator.migrations, migration.name ∈ view.names first.state := by
    intro migration hmem
    rw [LedgerView.names_of_rows hrows]
    exact mem_entered hmem
  -- a later run that halted would have found a migration without a row
  have hidles : ∀ later, view.rows later = view.rows first.state → Idles migrator view later := by
    intro later hlater
    have hnames := LedgerView.names_congr hlater
    obtain hcompletes | ⟨before, migration, after, error, hsplit, hhalts⟩ :=
      up_completes_or_halts hreliable hdistinct hspares
        (.inr (hlater ▸ Option.isSome_of_eq_some hrows))
    · exact idles_of_completes hreliable.lookups hcompletes (hnames ▸ happlied)
    · have hmem : migration ∈ migrator.migrations := by
        rw [hsplit]
        exact List.mem_append_right _ List.mem_cons_self
      exact absurd (hnames ▸ happlied migration hmem) (of_decide_eq_true hhalts.wanted)
  refine ⟨⟨migrator.transcript_run connection .up state, hcompletes.calls⟩, ?_, hrows, ?_, ?_⟩
  · exact hcompletes.report
  · intro name hname
    obtain ⟨migration, hmem, rfl⟩ := List.mem_map.1 hname
    refine List.count_eq_one_of_mem ?_ (happlied migration hmem)
    rw [LedgerView.names_of_rows hrows]
    exact nodup_entered hnodup hdistinct
  · intro count reached
    have hreached : view.rows reached = view.rows first.state :=
      rows_stateAfter (fun later hlater => (hidles later hlater).rows.trans hlater) rfl count
    exact ⟨hreached, hidles reached hreached⟩

end

end Migrator

theorem Migrator.applied_up_waking :
    let migrator := ofMigrations "app_" {}
      [.altering "add age" "users ADD age int" "users DROP age"]
    let connection := Connection.waking.withLedger migrator.ledgerTable
    ∃ report, (migrator.up.run connection (.missing _, true)).result = .ok report ∧
      report.applied = ["create-migrations-table", "add-age"] := by
  intro migrator connection
  let view := LedgerView.withLedger migrator.ledgerTable .waking
  have hnodup : (view.names (.missing migrator.ledgerTable, true)).Nodup := List.nodup_nil
  obtain ⟨report, hok, happlied⟩ := (run_once
    (LedgerView.withLedger_reliable _ _) (by decide +kernel)
    (LedgerView.spares_altering migrator.ledgerTable .waking ⟨.up, migrator.grammar⟩) (.inl rfl)
    hnodup (by decide +kernel)).2.1
  exact ⟨report, hok, happlied.trans (by decide +kernel)⟩

end SchemaLedger
