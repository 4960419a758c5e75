import SchemaLedger.Proofs.History.CompletedRun
import SchemaLedger.Proofs.History.UpThenDown

/-! # The status tells what a run will do

The status asks every question of one ledger, while a run asks them one by one of a ledger that it
changes, and may even make or drop. A run that returns a report has nevertheless acted on what the
status called for.
-/

namespace SchemaLedger

set_option autoImplicit false

variable {σ : Type} {connection : Connection σ}

/-- The status of a name when these names have rows. -/
def Status.among (names : List String) (name : String) : Status :=
  if name ∈ names then .applied else .pending

theorem Status.among_eq_source_iff {direction : Direction} {names : List String} {name : String} :
    Status.among names name = direction.source ↔ direction.wants names name = true := by
  unfold Status.among
  by_cases hname : name ∈ names <;> cases direction <;>
    simp [Direction.source, Direction.wants, hname]

namespace Migrator

variable {migrator : Migrator} {view : LedgerView connection migrator.ledgerTable}
  {migration : Migration} {migrations : List Migration} {state : σ}

/-- The look-ups that the status sends. -/
def lookups (migrator : Migrator) (migrations : List Migration) : List (Channel × String) :=
  migrations.map fun migration =>
    (.query, (LedgerStatement.select migration.name).text migrator.ledgerTable)

def statuses (names : List String) (migrations : List Migration) : List (String × Status) :=
  migrations.map fun migration => (migration.name, .among names migration.name)

theorem found_eq_among (hlookups : view.AnswersLookups) :
    migrator.found connection migration state = .among (view.names state) migration.name := by
  unfold Status.among
  split
  · next hname => exact (found_eq_applied_iff hlookups).2 hname
  · next hname => exact (found_eq_pending_iff hlookups).2 hname

theorem names_statuses (direction : Direction) (names : List String) (migrations : List Migration) :
    ((statuses names migrations).filter (·.2 = direction.source)).map (·.1) =
      (direction.wanted names migrations).map (·.name) := by
  have hsource : ∀ migration : Migration,
      decide (Status.among names migration.name = direction.source) =
        direction.wants names migration.name := by
    intro migration
    rw [Bool.eq_iff_iff, decide_eq_true_iff, Status.among_eq_source_iff]
  rw [statuses, List.filter_map, List.map_map, Direction.wanted]
  simp only [Function.comp_def, hsource]

theorem transcript_statusOf_cons (migration : Migration) (rest : List Migration) (state : σ) :
    let lookup := migrator.stage connection .up migration .lookup state
    let later := (migrator.statusOf rest).transcript connection lookup.transcript.state
    (migrator.statusOf (migration :: rest)).transcript connection state =
      ⟨(migration.name, migrator.found connection migration state) :: later.result, later.state,
        lookup.transcript.exchanges ++ later.exchanges⟩ := by
  intro lookup later
  have hlookup := migrator.transcript_stage_lookup connection .up migration state
  change ((migrator.ledger.status migrator.grammar migration.name).bind fun status =>
    (migrator.statusOf rest).bind fun statuses =>
      .done ((migration.name, status) :: statuses)).transcript connection state = _
  rw [Script.transcript_bind, transcript_status]
  simp only [Transcript.andThen, Transcript.map, Script.transcript_bind, Script.transcript,
    List.append_nil, later, lookup, hlookup]
  rfl

theorem transcript_statusOf (hlookups : view.AnswersLookups) :
    let transcript := (migrator.statusOf migrations).transcript connection state
    transcript.result = statuses (view.names state) migrations ∧
      transcript.sent = migrator.lookups migrations ∧
      view.rows transcript.state = view.rows state := by
  induction migrations generalizing state with
  | nil => exact ⟨rfl, rfl, rfl⟩
  | cons migration rest ih =>
    -- every look-up leaves the rows alone, so the later ones find what the first state holds
    have hrows : view.rows (migrator.stage connection .up migration .lookup
        state).transcript.state = view.rows state := rows_lookup .up
    have hnames := LedgerView.names_congr hrows
    obtain ⟨hresult, hsent, hstate⟩ := @ih
      (migrator.stage connection .up migration .lookup state).transcript.state
    rw [transcript_statusOf_cons]
    refine ⟨?_, ?_, hstate.trans hrows⟩
    · rw [hresult, hnames, found_eq_among hlookups]
      rfl
    · rw [Transcript.sent, List.map_append, exchanges_lookup]
      exact congrArg (List.cons _) hsent

theorem run_status (hlookups : view.AnswersLookups) :
    let run := migrator.status.run connection state
    run.result = statuses (view.names state) migrator.migrations ∧
      run.sent = migrator.lookups migrator.migrations ∧
      view.rows run.state = view.rows state := by
  obtain ⟨hresult, hstate, hsent⟩ := migrator.status.run_transcript connection state
  intro run
  rw [hresult, hstate, hsent]
  exact transcript_statusOf hlookups

theorem run_pending (hlookups : view.AnswersLookups) :
    let run := migrator.pending.run connection state
    run.result = (Direction.up.wanted (view.names state) migrator.migrations).map (·.name) ∧
      run.sent = migrator.lookups migrator.migrations ∧
      view.rows run.state = view.rows state := by
  obtain ⟨hresult, hstate, hsent⟩ := migrator.pending.run_transcript connection state
  intro run
  rw [hresult, hstate, hsent]
  obtain ⟨hstatus, hlookups, hrows⟩ :=
    @transcript_statusOf _ _ _ view migrator.migrations state hlookups
  have htranscript : migrator.pending.transcript connection state =
      (migrator.status.transcript connection state).map fun statuses =>
        (statuses.filter (·.2 = .pending)).map (·.1) := by
    change (migrator.status.bind fun statuses =>
      .done ((statuses.filter (·.2 = .pending)).map (·.1))).transcript connection state = _
    rw [Script.transcript_bind]
    simp [Transcript.andThen, Transcript.map, Script.transcript]
  rw [htranscript]
  refine ⟨?_, hlookups, hrows⟩
  exact (congrArg (fun statuses => (statuses.filter (·.2 = .pending)).map (·.1)) hstatus).trans
    (names_statuses .up _ _)

section

variable {tablePrefix : String} {config : Config} {registered : List Migration}
  {view : LedgerView connection (ofMigrations tablePrefix config registered).ledgerTable}

/-- Going down, only the bootstrap migration touches the ledger table, and it is the last one. -/
theorem keepsNames_down_of_spares
    (hspares : ∀ migration ∈ registered, view.Spares
      (migration.act ⟨.down, (ofMigrations tablePrefix config registered).grammar⟩)) :
    ∀ migration ∈ ((ofMigrations tablePrefix config registered).ordered .down).dropLast,
      KeepsNames view .down migration := by
  intro migration hmem
  refine keepsNames_of_spares (hspares migration ?_)
  rw [ordered, List.dropLast_reverse, List.mem_reverse] at hmem
  unfold ofMigrations at hmem
  obtain ⟨-, hone⟩ | ⟨-, hnone⟩ := migrations_ofConfig tablePrefix config
  · rw [hone] at hmem
    exact hmem
  · rw [hnone] at hmem
    exact List.mem_of_mem_tail hmem

/-- The status only looks, and runs that return a report have acted on what it called for. -/
theorem status_forecast (hlookups : view.AnswersLookups)
    (hdistinct : (ofMigrations tablePrefix config registered).names.Nodup)
    (hspares : ∀ direction, ∀ migration ∈ registered, view.Spares
      (migration.act ⟨direction, (ofMigrations tablePrefix config registered).grammar⟩))
    (state : σ) :
    let migrator := ofMigrations tablePrefix config registered
    let status := migrator.status.run connection state
    let pending := migrator.pending.run connection state
    (status.sent = migrator.lookups migrator.migrations ∧
      view.rows status.state = view.rows state) ∧
    (pending.sent = migrator.lookups migrator.migrations ∧
      view.rows pending.state = view.rows state) ∧
    (∀ report, (migrator.up.run connection state).result = .ok report →
      report.applied = pending.result) ∧
    ∀ report, (migrator.down.run connection state).result = .ok report →
      report.rolledBack = ((status.result.filter (·.2 = .applied)).map (·.1)).reverse := by
  intro migrator status pending
  obtain ⟨hstatus, hsent, hrows⟩ : status.result = statuses (view.names state) migrator.migrations ∧
      status.sent = migrator.lookups migrator.migrations ∧
      view.rows status.state = view.rows state := run_status hlookups
  obtain ⟨hpending, hasked, hkept⟩ : pending.result =
        (Direction.up.wanted (view.names state) migrator.migrations).map (·.name) ∧
      pending.sent = migrator.lookups migrator.migrations ∧
      view.rows pending.state = view.rows state := run_pending hlookups
  refine ⟨⟨hsent, hrows⟩, ⟨hasked, hkept⟩, fun report hok => ?_, fun report hok => ?_⟩
  · have hordered : ((migrator.ordered .up).map (·.name)).Nodup := hdistinct
    have hkeeps : ∀ migration ∈ (migrator.ordered .up).dropLast, KeepsNames view .up migration :=
      fun migration hmem => keepsNames_up_of_spares (hspares .up) migration
        ((List.dropLast_sublist _).subset hmem)
    have happlied : report.names Direction.up.action =
        (Direction.up.wanted (view.names state) (migrator.ordered .up)).map (·.name) :=
      names_of_report hlookups hordered hkeeps hok
    exact happlied.trans hpending.symm
  · have hordered : ((migrator.ordered .down).map (·.name)).Nodup := by
      rw [ordered, List.map_reverse]
      exact List.nodup_reverse.2 hdistinct
    have hundone : report.names Direction.down.action =
        (Direction.down.wanted (view.names state) (migrator.ordered .down)).map (·.name) :=
      names_of_report hlookups hordered (keepsNames_down_of_spares (hspares .down)) hok
    have happlied : (status.result.filter (·.2 = .applied)).map (·.1) =
        (Direction.down.wanted (view.names state) migrator.migrations).map (·.name) :=
      hstatus ▸ names_statuses .down _ _
    rw [happlied, ← List.map_reverse, Direction.wanted, ← List.filter_reverse]
    exact hundone

end

end Migrator

theorem Migrator.forecast_half_applied :
    let registered : List Migration :=
      [.altering "add age" "users ADD age int" "users DROP age",
        .altering "add city" "users ADD city text" "users DROP city"]
    let migrator := ofMigrations "app_" { bootstrapLedger := false } registered
    let connection := Connection.waking.withLedger migrator.ledgerTable
    let entered := (KeptLedger.empty migrator.ledgerTable).execute
      ((LedgerStatement.insert "add-age").text migrator.ledgerTable)
    (∃ report, (migrator.up.run connection (entered.2, true)).result = .ok report ∧
      report.applied = ["add-city"]) ∧
    ∃ report, (migrator.down.run connection (entered.2, true)).result = .ok report ∧
      report.rolledBack = ["add-age"] := by
  intro registered migrator connection entered
  have hspares : ∀ direction, ∀ migration ∈ registered,
      (LedgerView.withLedger migrator.ledgerTable .waking).Spares
        (migration.act ⟨direction, migrator.grammar⟩) := by
    intro direction
    refine List.forall_mem_cons.2 ⟨?_, LedgerView.spares_altering _ _ _⟩
    exact LedgerView.spares_altering _ _ _ _ (List.mem_singleton.2 rfl)
  obtain ⟨-, -, hup, hdown⟩ := status_forecast (LedgerView.withLedger_reliable _ _).lookups
    (by decide +kernel) hspares (entered.2, true)
  obtain ⟨applied, hok⟩ : ∃ report,
      (migrator.up.run connection (entered.2, true)).result = .ok report :=
    exists_report (by decide +kernel)
  obtain ⟨undone, hundone⟩ : ∃ report,
      (migrator.down.run connection (entered.2, true)).result = .ok report :=
    exists_report (by decide +kernel)
  exact ⟨⟨applied, hok, (hup applied hok).trans (by decide +kernel)⟩,
    undone, hundone, (hdown undone hundone).trans (by decide +kernel)⟩

end SchemaLedger
