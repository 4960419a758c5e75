import SchemaLedger.Proofs.History.ReliableRun

/-! # Runs that return a report

The connection may refuse any statement here, also those about the ledger table. A run that returns
a report has still acted on every migration that it found to be wanted, and when the names are
distinct these are the ones that its first state called for.
-/

namespace SchemaLedger

set_option autoImplicit false

variable {σ : Type} {connection : Connection σ}

namespace Migrator

variable {migrator : Migrator} {view : LedgerView connection migrator.ledgerTable}
  {direction : Direction} {migration : Migration} {migrations : List Migration} {state : σ}

variable (view direction) in
/-- The action changes no names in the rows. -/
def KeepsNames (migration : Migration) : Prop :=
  ∀ state, view.names (migrator.stage connection direction migration .action
    state).transcript.state = view.names state

theorem keepsNames_of_spares (h : view.Spares (migration.act ⟨direction, migrator.grammar⟩)) :
    KeepsNames view direction migration :=
  fun state => LedgerView.names_congr (h.rows_eq state).2

theorem keepsNames_up_of_spares {tablePrefix : String} {config : Config}
    {registered : List Migration}
    {view : LedgerView connection (ofMigrations tablePrefix config registered).ledgerTable}
    (hspares : ∀ migration ∈ registered, view.Spares
      (migration.act ⟨.up, (ofMigrations tablePrefix config registered).grammar⟩)) :
    ∀ migration ∈ (ofMigrations tablePrefix config registered).migrations,
      KeepsNames view .up migration :=
  fun migration hmem _ => (tame_ofMigrations hspares migration hmem).names_action_up

variable (view) in
/-- An entry is made or refused, and a refused one changes nothing. -/
theorem entry_cases (direction : Direction) (migration : Migration) (state : σ) :
    let entry := migrator.stage connection direction migration .entry state
    (entry.transcript.result = .ok () ∧ view.names entry.transcript.state =
      (direction.enter (some (view.names state)) migration.name).getD []) ∨
    ∃ error, entry.transcript.result = .error error ∧
      view.names entry.transcript.state = view.names state := by
  intro entry
  have hentry : entry.transcript =
      connection.carry ((direction.entry migration.name).text migrator.ledgerTable) state :=
    transcript_entry connection migrator direction migration state
  rw [hentry]
  obtain ⟨hok, hperforms⟩ | ⟨error, herror, hsame⟩ :=
    Connection.carry_cases view _ (direction.channel_entry migration.name) state
  · left
    obtain ⟨names, hnames⟩ : ∃ names, view.rows state = some names := by
      cases direction with
      | up =>
        obtain ⟨names, hbefore, -⟩ := LedgerStatement.performs_insert.1 hperforms
        exact ⟨names, hbefore⟩
      | down =>
        obtain ⟨names, hbefore, -⟩ := LedgerStatement.performs_delete.1 hperforms
        exact ⟨names, hbefore⟩
    rw [hnames] at hperforms
    refine ⟨hok, ?_⟩
    rw [LedgerView.names, direction.performs_entry hperforms, LedgerView.names_of_rows hnames]
  · exact .inr ⟨error, herror, LedgerView.names_congr hsame⟩

theorem names_acted (hkeeps : KeepsNames view direction migration) (state : σ) :
    let lookup := migrator.stage connection direction migration .lookup state
    let action := migrator.stage connection direction migration .action lookup.transcript.state
    view.names action.transcript.state = view.names state := by
  intro lookup action
  exact (hkeeps _).trans (LedgerView.names_congr (rows_lookup direction))

/-- A visit leaves other migrations as wanted as they were, however it ends. -/
theorem wants_visit (hkeeps : KeepsNames view direction migration) {name : String}
    (hother : name ≠ migration.name) :
    direction.wants
        (view.names (migrator.visitCourse connection direction migration state).state) name =
      direction.wants (view.names state) name := by
  have hacted := names_acted hkeeps state
  obtain ⟨-, hvisit⟩ | ⟨-, error, -, hvisit⟩ | ⟨-, -, hvisit⟩ :=
    migrator.visitCourse_cases connection direction migration state <;> rw [hvisit]
  · rw [LedgerView.names_congr (rows_lookup direction)]
  · rw [hacted]
  · rw [← hacted]
    obtain ⟨-, hentered⟩ | ⟨error, -, hsame⟩ := entry_cases view direction migration
      (migrator.stage connection direction migration .action (migrator.stage connection direction
        migration .lookup state).transcript.state).transcript.state
    · exact (congrArg (direction.wants · name) hentered).trans (direction.wants_enter hother)
    · exact congrArg (direction.wants · name) hsame

theorem eq_action_of_settle {result : Except Error Unit} {action : Action}
    (h : settle direction migration result = .ok action) : action = direction.action := by
  cases result with
  | ok _ => exact (Except.ok.inj h).symm
  | error error =>
    cases direction with
    | up => cases h
    | down =>
      change (if migration.identity = Migration.bootstrapIdentity then .ok .rolledBack
        else .error _ : Except Error Action) = .ok action at h
      split at h
      · exact (Except.ok.inj h).symm
      · cases h

theorem outcome_of_visit (hlookups : view.AnswersLookups) {action : Action}
    (hok : (migrator.visitCourse connection direction migration state).result = .ok action) :
    ⟨migration.name, action⟩ = direction.outcome (view.names state) migration := by
  obtain ⟨hfound, hvisit⟩ | ⟨-, error, -, hvisit⟩ | ⟨hfound, -, hvisit⟩ :=
    migrator.visitCourse_cases connection direction migration state <;> rw [hvisit] at hok
  · have hunwanted : ¬ direction.wants (view.names state) migration.name = true :=
      fun h => hfound ((found_eq_source_iff hlookups).2 h)
    rw [Direction.outcome, if_neg hunwanted, ← Except.ok.inj hok]
  · cases hok
  · have hwanted := (found_eq_source_iff hlookups).1 hfound
    rw [Direction.outcome, if_pos hwanted, eq_action_of_settle hok]

theorem courseOf_cons_eq_ok {rest : List Migration} {outcomes : List Outcome}
    (hok : (migrator.courseOf connection direction (migration :: rest) state).result =
      .ok outcomes) :
    let visit := migrator.visitCourse connection direction migration state
    let later := migrator.courseOf connection direction rest visit.state
    ∃ action reported, visit.result = .ok action ∧ later.result = .ok reported ∧
      outcomes = ⟨migration.name, action⟩ :: reported := by
  intro visit later
  cases hvisit : visit.result with
  | error error =>
    rw [courseOf_cons_of_error hvisit] at hok
    cases hok
  | ok action =>
    rw [courseOf_cons_of_ok hvisit] at hok
    change later.result.map _ = _ at hok
    cases hlater : later.result with
    | error error =>
      rw [hlater] at hok
      cases hok
    | ok reported =>
      rw [hlater] at hok
      exact ⟨action, reported, rfl, rfl, (Except.ok.inj hok).symm⟩

/-- The outcomes are those that the first state calls for. The last action may do to the ledger
what it likes. -/
theorem outcomes_of_courseOf (hlookups : view.AnswersLookups)
    (hdistinct : (migrations.map (·.name)).Nodup)
    (hkeeps : ∀ migration ∈ migrations.dropLast, KeepsNames view direction migration)
    {outcomes : List Outcome}
    (hok : (migrator.courseOf connection direction migrations state).result = .ok outcomes) :
    outcomes = migrations.map (direction.outcome (view.names state)) := by
  induction migrations generalizing state outcomes with
  | nil => exact (Except.ok.inj hok).symm
  | cons migration rest ih =>
    rw [List.map_cons, List.nodup_cons] at hdistinct
    obtain ⟨action, reported, hvisit, hlater, rfl⟩ := courseOf_cons_eq_ok hok
    have hhead := outcome_of_visit hlookups hvisit
    cases rest with
    | nil =>
      rw [hhead, ← Except.ok.inj hlater]
      rfl
    | cons next rest =>
      obtain ⟨hfirst, hothers⟩ := List.forall_mem_cons.1 hkeeps
      have hsame : ∀ other ∈ next :: rest,
          direction.outcome (view.names (migrator.visitCourse connection direction migration
            state).state) other = direction.outcome (view.names state) other := by
        intro other hmem
        have hother : other.name ≠ migration.name :=
          fun hname => hdistinct.1 (hname ▸ List.mem_map_of_mem hmem)
        rw [Direction.outcome, Direction.outcome, wants_visit hfirst hother]
      rw [hhead, ih hdistinct.2 hothers hlater, List.map_congr_left hsame]
      rfl

theorem exists_report (h : ((migrator.run direction).run connection state).result.isOk = true) :
    ∃ report, ((migrator.run direction).run connection state).result = .ok report := by
  cases hresult : ((migrator.run direction).run connection state).result with
  | error error =>
    rw [hresult] at h
    cases h
  | ok report => exact ⟨report, rfl⟩

theorem course_of_report {report : Report}
    (hok : ((migrator.run direction).run connection state).result = .ok report) :
    ∃ outcomes, (migrator.course connection direction state).result = .ok outcomes ∧
      report = ⟨direction, outcomes⟩ := by
  rw [result_run] at hok
  cases hcourse : (migrator.course connection direction state).result with
  | error error =>
    rw [hcourse] at hok
    cases hok
  | ok outcomes =>
    rw [hcourse] at hok
    exact ⟨outcomes, rfl, (Except.ok.inj hok).symm⟩

/-- A report names what the first state called for. -/
theorem names_of_report (hlookups : view.AnswersLookups)
    (hdistinct : ((migrator.ordered direction).map (·.name)).Nodup)
    (hkeeps : ∀ migration ∈ (migrator.ordered direction).dropLast,
      KeepsNames view direction migration)
    {report : Report} (hok : ((migrator.run direction).run connection state).result = .ok report) :
    report.names direction.action =
      (direction.wanted (view.names state) (migrator.ordered direction)).map (·.name) := by
  obtain ⟨outcomes, hcourse, rfl⟩ := course_of_report hok
  rw [outcomes_of_courseOf hlookups hdistinct hkeeps hcourse, direction.names_outcomes]

end Migrator

end SchemaLedger
