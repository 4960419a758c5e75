import SchemaLedger.Proofs.History.KeptLedger
import SchemaLedger.Proofs.History.ReliableRun

/-! # Up and then down

When every reverse action undoes its action on the data of a database, a run up from a ledger
without rows and a run down behind it end where they began, ready for the next run up.
-/

namespace SchemaLedger

set_option autoImplicit false

variable {σ δ : Type} {connection : Connection σ} {data : σ → δ}

variable (connection) in
/-- The session always succeeds, and what it does to the data is the function. -/
def Session.ActsAs (data : σ → δ) (f : δ → δ) (session : Session Unit) : Prop :=
  ∀ state, (session.transcript connection state).result = .ok () ∧
    data (session.transcript connection state).state = f (data state)

variable (connection) in
/-- The data lies outside of the ledger table: no statement about that table changes it. -/
structure Connection.LedgerApart (table : String) (data : σ → δ) : Prop where
  execute : ∀ {statement : LedgerStatement}, statement.channel = .execute → ∀ state,
    data (connection.execute (statement.text table) state).2 = data state
  query : ∀ (name : String) (state : σ),
    data (connection.query ((LedgerStatement.select name).text table) state).2 = data state

namespace Migrator

variable {migrator : Migrator} {view : LedgerView connection migrator.ledgerTable}
  {direction : Direction} {migrations : List Migration} {state : σ}

/-- The data changes by the actions that are run and by nothing else. -/
theorem data_courseOf (effect : Migration → δ → δ)
    (hapart : connection.LedgerApart migrator.ledgerTable data)
    (haction : ∀ migration ∈ migrations, ∀ state,
      data (migrator.stage connection direction migration .action state).transcript.state =
        effect migration (data state)) :
    data (migrator.courseOf connection direction migrations state).state =
      (migrator.courseOf connection direction migrations state).calls.foldl
        (fun now migration => effect migration now) (data state) := by
  induction migrations generalizing state with
  | nil => rfl
  | cons migration rest ih =>
    obtain ⟨hfirst, hrest⟩ := List.forall_mem_cons.1 haction
    -- the look-up and the entry leave the data alone, so a visit changes it as its action does
    have hlookup : data (migrator.stage connection direction migration .lookup
        state).transcript.state = data state := by
      rw [state_lookup]
      exact hapart.query migration.name state
    have hentry : ∀ state, data (migrator.stage connection direction migration .entry
        state).transcript.state = data state := by
      intro state
      rw [transcript_entry]
      exact hapart.execute (direction.channel_entry _) state
    have hvisit : data (migrator.visitCourse connection direction migration state).state =
        (migrator.visitCourse connection direction migration state).calls.foldl
          (fun now migration => effect migration now) (data state) := by
      obtain ⟨-, hvisit⟩ | ⟨-, error, -, hvisit⟩ | ⟨-, -, hvisit⟩ :=
        migrator.visitCourse_cases connection direction migration state <;> rw [hvisit]
      · exact hlookup
      · exact (hfirst _).trans (congrArg _ hlookup)
      · exact (hentry _).trans ((hfirst _).trans (congrArg _ hlookup))
    cases hresult : (migrator.visitCourse connection direction migration state).result with
    | error error =>
      rw [courseOf_cons_of_error hresult]
      exact hvisit
    | ok action =>
      rw [courseOf_cons_of_ok hresult]
      refine (ih hrest).trans ?_
      simp only [hvisit, Course.calls, List.filter_append, List.map_append, List.foldl_append]

theorem foldl_reverse_undoes {forward back : Migration → δ → δ}
    (hundoes : ∀ migration ∈ migrations, ∀ now, back migration (forward migration now) = now)
    (now : δ) :
    migrations.reverse.foldl (fun now migration => back migration now)
      (migrations.foldl (fun now migration => forward migration now) now) = now := by
  induction migrations generalizing now with
  | nil => rfl
  | cons migration rest ih =>
    obtain ⟨hfirst, hrest⟩ := List.forall_mem_cons.1 hundoes
    simp only [List.reverse_cons, List.foldl_append, List.foldl_cons, List.foldl_nil, ih hrest]
    exact hfirst now

theorem completes_of_spares (hreliable : view.Reliable)
    (hdistinct : (migrations.map (·.name)).Nodup)
    (hspares : ∀ migration ∈ migrations, view.Spares (migration.act ⟨direction, migrator.grammar⟩))
    (hsucceed : ∀ migration ∈ migrations, ∀ state,
      (migrator.stage connection direction migration .action state).transcript.result = .ok ())
    (hpresent : (view.rows state).isSome) : Completes view direction migrations state := by
  obtain hcompletes | ⟨before, migration, after, error, rfl, hhalts⟩ :=
    completes_or_halts hreliable hdistinct
      (fun migration hmem other => keeps_of_spares (hspares migration hmem)) (.inl hpresent)
  · exact hcompletes
  · obtain ⟨stage, hstage, hpart, herror, -⟩ := hhalts.failed
    obtain ⟨hmem, hshape⟩ := eq_stage_of_mem_courseOf stage hstage
    rw [hshape, hpart, hsucceed _ hmem] at herror
    cases herror

theorem completes_bootstrap_up (hreliable : view.Reliable) (hcreation : view.AcceptsCreation)
    (habsent : view.rows state = none) :
    Completes view .up [.bootstrap migrator.config.ledgerTable] state := by
  obtain hcompletes | ⟨error, hhalts⟩ :=
    singleton_completes_or_halts hreliable (fun _ _ _ => keeps_bootstrap) []
  · exact hcompletes
  · obtain ⟨stage, hstage, hpart, herror, hbefore⟩ := hhalts.failed
    obtain ⟨hmem, hshape⟩ := eq_stage_of_mem_courseOf stage hstage
    have hmissing : view.rows stage.before = none :=
      hbefore.trans (hhalts.rows.trans habsent)
    rw [hshape, hpart, List.mem_singleton.1 hmem, transcript_bootstrap] at herror
    have hok := (connection.result_carry _ _).2 (hcreation _ hmissing)
    cases hok.symm.trans herror

theorem drop_ok (hreliable : view.Reliable) (hpresent : (view.rows state).isSome) :
    let action :=
      migrator.stage connection .down (.bootstrap migrator.config.ledgerTable) .action state
    action.transcript.result = .ok () ∧ view.rows action.transcript.state = none := by
  intro action
  have haction : action.transcript =
      connection.carry (LedgerStatement.drop.text migrator.ledgerTable) state :=
    transcript_bootstrap connection migrator .down state
  have hok : action.transcript.result = .ok () := by
    rw [haction, Connection.result_carry]
    exact hreliable.writes .drop state (by simp) rfl hpresent
  obtain ⟨-, hperforms⟩ | ⟨error, herror, -⟩ :=
    Connection.carry_cases view .drop rfl state
  · exact ⟨hok, haction ▸ LedgerStatement.performs_drop.1 hperforms⟩
  · rw [haction, herror] at hok
    cases hok

theorem entry_absent (direction : Direction) (migration : Migration)
    (habsent : view.rows state = none) :
    let entry := migrator.stage connection direction migration .entry state
    (∃ error, entry.transcript.result = .error error) ∧
      view.rows entry.transcript.state = none := by
  intro entry
  have hentry : entry.transcript =
      connection.carry ((direction.entry migration.name).text migrator.ledgerTable) state :=
    transcript_entry connection migrator direction migration state
  rw [hentry]
  obtain ⟨-, hperforms⟩ | ⟨error, herror, hsame⟩ :=
    Connection.carry_cases view _ (direction.channel_entry migration.name) state
  · rw [habsent] at hperforms
    cases direction <;> cases hperforms
  · exact ⟨⟨error, herror⟩, hsame.trans habsent⟩

/-- Going down, the bootstrap migration drops the table. That its row can then not be removed does
not count as a failure. -/
theorem courseOf_bootstrap_down (hreliable : view.Reliable)
    (happlied : (Migration.bootstrap migrator.config.ledgerTable).name ∈ view.names state) :
    let course := migrator.courseOf connection .down [.bootstrap migrator.config.ledgerTable] state
    course.result = .ok [⟨(Migration.bootstrap migrator.config.ledgerTable).name, .rolledBack⟩] ∧
      view.rows course.state = none := by
  intro course
  have hfound : migrator.found connection (.bootstrap migrator.config.ledgerTable) state =
      Direction.down.source := (found_eq_applied_iff hreliable.lookups).2 happlied
  have hpresent : (view.rows (migrator.stage connection .down
      (.bootstrap migrator.config.ledgerTable) .lookup state).transcript.state).isSome := by
    rw [rows_lookup]
    cases hrows : view.rows state with
    | some names => rfl
    | none => simp [LedgerView.names_of_absent hrows] at happlied
  obtain ⟨haction, hdropped⟩ := drop_ok hreliable hpresent
  obtain ⟨⟨error, herror⟩, habsent⟩ :=
    entry_absent .down (.bootstrap migrator.config.ledgerTable) hdropped
  have hvisit := visitCourse_of_ok hfound haction
  have hcourse : course = _ := courseOf_singleton (.bootstrap migrator.config.ledgerTable)
  rw [hcourse, hvisit, herror]
  exact ⟨rfl, habsent⟩

theorem rolledBack_map (direction : Direction) (names : List String) :
    (Report.mk direction (names.map fun name => ⟨name, .rolledBack⟩)).rolledBack = names := by
  simp [Report.rolledBack, Report.names, List.filter_map, Function.comp_def]

section

variable {tablePrefix : String} {config : Config} {registered : List Migration}
  {view : LedgerView connection (ofMigrations tablePrefix config registered).ledgerTable}
  {forward back : Migration → δ → δ}

/-- The rows before anything is applied: none, in a table that exists unless it is bootstrapped. -/
def freshRows (config : Config) : Option (List String) :=
  if config.bootstrapLedger then none else some []

theorem migrations_ofConfig (tablePrefix : String) (config : Config) :
    (config.bootstrapLedger = true ∧
        (ofConfig tablePrefix config).migrations = [.bootstrap config.ledgerTable]) ∨
      (config.bootstrapLedger = false ∧ (ofConfig tablePrefix config).migrations = []) := by
  cases hbootstrap : config.bootstrapLedger <;> simp [ofConfig, hbootstrap]

theorem reverse_ofConfig (tablePrefix : String) (config : Config) :
    (ofConfig tablePrefix config).migrations.reverse =
      (ofConfig tablePrefix config).migrations := by
  obtain ⟨-, hone⟩ | ⟨-, hnone⟩ := migrations_ofConfig tablePrefix config
  · rw [hone, List.reverse_singleton]
  · rw [hnone, List.reverse_nil]

theorem names_reverse_ofConfig (tablePrefix : String) (config : Config) :
    (ofConfig tablePrefix config).names.reverse = (ofConfig tablePrefix config).names := by
  rw [names, ← List.map_reverse, reverse_ofConfig]

theorem bootstrap_up (hreliable : view.Reliable) (hcreation : view.AcceptsCreation)
    (hstart : view.rows state = freshRows config) :
    Completes view .up (ofConfig tablePrefix config).migrations state ∧
      view.rows ((ofMigrations tablePrefix config registered).courseOf connection .up
        (ofConfig tablePrefix config).migrations state).state =
          some (ofConfig tablePrefix config).names := by
  rw [names]
  obtain ⟨hbootstrap, hone⟩ | ⟨hbootstrap, hnone⟩ := migrations_ofConfig tablePrefix config
  · have habsent : view.rows state = none := by
      rw [hstart, freshRows, if_pos hbootstrap]
    have hcompletes : Completes view .up [.bootstrap config.ledgerTable] state :=
      completes_bootstrap_up hreliable hcreation habsent
    rw [hone]
    refine ⟨hcompletes, hcompletes.rows.trans ?_⟩
    rw [LedgerView.names_of_absent habsent, habsent]
    rfl
  · rw [hnone]
    refine ⟨.nil, hstart.trans ?_⟩
    rw [freshRows, hbootstrap]
    rfl

theorem bootstrap_down (hreliable : view.Reliable)
    (hrows : view.rows state = some (ofConfig tablePrefix config).names) :
    let course := (ofMigrations tablePrefix config registered).courseOf connection .down
      (ofConfig tablePrefix config).migrations state
    course.result =
        .ok ((ofConfig tablePrefix config).names.map fun name => ⟨name, .rolledBack⟩) ∧
      view.rows course.state = freshRows config := by
  rw [names] at hrows ⊢
  obtain ⟨hbootstrap, hone⟩ | ⟨hbootstrap, hnone⟩ := migrations_ofConfig tablePrefix config
  · rw [hone] at hrows ⊢
    have happlied : (Migration.bootstrap config.ledgerTable).name ∈ view.names state := by
      rw [LedgerView.names_of_rows hrows]
      exact List.mem_cons_self
    obtain ⟨hresult, habsent⟩ := courseOf_bootstrap_down hreliable happlied
    rw [freshRows, if_pos hbootstrap]
    exact ⟨hresult, habsent⟩
  · rw [hnone] at hrows ⊢
    refine ⟨rfl, hrows.trans ?_⟩
    rw [freshRows, hbootstrap]
    rfl

theorem data_bootstrap (direction : Direction)
    (hapart :
      connection.LedgerApart (ofMigrations tablePrefix config registered).ledgerTable data) :
    data ((ofMigrations tablePrefix config registered).courseOf connection direction
      (ofConfig tablePrefix config).migrations state).state = data state := by
  refine (data_courseOf (fun _ now => now) hapart ?_).trans (List.foldl_fixed _)
  intro migration hmem state
  obtain ⟨-, hone⟩ | ⟨-, hnone⟩ := migrations_ofConfig tablePrefix config
  · rw [hone, List.mem_singleton] at hmem
    rw [hmem]
    have haction := transcript_bootstrap connection (ofMigrations tablePrefix config registered)
      direction state
    exact (congrArg (fun transcript => data transcript.state) haction).trans
      (hapart.execute direction.channel_bootstrapping state)
  · rw [hnone] at hmem
    cases hmem

theorem names_ofMigrations : (ofMigrations tablePrefix config registered).names =
    (ofConfig tablePrefix config).names ++ registered.map (·.name) :=
  List.map_append

theorem disjoint_bootstrap (hdistinct : (ofMigrations tablePrefix config registered).names.Nodup) :
    ∀ migration ∈ registered, migration.name ∉ (ofConfig tablePrefix config).names := by
  intro migration hmem hbootstrap
  rw [names_ofMigrations, List.nodup_append'] at hdistinct
  exact hdistinct.2.2 hbootstrap (List.mem_map_of_mem hmem)

theorem nodup_registered (hdistinct : (ofMigrations tablePrefix config registered).names.Nodup) :
    (registered.map (·.name)).Nodup := by
  rw [names_ofMigrations, List.nodup_append'] at hdistinct
  exact hdistinct.2.1

theorem up_of_fresh (hreliable : view.Reliable) (hcreation : view.AcceptsCreation)
    (hapart : connection.LedgerApart (ofMigrations tablePrefix config registered).ledgerTable data)
    (hdistinct : (ofMigrations tablePrefix config registered).names.Nodup)
    (hspares : ∀ migration ∈ registered, view.Spares
      (migration.act ⟨.up, (ofMigrations tablePrefix config registered).grammar⟩))
    (hup : ∀ migration ∈ registered, Session.ActsAs connection data (forward migration)
      (migration.up ⟨.up, (ofMigrations tablePrefix config registered).grammar⟩))
    (hstart : view.rows state = freshRows config) :
    let migrator := ofMigrations tablePrefix config registered
    let course := migrator.course connection .up state
    Completes view .up migrator.migrations state ∧ view.rows course.state = some migrator.names ∧
      data course.state =
        registered.foldl (fun now migration => forward migration now) (data state) := by
  intro migrator course
  obtain ⟨hbootstrap, hrows⟩ := bootstrap_up hreliable hcreation hstart
  have hdisjoint := disjoint_bootstrap hdistinct
  have hregistered : Completes view .up registered (migrator.courseOf connection .up
      (ofConfig tablePrefix config).migrations state).state :=
    completes_of_spares hreliable (nodup_registered hdistinct) hspares
      (fun migration hmem state => (hup migration hmem state).1) (Option.isSome_of_eq_some hrows)
  have hwanted : Direction.up.wanted (ofConfig tablePrefix config).names registered = registered :=
    List.filter_eq_self.2 fun migration hmem => decide_eq_true (hdisjoint migration hmem)
  have hcourse : course = _ := courseOf_append_of_ok registered hbootstrap.result
  refine ⟨hbootstrap.append hregistered hdisjoint, ?_, ?_⟩
  · rw [hcourse]
    refine hregistered.rows.trans ?_
    rw [LedgerView.names_of_rows hrows, hwanted, hrows, Direction.foldl_enter_up_some,
      ← names_ofMigrations]
  · have haction : ∀ migration ∈ registered, ∀ state,
        data (migrator.stage connection .up migration .action state).transcript.state =
          forward migration (data state) :=
      fun migration hmem state => (hup migration hmem state).2
    have hbefore : data (migrator.courseOf connection .up (ofConfig tablePrefix config).migrations
        state).state = data state := data_bootstrap .up hapart
    rw [hcourse]
    refine (data_courseOf forward hapart haction).trans ?_
    rw [hregistered.calls, LedgerView.names_of_rows hrows, hwanted, hbefore]

theorem down_of_all (hreliable : view.Reliable)
    (hapart : connection.LedgerApart (ofMigrations tablePrefix config registered).ledgerTable data)
    (hdistinct : (ofMigrations tablePrefix config registered).names.Nodup)
    (hspares : ∀ migration ∈ registered, view.Spares
      (migration.act ⟨.down, (ofMigrations tablePrefix config registered).grammar⟩))
    (hdown : ∀ migration ∈ registered, Session.ActsAs connection data (back migration)
      (migration.down ⟨.down, (ofMigrations tablePrefix config registered).grammar⟩))
    (hrows : view.rows state = some (ofMigrations tablePrefix config registered).names) :
    let migrator := ofMigrations tablePrefix config registered
    let course := migrator.course connection .down state
    course.result = .ok (migrator.names.reverse.map fun name => ⟨name, .rolledBack⟩) ∧
      view.rows course.state = freshRows config ∧
      data course.state =
        registered.reverse.foldl (fun now migration => back migration now) (data state) := by
  intro migrator course
  have hdisjoint := disjoint_bootstrap hdistinct
  have hnames := LedgerView.names_of_rows hrows
  have hregistered : Completes view .down registered.reverse state := by
    refine completes_of_spares hreliable ?_
      (fun migration hmem => hspares migration (List.mem_reverse.1 hmem))
      (fun migration hmem state => (hdown migration (List.mem_reverse.1 hmem) state).1)
      (Option.isSome_of_eq_some hrows)
    rw [List.map_reverse]
    exact List.nodup_reverse.2 (nodup_registered hdistinct)
  -- every registered migration has a row, so all of them are rolled back
  have hwants : ∀ migration ∈ registered.reverse,
      Direction.down.wants (view.names state) migration.name = true := by
    intro migration hmem
    rw [hnames, names_ofMigrations]
    exact decide_eq_true
      (List.mem_append_right _ (List.mem_map_of_mem (List.mem_reverse.1 hmem)))
  have hwanted : Direction.down.wanted (view.names state) registered.reverse =
      registered.reverse := List.filter_eq_self.2 hwants
  -- of the rows only that of the bootstrap migration is then left
  have hleft : view.rows (migrator.courseOf connection .down registered.reverse state).state =
      some (ofConfig tablePrefix config).names := by
    have hkept : (ofConfig tablePrefix config).names.filter
        (· ∉ registered.reverse.map (·.name)) = (ofConfig tablePrefix config).names := by
      refine List.filter_eq_self.2 fun name hname => decide_eq_true fun hremoved => ?_
      obtain ⟨migration, hmem, rfl⟩ := List.mem_map.1 hremoved
      exact hdisjoint migration (List.mem_reverse.1 hmem) hname
    have hgone : (registered.map (·.name)).filter (· ∉ registered.reverse.map (·.name)) = [] := by
      simp
    rw [hregistered.rows, hwanted, hrows, Direction.foldl_enter_down, names_ofMigrations,
      List.filter_append, hkept, hgone, List.append_nil]
  obtain ⟨hresult, hfresh⟩ := bootstrap_down hreliable hleft
  have hordered : migrator.ordered .down =
      registered.reverse ++ (ofConfig tablePrefix config).migrations := by
    rw [← reverse_ofConfig]
    exact List.reverse_append
  have hcourse : course = migrator.courseOf connection .down
      (registered.reverse ++ (ofConfig tablePrefix config).migrations) state :=
    congrArg (migrator.courseOf connection .down · state) hordered
  rw [courseOf_append_of_ok _ hregistered.result] at hcourse
  rw [hcourse]
  refine ⟨?_, hfresh, ?_⟩
  · have houtcomes : registered.reverse.map (Direction.down.outcome (view.names state)) =
        (registered.map (·.name)).reverse.map fun name => ⟨name, .rolledBack⟩ := by
      rw [← List.map_reverse, List.map_map]
      exact List.map_congr_left fun migration hmem => by
        rw [Direction.outcome, if_pos (hwants migration hmem)]
        rfl
    have hreverse : migrator.names.reverse =
        (registered.map (·.name)).reverse ++ (ofConfig tablePrefix config).names := by
      rw [names_ofMigrations, List.reverse_append, names_reverse_ofConfig]
    rw [hresult, houtcomes, hreverse, List.map_append]
    rfl
  · have haction : ∀ migration ∈ registered.reverse, ∀ state,
        data (migrator.stage connection .down migration .action state).transcript.state =
          back migration (data state) :=
      fun migration hmem state => (hdown migration (List.mem_reverse.1 hmem) state).2
    refine (data_bootstrap .down hapart).trans ((data_courseOf back hapart haction).trans ?_)
    rw [hregistered.calls, hwanted]

theorem up_then_down (hreliable : view.Reliable)
    (hcreation : view.AcceptsCreation)
    (hapart : connection.LedgerApart (ofMigrations tablePrefix config registered).ledgerTable data)
    (hdistinct : (ofMigrations tablePrefix config registered).names.Nodup)
    (hspares : ∀ direction, ∀ migration ∈ registered, view.Spares
      (migration.act ⟨direction, (ofMigrations tablePrefix config registered).grammar⟩))
    (hup : ∀ migration ∈ registered, Session.ActsAs connection data (forward migration)
      (migration.up ⟨.up, (ofMigrations tablePrefix config registered).grammar⟩))
    (hdown : ∀ migration ∈ registered, Session.ActsAs connection data (back migration)
      (migration.down ⟨.down, (ofMigrations tablePrefix config registered).grammar⟩))
    (hundoes : ∀ migration ∈ registered, ∀ now, back migration (forward migration now) = now)
    (hstart : view.rows state = freshRows config) :
    let migrator := ofMigrations tablePrefix config registered
    let first := migrator.up.run connection state
    let second := migrator.down.run connection first.state
    let third := migrator.up.run connection second.state
    ∃ applied undone again : Report,
      first.result = .ok applied ∧ applied.applied = migrator.names ∧
      second.result = .ok undone ∧ undone.rolledBack = applied.applied.reverse ∧
      data second.state = data state ∧ view.rows second.state = view.rows state ∧
      third.result = .ok again ∧ again.applied = migrator.names ∧
      (migrator.course connection .up second.state).calls = migrator.migrations := by
  intro migrator first second third
  have hall : ∀ state, view.rows state = freshRows config →
      Direction.up.wanted (view.names state) migrator.migrations = migrator.migrations := by
    intro state hfresh
    have hnone : view.names state = [] := by
      rw [LedgerView.names, hfresh, freshRows]
      split <;> rfl
    rw [hnone]
    exact List.filter_eq_self.2 fun _ _ => rfl
  have hreport : ∀ {state}, view.rows state = freshRows config →
      Completes view .up migrator.migrations state →
        ∃ report, (migrator.up.run connection state).result = .ok report ∧
          report.applied = migrator.names := by
    intro state hfresh hcompletes
    obtain ⟨report, hok, happlied⟩ := hcompletes.report
    exact ⟨report, hok, happlied.trans (congrArg (List.map (·.name)) (hall state hfresh))⟩
  have hfirst : first.state = (migrator.course connection .up state).state :=
    migrator.state_run connection .up state
  have hsecond : second.state = (migrator.course connection .down first.state).state :=
    migrator.state_run connection .down first.state
  obtain ⟨hcompletes, hentered, hforward⟩ :=
    up_of_fresh hreliable hcreation hapart hdistinct (hspares .up) hup hstart
  rw [← hfirst] at hentered hforward
  obtain ⟨hresult, hfresh, hback⟩ :=
    down_of_all hreliable hapart hdistinct (hspares .down) hdown hentered
  rw [← hsecond] at hfresh hback
  obtain ⟨hagain, -, -⟩ :=
    up_of_fresh hreliable hcreation hapart hdistinct (hspares .up) hup hfresh
  obtain ⟨applied, hok, happlied⟩ := hreport hstart hcompletes
  obtain ⟨again, hrepeated, hnames⟩ := hreport hfresh hagain
  have hundone : second.result = .ok ⟨.down, migrator.names.reverse.map fun name =>
      ⟨name, .rolledBack⟩⟩ :=
    (migrator.result_run connection .down first.state).trans (congrArg (Except.map _) hresult)
  refine ⟨applied, _, again, hok, happlied, hundone, ?_, ?_, ?_, hrepeated, hnames, ?_⟩
  · rw [rolledBack_map, happlied]
  · rw [hback, hforward, foldl_reverse_undoes hundoes]
  · rw [hfresh, hstart]
  · exact hagain.calls.trans (hall _ hfresh)

end

end Migrator

def Connection.counting : Connection Int where
  tablePrefix := ""
  execute statement columns :=
    (.ok 0, if statement = "ALTER TABLE users ADD age int" then columns + 1 else columns - 1)
  query _ columns := (.ok [], columns)

theorem Connection.counting_ledgerApart (table : String) :
    (counting.withLedger table).LedgerApart table Prod.snd where
  execute hchannel state := by rw [execute_withLedger counting state hchannel]
  query name state := by rw [query_withLedger]

theorem Connection.actsAs_alter (table change : String) {f : Int → Int}
    (h : ∀ columns, (counting.execute ("ALTER TABLE " ++ change) columns) = (.ok 0, f columns)) :
    Session.ActsAs (counting.withLedger table) Prod.snd f
      (Blueprint.send ("ALTER TABLE " ++ change)) := by
  intro state
  have hexecute :=
    execute_withLedger_other counting state (KeptLedger.not_answers_alter table change)
  rw [h] at hexecute
  rw [Blueprint.transcript_send, result_carry, carry, hexecute]
  exact ⟨⟨0, rfl⟩, rfl⟩

theorem Migrator.up_then_down_counting :
    let migrator := ofMigrations "app_" {}
      [.altering "add age" "users ADD age int" "users DROP age"]
    let connection := Connection.counting.withLedger migrator.ledgerTable
    let reached := (migrator.up.run connection (.missing _, 3)).state
    (migrator.down.run connection reached).state.2 = 3 := by
  intro migrator connection reached
  let view := LedgerView.withLedger migrator.ledgerTable .counting
  have hup : ∀ migration ∈ [Migration.altering "add age" "users ADD age int" "users DROP age"],
      Session.ActsAs connection Prod.snd (· + 1) (migration.up ⟨.up, migrator.grammar⟩) :=
    List.forall_mem_singleton.2 (Connection.actsAs_alter _ _ fun columns =>
      congrArg (Prod.mk _) (if_pos (by decide)))
  have hdown : ∀ migration ∈ [Migration.altering "add age" "users ADD age int" "users DROP age"],
      Session.ActsAs connection Prod.snd (· - 1) (migration.down ⟨.down, migrator.grammar⟩) :=
    List.forall_mem_singleton.2 (Connection.actsAs_alter _ _ fun columns =>
      congrArg (Prod.mk _) (if_neg (by decide)))
  have hstart : view.rows (.missing _, 3) = freshRows {} := rfl
  obtain ⟨-, -, -, -, -, -, -, hdata, -⟩ := up_then_down (LedgerView.withLedger_reliable _ _)
    (LedgerView.withLedger_acceptsCreation _ _) (Connection.counting_ledgerApart _)
    (by decide +kernel)
    (fun direction => LedgerView.spares_altering _ _ ⟨direction, migrator.grammar⟩) hup hdown
    (fun _ _ now => Int.add_sub_cancel now 1) hstart
  subst reached connection migrator
  exact hdata

end SchemaLedger
