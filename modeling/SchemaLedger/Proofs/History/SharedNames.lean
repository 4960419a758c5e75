import SchemaLedger.Proofs.History.CompletedRun
import SchemaLedger.Proofs.History.UpThenDown

/-! # Migrations that share a name

The ledger knows a migration by its name only, and different identities may have the same words. Of
the migrations that share a name, a run up calls the first; the others find its row and are skipped.
-/

namespace SchemaLedger

set_option autoImplicit false

variable {σ : Type} {connection : Connection σ}

/-- The migrations on which a run up acts in turn when these names have rows. -/
def actedInTurn : List String → List Migration → List Migration
  | _, [] => []
  | names, migration :: rest =>
      if migration.name ∈ names then actedInTurn names rest
      else migration :: actedInTurn (names ++ [migration.name]) rest

theorem actedInTurn_sublist (names : List String) (migrations : List Migration) :
    (actedInTurn names migrations).Sublist migrations := by
  induction migrations generalizing names with
  | nil => exact List.Sublist.refl []
  | cons migration rest ih =>
    unfold actedInTurn
    split
    · exact (ih names).cons migration
    · exact (ih _).cons_cons migration

theorem count_actedInTurn_eq_zero {identity : String} (names : List String)
    {migrations : List Migration} (h : identity ∉ migrations.map (·.identity)) :
    ((actedInTurn names migrations).map (·.identity)).count identity = 0 :=
  List.count_eq_zero_of_not_mem fun hmem =>
    h (((actedInTurn_sublist names migrations).map _).subset hmem)

/-- Of the migrations with one name, the first is acted on, unless the name has a row already. -/
theorem count_actedInTurn (names : List String) {before after : List Migration}
    {migration : Migration}
    (hdistinct : ((before ++ migration :: after).map (·.identity)).Nodup) :
    ((actedInTurn names (before ++ migration :: after)).map (·.identity)).count
        migration.identity =
      if migration.name ∈ names ++ before.map (·.name) then 0 else 1 := by
  induction before generalizing names with
  | nil =>
    have hafter : migration.identity ∉ after.map (·.identity) :=
      (List.nodup_cons.1 hdistinct).1
    simp only [List.nil_append, List.map_nil, List.append_nil, actedInTurn]
    split
    · exact count_actedInTurn_eq_zero names hafter
    · rw [List.map_cons, List.count_cons_self, count_actedInTurn_eq_zero _ hafter]
  | cons first before ih =>
    rw [List.cons_append, List.map_cons, List.nodup_cons] at hdistinct
    have hother : first.identity ≠ migration.identity := by
      intro hsame
      exact hdistinct.1 (hsame ▸ List.mem_map_of_mem (by simp))
    simp only [List.cons_append, actedInTurn]
    split
    · next hfirst =>
      have hsame : migration.name ∈ names ++ before.map (·.name) ↔
          migration.name ∈ names ++ (first :: before).map (·.name) := by
        simp only [List.map_cons, List.mem_append, List.mem_cons]
        constructor
        · rintro (hnames | hbefore)
          · exact .inl hnames
          · exact .inr (.inr hbefore)
        · rintro (hnames | hname | hbefore)
          · exact .inl hnames
          · exact .inl (hname ▸ hfirst)
          · exact .inr hbefore
      rw [ih names hdistinct.2, if_congr hsame rfl rfl]
    · rw [List.map_cons, List.count_cons_of_ne hother, ih _ hdistinct.2, List.append_assoc]
      rfl

namespace Migrator

variable {migrator : Migrator} {view : LedgerView connection migrator.ledgerTable}
  {migration : Migration} {migrations : List Migration} {state : σ}

theorem visit_up_of_ok (hlookups : view.AnswersLookups) (hkeeps : KeepsNames view .up migration)
    {action : Action}
    (hok : (migrator.visitCourse connection .up migration state).result = .ok action) :
    let visit := migrator.visitCourse connection .up migration state
    (migration.name ∈ view.names state ∧ visit.calls = [] ∧
      view.names visit.state = view.names state) ∨
    (migration.name ∉ view.names state ∧ visit.calls = [migration] ∧
      view.names visit.state = view.names state ++ [migration.name]) := by
  have hacted := names_acted hkeeps state
  obtain ⟨hfound, hvisit⟩ | ⟨-, error, -, hvisit⟩ | ⟨hfound, -, hvisit⟩ :=
    migrator.visitCourse_cases connection .up migration state <;> rw [hvisit] at hok ⊢
  · have hname : migration.name ∈ view.names state :=
      Decidable.not_not.1 fun hother => hfound ((found_eq_pending_iff hlookups).2 hother)
    exact .inl ⟨hname, rfl, LedgerView.names_congr (rows_lookup .up)⟩
  · cases hok
  · have hname : migration.name ∉ view.names state := (found_eq_pending_iff hlookups).1 hfound
    obtain ⟨-, hentered⟩ | ⟨error, herror, -⟩ := entry_cases view .up migration
      (migrator.stage connection .up migration .action (migrator.stage connection .up
        migration .lookup state).transcript.state).transcript.state
    · rw [hacted] at hentered
      exact .inr ⟨hname, rfl, hentered⟩
    · dsimp only at hok
      rw [herror] at hok
      cases hok

theorem calls_courseOf_up (hlookups : view.AnswersLookups)
    (hkeeps : ∀ migration ∈ migrations, KeepsNames view .up migration) {outcomes : List Outcome}
    (hok : (migrator.courseOf connection .up migrations state).result = .ok outcomes) :
    (migrator.courseOf connection .up migrations state).calls =
      actedInTurn (view.names state) migrations := by
  induction migrations generalizing state outcomes with
  | nil => rfl
  | cons migration rest ih =>
    obtain ⟨hfirst, hrest⟩ := List.forall_mem_cons.1 hkeeps
    obtain ⟨action, reported, hvisit, hlater, -⟩ := courseOf_cons_eq_ok hok
    have hcalls : (migrator.courseOf connection .up (migration :: rest) state).calls =
        (migrator.visitCourse connection .up migration state).calls ++
          (migrator.courseOf connection .up rest
            (migrator.visitCourse connection .up migration state).state).calls := by
      rw [courseOf_cons_of_ok hvisit]
      simp [Course.calls]
    rw [hcalls, ih hrest hlater, actedInTurn]
    obtain ⟨hname, hnone, hnames⟩ | ⟨hname, hone, hnames⟩ := visit_up_of_ok hlookups hfirst hvisit
    · rw [hnone, hnames, if_pos hname, List.nil_append]
    · rw [hone, hnames, if_neg hname, List.singleton_append]

section

variable {tablePrefix : String} {config : Config} {registered : List Migration}
  {view : LedgerView connection (ofMigrations tablePrefix config registered).ledgerTable}

/-- A run up over an empty ledger that returns a report has called the first migration of each name
once, in the order of registration, and no other. -/
theorem up_calls_first_of_name (hlookups : view.AnswersLookups)
    (hidentities : (registered.map (·.identity)).Nodup)
    (hnames : ∀ migration ∈ registered, migration.name = sanitizeIdentity migration.identity)
    (hspares : ∀ migration ∈ registered,
      view.Spares (migration.up ⟨.up, (ofMigrations tablePrefix config registered).grammar⟩))
    (hbootstrap : config.bootstrapLedger = false) (hempty : view.rows state = some [])
    {report : Report}
    (hok : ((ofMigrations tablePrefix config registered).up.run connection state).result =
      .ok report) :
    let migrator := ofMigrations tablePrefix config registered
    let course := migrator.course connection .up state
    migrator.up.transcript connection state =
        course.transcript.map (·.map fun outcomes => ⟨.up, outcomes⟩) ∧
      course.calls.Sublist registered ∧
      ∀ before migration after, registered = before ++ migration :: after →
        (course.calls.map (·.identity)).count migration.identity =
          if sanitizeIdentity migration.identity ∈
            before.map (sanitizeIdentity ·.identity) then 0 else 1 := by
  intro migrator course
  have hmigrations : migrator.migrations = registered := by
    simp [migrator, ofMigrations, ofConfig, hbootstrap]
  obtain ⟨outcomes, hcourse, -⟩ := course_of_report hok
  have hcalls : course.calls = actedInTurn [] registered := by
    have hturn : course.calls = actedInTurn (view.names state) migrator.migrations :=
      calls_courseOf_up hlookups (keepsNames_up_of_spares hspares) hcourse
    rw [hturn, hmigrations, LedgerView.names_of_rows hempty]
  refine ⟨migrator.transcript_run connection .up state, ?_, ?_⟩
  · rw [hcalls]
    exact actedInTurn_sublist [] registered
  · rintro before migration after rfl
    have hbefore : before.map (·.name) = before.map (sanitizeIdentity ·.identity) :=
      List.map_congr_left fun other hmem => hnames other (List.mem_append_left _ hmem)
    rw [hcalls, count_actedInTurn [] hidentities, List.nil_append, hbefore,
      hnames migration (by simp)]

end

end Migrator

/-- Nothing fails here, and yet the second of two identities with the same words is not called. -/
theorem Migrator.same_words_not_called :
    let registered : List Migration :=
      [.altering "add age" "users ADD age int" "users DROP age",
        .altering "add-age" "posts ADD age int" "posts DROP age"]
    let migrator := ofMigrations "app_" { bootstrapLedger := false } registered
    let connection := Connection.counting.withLedger migrator.ledgerTable
    let view := LedgerView.withLedger migrator.ledgerTable .counting
    ((registered.map (·.identity)).Nodup ∧
      (∀ migration ∈ registered, migration.name = sanitizeIdentity migration.identity) ∧
      (∀ migration ∈ registered, ∀ state,
        ((migration.up ⟨.up, migrator.grammar⟩).transcript connection state).result = .ok ()) ∧
      (∀ migration ∈ registered, view.Spares (migration.up ⟨.up, migrator.grammar⟩)) ∧
      view.Reliable ∧ view.rows (.empty _, 0) = some [] ∧
      ∃ report, (migrator.up.run connection (.empty _, 0)).result = .ok report) ∧
    ((migrator.course connection .up (.empty _, 0)).calls.map (·.identity)).count "add-age" = 0 := by
  intro registered migrator connection view
  have hsucceed : ∀ change state, ((Blueprint.send ("ALTER TABLE " ++ change)).transcript
      connection state).result = .ok () :=
    fun change state => (Connection.actsAs_alter _ change (fun _ => rfl) state).1
  refine ⟨⟨by decide, ?_, ?_, ?_, LedgerView.withLedger_reliable _ _, rfl, ?_⟩, by decide +kernel⟩
  · exact List.forall_mem_cons.2 ⟨rfl, List.forall_mem_singleton.2 rfl⟩
  · exact List.forall_mem_cons.2 ⟨hsucceed _, List.forall_mem_singleton.2 (hsucceed _)⟩
  · exact List.forall_mem_cons.2 ⟨LedgerView.spares_alter _ _ _,
      List.forall_mem_singleton.2 (LedgerView.spares_alter _ _ _)⟩
  · exact exists_report (by decide +kernel)

theorem Migrator.first_of_words_called :
    let registered : List Migration :=
      [.altering "add age" "users ADD age int" "users DROP age",
        .altering "add-age" "posts ADD age int" "posts DROP age",
        .altering "Add Age 2" "books ADD age int" "books DROP age"]
    let migrator := ofMigrations "app_" { bootstrapLedger := false } registered
    let connection := Connection.counting.withLedger migrator.ledgerTable
    let called := (migrator.course connection .up (.empty _, 0)).calls.map (·.identity)
    called.count "add age" = 1 ∧ called.count "add-age" = 0 ∧ called.count "Add Age 2" = 1 := by
  intro registered migrator connection called
  have hspares := LedgerView.spares_alter migrator.ledgerTable .counting
  obtain ⟨report, hok⟩ : ∃ report,
      (migrator.up.run connection (.empty _, 0)).result = .ok report :=
    exists_report (by decide +kernel)
  obtain ⟨-, -, hcount⟩ := up_calls_first_of_name (LedgerView.withLedger_reliable _ _).lookups
    (by decide) (List.forall_mem_cons.2 ⟨rfl, List.forall_mem_cons.2
      ⟨rfl, List.forall_mem_singleton.2 rfl⟩⟩)
    (List.forall_mem_cons.2 ⟨hspares _, List.forall_mem_cons.2
      ⟨hspares _, List.forall_mem_singleton.2 (hspares _)⟩⟩) rfl rfl hok
  refine ⟨?_, ?_, ?_⟩
  · exact (hcount [] _ _ rfl).trans (by decide +kernel)
  · exact (hcount [_] _ _ rfl).trans (by decide +kernel)
  · exact (hcount [_, _] _ _ rfl).trans (by decide +kernel)

end SchemaLedger
