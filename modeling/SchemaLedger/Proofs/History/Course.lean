import SchemaLedger.History.Migrator
import SchemaLedger.Proofs.Exchange.Transcript

/-! # The course of a run

What a run does for each migration that it visits, stage by stage: it looks the migration up in the
ledger, runs its action and writes into the ledger. Every run has the result, the final state and
the exchanges of its course, over any connection whatsoever.
-/

namespace SchemaLedger

set_option autoImplicit false

variable {σ α : Type}

/-- What a run may do for one migration, in this order. -/
inductive Part where
  | lookup
  | action
  /-- The row of the migration is written or removed. -/
  | entry
  deriving DecidableEq

structure Stage (σ : Type) where
  migration : Migration
  part : Part
  before : σ
  transcript : Transcript σ (Except Error Unit)

structure Course (σ α : Type) where
  stages : List (Stage σ)
  result : Except Error α
  state : σ

namespace Course

def exchanges (course : Course σ α) : List (Exchange σ) :=
  course.stages.flatMap fun stage => stage.transcript.exchanges

def transcript (course : Course σ α) : Transcript σ (Except Error α) :=
  ⟨course.result, course.state, course.exchanges⟩

/-- The migrations whose actions are run, in order. -/
def calls (course : Course σ α) : List Migration :=
  (course.stages.filter (·.part = .action)).map (·.migration)

/-- No action that is run returns an error. -/
def ActionsSucceed (course : Course σ α) : Prop :=
  ∀ stage ∈ course.stages, stage.part = .action → stage.transcript.result = .ok ()

def preceded (stage : Stage σ) (course : Course σ α) : Course σ α :=
  { course with stages := stage :: course.stages }

end Course

/-- The status of the migrations on which a run acts. -/
def Direction.source : Direction → Status
  | up => .pending
  | down => .applied

/-- What becomes of a migration on which a run acts. -/
def Direction.action : Direction → Action
  | up => .applied
  | down => .rolledBack

/-- A look-up that fails counts as finding nothing. -/
def Status.ofLookup : Except Error (Option LedgerEntry) → Status
  | .ok (some _) => .applied
  | _ => .pending

namespace Migrator

variable (migrator : Migrator) (connection : Connection σ) (direction : Direction)

def session (migration : Migration) : Part → Session Unit
  | .lookup => (fun _ => ()) <$> migrator.ledger.lookup migrator.grammar migration.name
  | .action => migration.act ⟨direction, migrator.grammar⟩
  | .entry =>
      match direction with
      | .up => migrator.ledger.record migrator.grammar migration.name
      | .down => migrator.ledger.forget migrator.grammar migration.name

def perform (migration : Migration) : Session Action :=
  match direction with
  | .up => migrator.apply migration >>= fun _ => pure .applied
  | .down => migrator.rollBack migration >>= fun _ => pure .rolledBack

def stage (migration : Migration) (part : Part) (state : σ) : Stage σ :=
  ⟨migration, part, state, (migrator.session direction migration part).transcript connection state⟩

def found (migration : Migration) (state : σ) : Status :=
  .ofLookup
    ((migrator.ledger.lookup migrator.grammar migration.name).transcript connection state).result

/-- The end of a visit when the ledger has been written or has refused to be. -/
def settle (migration : Migration) : Except Error Unit → Except Error Action
  | .ok () => .ok direction.action
  | .error error =>
      match direction with
      | .up => .error (failure migration.name "could not record in ledger: " error)
      | .down =>
          if migration.identity = Migration.bootstrapIdentity then .ok .rolledBack
          else .error (failure migration.name "could not remove from ledger: " error)

def performCourse (migration : Migration) (state : σ) : Course σ Action :=
  let action := migrator.stage connection direction migration .action state
  match action.transcript.result with
  | .error error => ⟨[action], .error (failure migration.name "" error), action.transcript.state⟩
  | .ok () =>
      let entry := migrator.stage connection direction migration .entry action.transcript.state
      ⟨[action, entry], settle direction migration entry.transcript.result, entry.transcript.state⟩

def visitCourse (migration : Migration) (state : σ) : Course σ Action :=
  let lookup := migrator.stage connection direction migration .lookup state
  if migrator.found connection migration state = direction.source then
    (migrator.performCourse connection direction migration lookup.transcript.state).preceded lookup
  else
    ⟨[lookup], .ok .skipped, lookup.transcript.state⟩

/-- The first visit that ends in an error ends the course. -/
def courseOf : List Migration → σ → Course σ (List Outcome)
  | [], state => ⟨[], .ok [], state⟩
  | migration :: rest, state =>
      let first := migrator.visitCourse connection direction migration state
      match first.result with
      | .error error => ⟨first.stages, .error error, first.state⟩
      | .ok action =>
          let later := courseOf rest first.state
          ⟨first.stages ++ later.stages, later.result.map (⟨migration.name, action⟩ :: ·),
            later.state⟩

def course (state : σ) : Course σ (List Outcome) :=
  migrator.courseOf connection direction (migrator.ordered direction) state

theorem transcript_stage_lookup (migration : Migration) (state : σ) :
    (migrator.stage connection direction migration .lookup state).transcript =
      ((migrator.ledger.lookup migrator.grammar migration.name).transcript connection state).map
        (·.map fun _ => ()) :=
  Session.transcript_map connection _ _ state

theorem transcript_status (migration : Migration) (state : σ) :
    (migrator.ledger.status migrator.grammar migration.name).transcript connection state =
      ((migrator.ledger.lookup migrator.grammar migration.name).transcript connection state).map
        Status.ofLookup := by
  rw [Ledger.status, Script.bind_eq, Script.transcript_bind]
  change ((migrator.ledger.lookup migrator.grammar migration.name).transcript connection
    state).andThen _ = _
  simp only [Transcript.andThen, Transcript.map]
  cases h : ((migrator.ledger.lookup migrator.grammar migration.name).transcript connection
      state).result with
  | error error => simp [Script.transcript, Status.ofLookup]
  | ok entry => cases entry <;> simp [Script.transcript, Status.ofLookup]

theorem transcript_apply (migration : Migration) (state : σ) :
    (migrator.apply migration >>= fun _ => pure Action.applied).transcript connection state =
      (migrator.performCourse connection .up migration state).transcript := by
  change (((migration.up ⟨.up, migrator.grammar⟩).mapError (failure migration.name "") >>= fun _ =>
    (migrator.ledger.record migrator.grammar migration.name).mapError
      (failure migration.name "could not record in ledger: ") >>= fun _ =>
    note .info ("Migration " ++ migration.name ++ " ran successfully.")) >>= fun _ =>
    pure Action.applied).transcript connection state = _
  simp only [Session.transcript_bind, Session.transcript_mapError, Transcript.andThen,
    Transcript.map, performCourse, stage, session, Migration.act, Course.transcript]
  cases ((migration.up ⟨.up, migrator.grammar⟩).transcript connection state).result with
  | error error => simp [Session.proceed, Course.exchanges]
  | ok _ =>
    simp only [Session.mapError_ok, Session.proceed, Session.transcript_bind,
      Session.transcript_mapError, Transcript.andThen, Transcript.map, Course.exchanges]
    cases ((migrator.ledger.record migrator.grammar migration.name).transcript connection
      ((migration.up ⟨.up, migrator.grammar⟩).transcript connection state).state).result <;>
      simp [note, settle, Direction.action]

theorem transcript_forget (migration : Migration) (state : σ) :
    (migrator.forget migration).transcript connection state =
      ((migrator.ledger.forget migrator.grammar migration.name).transcript connection state).map
        fun result => (settle .down migration result).map fun _ => () := by
  change ((migrator.ledger.forget migrator.grammar migration.name).attempt >>= fun result =>
    match result with
    | .ok () => pure ()
    | .error error =>
        if migration.identity = Migration.bootstrapIdentity then
          note .warn ("Could not remove ledger row for " ++ migration.name ++ ": " ++ error.message)
        else
          throw (failure migration.name "could not remove from ledger: " error)).transcript
            connection state = _
  simp only [Session.transcript_bind, Session.transcript_attempt, Transcript.andThen,
    Transcript.map, Session.proceed]
  cases ((migrator.ledger.forget migrator.grammar migration.name).transcript connection
      state).result with
  | ok _ => simp [settle, Except.map]
  | error error =>
    by_cases hbootstrap : migration.identity = Migration.bootstrapIdentity <;>
      simp [settle, Except.map, hbootstrap, note]

theorem transcript_rollBack (migration : Migration) (state : σ) :
    (migrator.rollBack migration >>= fun _ => pure Action.rolledBack).transcript connection state =
      (migrator.performCourse connection .down migration state).transcript := by
  change (((migration.down ⟨.down, migrator.grammar⟩).mapError (failure migration.name "") >>=
    fun _ => migrator.forget migration >>= fun _ =>
    note .info ("Migration " ++ migration.name ++ " rolled back.")) >>= fun _ =>
    pure Action.rolledBack).transcript connection state = _
  simp only [Session.transcript_bind, Session.transcript_mapError, Transcript.andThen,
    Transcript.map, performCourse, stage, session, Migration.act, Course.transcript]
  cases ((migration.down ⟨.down, migrator.grammar⟩).transcript connection state).result with
  | error error => simp [Session.proceed, Course.exchanges]
  | ok _ =>
    simp only [Session.mapError_ok, Session.proceed, Session.transcript_bind, transcript_forget,
      Transcript.andThen, Transcript.map, Course.exchanges]
    cases ((migrator.ledger.forget migrator.grammar migration.name).transcript connection
      ((migration.down ⟨.down, migrator.grammar⟩).transcript connection state).state).result with
    | ok _ => simp [note, settle, Direction.action, Except.map]
    | error error =>
      by_cases hbootstrap : migration.identity = Migration.bootstrapIdentity <;>
        simp [note, settle, Except.map, hbootstrap]

theorem transcript_perform (migration : Migration) (state : σ) :
    (migrator.perform direction migration).transcript connection state =
      (migrator.performCourse connection direction migration state).transcript := by
  cases direction with
  | up => exact migrator.transcript_apply connection migration state
  | down => exact migrator.transcript_rollBack connection migration state

theorem visit_eq (migration : Migration) : migrator.visit direction migration =
    (ExceptT.lift (migrator.ledger.status migrator.grammar migration.name) : Session Status) >>=
      fun status =>
        if status = direction.source then migrator.perform direction migration
        else note .debug ("Migration " ++ migration.name ++ " already " ++ direction.text ++
          ", skipping") >>= fun _ => pure .skipped := by
  cases direction <;>
  · refine congrArg (Bind.bind _) (funext fun status => ?_)
    cases status <;> rfl

theorem transcript_visit (migration : Migration) (state : σ) :
    (migrator.visit direction migration).transcript connection state =
      (migrator.visitCourse connection direction migration state).transcript := by
  have hlookup := migrator.transcript_stage_lookup connection direction migration state
  rw [visit_eq, Session.transcript_bind, Session.transcript_lift, transcript_status]
  simp only [Transcript.andThen, Transcript.map, Session.proceed, visitCourse, found, hlookup]
  split
  · simp [transcript_perform, Course.transcript, Course.preceded, Course.exchanges, hlookup,
      Transcript.map]
  · simp only [Session.transcript_bind, note, Session.transcript_note, Transcript.andThen,
      Session.proceed, Session.transcript_pure]
    simp [Course.transcript, Course.exchanges, hlookup, Transcript.map]

theorem transcript_visitAll (migrations : List Migration) (state : σ) :
    (migrator.visitAll direction migrations).transcript connection state =
      (migrator.courseOf connection direction migrations state).transcript := by
  induction migrations generalizing state with
  | nil => rfl
  | cons migration rest ih =>
    change (migrator.visit direction migration >>= fun action =>
      migrator.visitAll direction rest >>= fun outcomes =>
      pure (⟨migration.name, action⟩ :: outcomes)).transcript connection state = _
    rw [Session.transcript_bind, transcript_visit, courseOf]
    simp only [Transcript.andThen, Course.transcript]
    cases (migrator.visitCourse connection direction migration state).result with
    | error error => simp [Session.proceed, Course.exchanges]
    | ok action =>
      simp [Session.proceed, bind_pure_comp, Session.transcript_map, ih, Course.exchanges,
        Course.transcript, Transcript.map]

theorem transcript_run (state : σ) :
    (migrator.run direction).transcript connection state =
      (migrator.course connection direction state).transcript.map
        (·.map fun outcomes => ⟨direction, outcomes⟩) := by
  change (migrator.visitAll direction (migrator.ordered direction) >>= fun outcomes =>
    pure (Report.mk direction outcomes)).transcript connection state = _
  rw [bind_pure_comp, Session.transcript_map, transcript_visitAll, course]

theorem result_run (state : σ) :
    ((migrator.run direction).run connection state).result =
      (migrator.course connection direction state).result.map (Report.mk direction) := by
  rw [(Session.run_transcript connection _ state).1, transcript_run]
  rfl

theorem state_run (state : σ) :
    ((migrator.run direction).run connection state).state =
      (migrator.course connection direction state).state := by
  rw [(Session.run_transcript connection _ state).2.1, transcript_run]
  rfl

theorem sent_run (state : σ) :
    ((migrator.run direction).run connection state).sent =
      (migrator.course connection direction state).exchanges.map Exchange.sending := by
  rw [(Session.run_transcript connection _ state).2.2, transcript_run]
  rfl

/-- The state that a series of runs reaches, whether they succeed or not. -/
def stateAfter (directions : List Direction) (state : σ) : σ :=
  directions.foldl (fun state direction => ((migrator.run direction).run connection state).state)
    state

/-- The migrator of a configuration with further migrations registered. -/
def ofMigrations (tablePrefix : String) (config : Config) (migrations : List Migration) :
    Migrator :=
  { ofConfig tablePrefix config with
    migrations := (ofConfig tablePrefix config).migrations ++ migrations }

theorem foldl_register (tablePrefix : String) (config : Config) (migrations : List Migration) :
    migrations.foldl register (ofConfig tablePrefix config) =
      ofMigrations tablePrefix config migrations := by
  suffices ∀ migrator : Migrator, migrations.foldl register migrator =
      { migrator with migrations := migrator.migrations ++ migrations } from this _
  induction migrations with
  | nil => simp
  | cons migration rest ih => simp [ih, register]

section Visit

variable {migrator connection direction} {migration : Migration} {state : σ}

theorem visitCourse_of_found_ne
    (hfound : migrator.found connection migration state ≠ direction.source) :
    let lookup := migrator.stage connection direction migration .lookup state
    migrator.visitCourse connection direction migration state =
      ⟨[lookup], .ok .skipped, lookup.transcript.state⟩ :=
  if_neg hfound

theorem visitCourse_of_error
    (hfound : migrator.found connection migration state = direction.source) {error : Error} :
    let lookup := migrator.stage connection direction migration .lookup state
    let action := migrator.stage connection direction migration .action lookup.transcript.state
    action.transcript.result = .error error →
    migrator.visitCourse connection direction migration state =
      ⟨[lookup, action], .error (failure migration.name "" error), action.transcript.state⟩ := by
  intro lookup action haction
  simp only [visitCourse, if_pos hfound, performCourse]
  change (match action.transcript.result with | .error error => _ | .ok () => _ :
    Course σ Action).preceded lookup = _
  rw [haction]
  rfl

theorem visitCourse_of_ok
    (hfound : migrator.found connection migration state = direction.source) :
    let lookup := migrator.stage connection direction migration .lookup state
    let action := migrator.stage connection direction migration .action lookup.transcript.state
    let entry := migrator.stage connection direction migration .entry action.transcript.state
    action.transcript.result = .ok () →
    migrator.visitCourse connection direction migration state =
      ⟨[lookup, action, entry], settle direction migration entry.transcript.result,
        entry.transcript.state⟩ := by
  intro lookup action entry haction
  simp only [visitCourse, if_pos hfound, performCourse]
  change (match action.transcript.result with | .error error => _ | .ok () => _ :
    Course σ Action).preceded lookup = _
  rw [haction]
  rfl

variable (migrator connection direction migration state)

/-- A visit skips its migration, fails with its action, or acts and then writes the ledger. -/
theorem visitCourse_cases :
    let lookup := migrator.stage connection direction migration .lookup state
    let action := migrator.stage connection direction migration .action lookup.transcript.state
    let entry := migrator.stage connection direction migration .entry action.transcript.state
    let visit := migrator.visitCourse connection direction migration state
    (migrator.found connection migration state ≠ direction.source ∧
      visit = ⟨[lookup], .ok .skipped, lookup.transcript.state⟩) ∨
    (migrator.found connection migration state = direction.source ∧
      ∃ error, action.transcript.result = .error error ∧ visit =
        ⟨[lookup, action], .error (failure migration.name "" error), action.transcript.state⟩) ∨
    (migrator.found connection migration state = direction.source ∧
      action.transcript.result = .ok () ∧ visit =
        ⟨[lookup, action, entry], settle direction migration entry.transcript.result,
          entry.transcript.state⟩) := by
  intro lookup action entry visit
  by_cases hfound : migrator.found connection migration state = direction.source
  · cases haction : action.transcript.result with
    | error error => exact .inr (.inl ⟨hfound, error, rfl, visitCourse_of_error hfound haction⟩)
    | ok _ => exact .inr (.inr ⟨hfound, rfl, visitCourse_of_ok hfound haction⟩)
  · exact .inl ⟨hfound, visitCourse_of_found_ne hfound⟩

end Visit

section Invariant

variable {migrator connection direction} {migrations : List Migration} {state : σ}

theorem courseOf_cons_of_error {migration : Migration} {rest : List Migration} {error : Error}
    (h : (migrator.visitCourse connection direction migration state).result = .error error) :
    let visit := migrator.visitCourse connection direction migration state
    migrator.courseOf connection direction (migration :: rest) state =
      ⟨visit.stages, .error error, visit.state⟩ := by
  intro visit
  rw [courseOf, h]

theorem courseOf_cons_of_ok {migration : Migration} {rest : List Migration} {action : Action}
    (h : (migrator.visitCourse connection direction migration state).result = .ok action) :
    let visit := migrator.visitCourse connection direction migration state
    let later := migrator.courseOf connection direction rest visit.state
    migrator.courseOf connection direction (migration :: rest) state =
      ⟨visit.stages ++ later.stages, later.result.map (⟨migration.name, action⟩ :: ·),
        later.state⟩ := by
  intro visit later
  rw [courseOf, h]

theorem courseOf_singleton (migration : Migration) :
    let visit := migrator.visitCourse connection direction migration state
    migrator.courseOf connection direction [migration] state =
      ⟨visit.stages, visit.result.map fun action => [⟨migration.name, action⟩], visit.state⟩ := by
  intro visit
  cases hresult : visit.result with
  | error error => exact courseOf_cons_of_error hresult
  | ok action =>
    rw [courseOf_cons_of_ok hresult]
    simp [courseOf, Except.map, visit]

theorem courseOf_append_of_ok {first : List Migration} (second : List Migration)
    {outcomes : List Outcome}
    (h : (migrator.courseOf connection direction first state).result = .ok outcomes) :
    let course := migrator.courseOf connection direction first state
    let later := migrator.courseOf connection direction second course.state
    migrator.courseOf connection direction (first ++ second) state =
      ⟨course.stages ++ later.stages, later.result.map (outcomes ++ ·), later.state⟩ := by
  intro course later
  -- by induction on the first migrations: none of their visits fails, or their course would
  induction first generalizing state outcomes with
  | nil =>
    obtain rfl := Except.ok.inj h
    have hsame : later.result.map ([] ++ ·) = later.result := by
      cases later.result <;> rfl
    rw [hsame]
    rfl
  | cons migration rest ih =>
    cases hvisit : (migrator.visitCourse connection direction migration state).result with
    | error error =>
      rw [courseOf_cons_of_error hvisit] at h
      cases h
    | ok action =>
      have hcourse : course = _ := courseOf_cons_of_ok hvisit
      change course.result = .ok outcomes at h
      simp only [later, hcourse, List.cons_append] at h ⊢
      rw [courseOf_cons_of_ok hvisit]
      cases hrest : (migrator.courseOf connection direction rest
          (migrator.visitCourse connection direction migration state).state).result with
      | error error =>
        rw [hrest] at h
        cases h
      | ok outcomes =>
        rw [hrest] at h
        obtain rfl := Except.ok.inj h
        rw [ih hrest]
        simp only [List.append_assoc, Except.map]
        cases (migrator.courseOf connection direction second (migrator.courseOf connection direction
          rest (migrator.visitCourse connection direction migration state).state).state).result <;>
          rfl

/-- What one visit preserves, with what holds of its stages, carries over to the whole course. -/
theorem courseOf_invariant {P : σ → Prop} {Q : List (Stage σ) → Prop} (hnil : Q [])
    (happend : ∀ {first second}, Q first → Q second → Q (first ++ second))
    (hvisit : ∀ migration ∈ migrations, ∀ state, P state →
      Q (migrator.visitCourse connection direction migration state).stages ∧
        P (migrator.visitCourse connection direction migration state).state)
    (hstart : P state) :
    Q (migrator.courseOf connection direction migrations state).stages ∧
      P (migrator.courseOf connection direction migrations state).state := by
  induction migrations generalizing state with
  | nil => exact ⟨hnil, hstart⟩
  | cons migration rest ih =>
    obtain ⟨hstages, hstate⟩ := hvisit migration List.mem_cons_self state hstart
    cases hresult : (migrator.visitCourse connection direction migration state).result with
    | error error =>
      rw [courseOf_cons_of_error hresult]
      exact ⟨hstages, hstate⟩
    | ok action =>
      rw [courseOf_cons_of_ok hresult]
      obtain ⟨hlater, hend⟩ := ih (fun other h => hvisit other (List.mem_cons_of_mem _ h)) hstate
      exact ⟨happend hstages hlater, hend⟩

/-- Every stage of a course is a part of one of its migrations. -/
theorem eq_stage_of_mem_courseOf :
    ∀ stage ∈ (migrator.courseOf connection direction migrations state).stages,
      stage.migration ∈ migrations ∧
        stage = migrator.stage connection direction stage.migration stage.part stage.before := by
  refine (courseOf_invariant (P := fun _ => True) (Q := fun stages => ∀ stage ∈ stages,
    stage.migration ∈ migrations ∧
      stage = migrator.stage connection direction stage.migration stage.part stage.before)
    (List.forall_mem_nil _) (fun hfirst hsecond => List.forall_mem_append.2 ⟨hfirst, hsecond⟩)
    ?_ trivial).1
  intro migration hmem state _
  refine ⟨?_, trivial⟩
  obtain ⟨-, hvisit⟩ | ⟨-, error, -, hvisit⟩ | ⟨-, -, hvisit⟩ :=
    migrator.visitCourse_cases connection direction migration state <;>
    · rw [hvisit]
      simp [stage, hmem]

end Invariant

end Migrator

/-- The ledger is written directly behind an action of the same migration that returned no error. -/
def EntriesFollowActions (stages : List (Stage σ)) : Prop :=
  ∀ earlier stage later, stages = earlier ++ stage :: later → stage.part = .entry →
    ∃ action, earlier.getLast? = some action ∧ action.part = .action ∧
      action.migration = stage.migration ∧ action.transcript.result = .ok () ∧
      action.transcript.state = stage.before

namespace EntriesFollowActions

theorem of_no_entry {stages : List (Stage σ)} (h : ∀ stage ∈ stages, stage.part ≠ .entry) :
    EntriesFollowActions stages := by
  intro earlier stage later hsplit hentry
  exact absurd hentry (h stage (by simp [hsplit]))

theorem triple {lookup action entry : Stage σ} (hlookup : lookup.part ≠ .entry)
    (hpart : action.part = .action) (hmigration : action.migration = entry.migration)
    (hresult : action.transcript.result = .ok ())
    (hstate : action.transcript.state = entry.before) :
    EntriesFollowActions [lookup, action, entry] := by
  intro earlier stage later hsplit hentry
  match earlier, hsplit with
  | [], hsplit =>
    obtain ⟨rfl, -⟩ := List.cons.inj hsplit
    exact absurd hentry hlookup
  | [_], hsplit =>
    obtain ⟨-, rfl, -⟩ : lookup = _ ∧ action = stage ∧ [entry] = later := by simpa using hsplit
    rw [hpart] at hentry
    cases hentry
  | [_, _], hsplit =>
    obtain ⟨-, rfl, rfl, -⟩ : lookup = _ ∧ action = _ ∧ entry = stage ∧ [] = later := by
      simpa using hsplit
    exact ⟨action, rfl, hpart, hmigration, hresult, hstate⟩
  | _ :: _ :: _ :: _, hsplit => simp at hsplit

theorem append {first second : List (Stage σ)} (hfirst : EntriesFollowActions first)
    (hsecond : EntriesFollowActions second) : EntriesFollowActions (first ++ second) := by
  intro earlier stage later h hentry
  -- the stage is one of the second part, or it is one of the first
  obtain ⟨middle, rfl, hrest⟩ | ⟨middle, rfl, hrest⟩ := List.append_eq_append_iff.1 h
  · obtain ⟨action, hlast, haction⟩ := hsecond middle stage later hrest hentry
    exact ⟨action, by simp [hlast], haction⟩
  · cases middle with
    | nil =>
      -- it would be the very first of the second part, and no entry stands there
      obtain ⟨action, hlast, haction⟩ := hsecond [] stage later hrest.symm hentry
      simp at hlast
    | cons other middle =>
      obtain ⟨rfl, rfl⟩ : stage = other ∧ later = middle ++ second := by simpa using hrest
      exact hfirst earlier stage middle rfl hentry

end EntriesFollowActions

theorem Migrator.courseOf_entriesFollowActions (migrator : Migrator) (connection : Connection σ)
    (direction : Direction) (migrations : List Migration) (state : σ) :
    EntriesFollowActions (migrator.courseOf connection direction migrations state).stages := by
  refine (courseOf_invariant (P := fun _ => True)
    (EntriesFollowActions.of_no_entry (List.forall_mem_nil _)) EntriesFollowActions.append
    ?_ trivial).1
  intro migration _ state _
  refine ⟨?_, trivial⟩
  obtain ⟨-, hvisit⟩ | ⟨-, error, -, hvisit⟩ | ⟨-, haction, hvisit⟩ :=
    migrator.visitCourse_cases connection direction migration state
  · rw [hvisit]
    exact EntriesFollowActions.of_no_entry (by simp [stage])
  · rw [hvisit]
    exact EntriesFollowActions.of_no_entry (by simp [stage])
  · rw [hvisit]
    exact EntriesFollowActions.triple (by simp [stage]) rfl rfl haction rfl

end SchemaLedger
