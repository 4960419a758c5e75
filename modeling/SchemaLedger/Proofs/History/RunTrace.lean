import SchemaLedger.Proofs.History.LedgerView

/-! # What a run sends, visit by visit

A run is a chain of visits over any connection whatsoever, whatever it answers and whatever it
refuses. A visit looks its migration up, and what the connection answers decides what else it sends.
The first visit that fails is the last one.
-/

namespace SchemaLedger

set_option autoImplicit false

variable {σ : Type}

def Connection.ask (connection : Connection σ) (statement : String) (state : σ) :
    Transcript σ (Except Error (List Row)) :=
  ⟨(connection.query statement state).1, (connection.query statement state).2,
    [⟨state, .query, statement⟩]⟩

def Direction.refusal : Direction → String
  | up => "could not record in ledger: "
  | down => "could not remove from ledger: "

structure Visit (σ : Type) where
  migration : Migration
  lookup : Transcript σ (Except Error (List Row))
  action : Option (Transcript σ (Except Error Unit)) := none
  entry : Option (Transcript σ (Except Error Unit)) := none

namespace Visit

variable (direction : Direction) (visit : Visit σ)

def exchanges : List (Exchange σ) :=
  visit.lookup.exchanges ++ visit.action.elim [] (·.exchanges) ++
    visit.entry.elim [] (·.exchanges)

def after : σ :=
  (visit.entry.or visit.action).elim visit.lookup.state (·.state)

def FindsRow : Prop :=
  ∃ rows, visit.lookup.result = .ok rows ∧ rows ≠ []

def outcome : Outcome :=
  ⟨visit.migration.name, if visit.action.isSome then direction.action else .skipped⟩

/-- The visit ends the run with this message. Going down, the bootstrap migration may have dropped
the table from which its row was to be removed, and its entry is not asked for. -/
inductive Fails : String → Prop
  | action {action : Transcript σ (Except Error Unit)} {error : Error}
      (run : visit.action = some action) (failed : action.result = .error error) :
      Fails error.message
  | entry {entry : Transcript σ (Except Error Unit)} {error : Error}
      (sent : visit.entry = some entry) (refused : entry.result = .error error)
      (needed : ¬ (direction = .down ∧ visit.migration.identity = Migration.bootstrapIdentity)) :
      Fails (direction.refusal ++ error.message)

/-- The visit does what a run does for its migration, from this state on. -/
structure Follows (migrator : Migrator) (connection : Connection σ) (state : σ) : Prop where
  lookup : visit.lookup =
    connection.ask ((LedgerStatement.select visit.migration.name).text migrator.ledgerTable) state
  acts_iff : visit.action.isSome ↔
    (direction = .up ∧ ¬ visit.FindsRow) ∨ (direction = .down ∧ visit.FindsRow)
  action : ∀ action ∈ visit.action, action =
    (visit.migration.act ⟨direction, migrator.grammar⟩).transcript connection visit.lookup.state
  enters_iff : visit.entry.isSome ↔ ∃ action ∈ visit.action, action.result = .ok ()
  entry : ∀ action ∈ visit.action, ∀ entry ∈ visit.entry, entry =
    connection.carry ((direction.entry visit.migration.name).text migrator.ledgerTable) action.state

end Visit

/-- Visits that follow each other, each from the state in which the one before left the
connection. -/
inductive Visits (migrator : Migrator) (connection : Connection σ) (direction : Direction) :
    σ → List (Visit σ) → σ → Prop
  | nil (state : σ) : Visits migrator connection direction state [] state
  | cons {state final : σ} {visit : Visit σ} {later : List (Visit σ)}
      (first : visit.Follows direction migrator connection state)
      (rest : Visits migrator connection direction visit.after later final) :
      Visits migrator connection direction state (visit :: later) final

/-- How visits end a run over these migrations: all are visited and none fails, or the last visit
fails. -/
def Visit.Concludes (direction : Direction) (visits : List (Visit σ)) (migrations : List Migration) :
    Except Error (List Outcome) → Prop
  | .ok outcomes =>
      visits.map Visit.migration = migrations ∧ outcomes = visits.map (Visit.outcome direction) ∧
        ∀ visit ∈ visits, ∀ message, ¬ visit.Fails direction message
  | .error error =>
      ∃ earlier last message, visits = earlier ++ [last] ∧
        visits.map Visit.migration <+: migrations ∧ last.Fails direction message ∧
        error = .migration last.migration.name message ∧
        ∀ visit ∈ earlier, ∀ message, ¬ visit.Fails direction message

namespace Visit.Concludes

variable {direction : Direction} {visit : Visit σ} {later : List (Visit σ)}
  {migrations : List Migration}

theorem singleton_ok {action : Action} (haction : visit.outcome direction =
      ⟨visit.migration.name, action⟩)
    (hnever : ∀ message, ¬ visit.Fails direction message) :
    Concludes direction [visit] [visit.migration] (.ok [⟨visit.migration.name, action⟩]) :=
  ⟨rfl, by rw [← haction]; rfl, List.forall_mem_singleton.2 hnever⟩

theorem singleton_error {message : String} (hfails : visit.Fails direction message) :
    Concludes direction [visit] [visit.migration] (.error (.migration visit.migration.name message)) :=
  ⟨[], visit, message, rfl, List.prefix_rfl, hfails, rfl, List.forall_mem_nil _⟩

theorem mono {error : Error} {others : List Migration} (hothers : migrations <+: others)
    (h : Concludes direction later migrations (.error error)) :
    Concludes direction later others (.error error) := by
  obtain ⟨earlier, last, message, hsplit, hvisited, hrest⟩ := h
  exact ⟨earlier, last, message, hsplit, hvisited.trans hothers, hrest⟩

theorem cons {outcomes : List Outcome} {migration : Migration}
    {result : Except Error (List Outcome)}
    (hvisit : Concludes direction [visit] [migration] (.ok outcomes))
    (hlater : Concludes direction later migrations result) :
    Concludes direction (visit :: later) (migration :: migrations) (result.map (outcomes ++ ·)) := by
  obtain ⟨hmigration, rfl, hnever⟩ := hvisit
  obtain rfl : visit.migration = migration := List.singleton_inj.1 hmigration
  have hnever := List.forall_mem_singleton.1 hnever
  cases result with
  | ok reported =>
    obtain ⟨rfl, rfl, hnone⟩ := hlater
    exact ⟨rfl, rfl, List.forall_mem_cons.2 ⟨hnever, hnone⟩⟩
  | error error =>
    obtain ⟨earlier, last, message, rfl, hvisited, hfails, rfl, hnone⟩ := hlater
    exact ⟨visit :: earlier, last, message, rfl, List.cons_prefix_cons.2 ⟨rfl, hvisited⟩, hfails,
      rfl, List.forall_mem_cons.2 ⟨hnever, hnone⟩⟩

theorem settle {action entry : Transcript σ (Except Error Unit)}
    (haction : visit.action = some action) (hok : action.result = .ok ())
    (hentry : visit.entry = some entry) :
    Concludes direction [visit] [visit.migration]
      ((Migrator.settle direction visit.migration entry.result).map
        fun action => [⟨visit.migration.name, action⟩]) := by
  have hacted : visit.outcome direction = ⟨visit.migration.name, direction.action⟩ := by
    simp [Visit.outcome, haction]
  have hrefused : ∀ message, visit.Fails direction message → (∃ error, entry.result = .error error) ∧
      ¬ (direction = .down ∧ visit.migration.identity = Migration.bootstrapIdentity) := by
    rintro message (⟨hrun, hfailed⟩ | ⟨hsent, hfailed, hneeded⟩)
    · obtain rfl := Option.some.inj (haction.symm.trans hrun)
      rw [hok] at hfailed
      cases hfailed
    · obtain rfl := Option.some.inj (hentry.symm.trans hsent)
      exact ⟨⟨_, hfailed⟩, hneeded⟩
  cases hresult : entry.result with
  | ok _ =>
    refine singleton_ok hacted fun message hfails => ?_
    obtain ⟨⟨error, hfailed⟩, -⟩ := hrefused message hfails
    rw [hresult] at hfailed
    cases hfailed
  | error error =>
    cases direction with
    | up => exact singleton_error (.entry hentry hresult nofun)
    | down =>
      by_cases hbootstrap : visit.migration.identity = Migration.bootstrapIdentity
      · simp only [Migrator.settle, if_pos hbootstrap]
        exact singleton_ok hacted fun message hfails =>
          (hrefused message hfails).2 ⟨rfl, hbootstrap⟩
      · simp only [Migrator.settle, if_neg hbootstrap]
        exact singleton_error (.entry hentry hresult fun h => hbootstrap h.2)

end Visit.Concludes

structure Visit.Traces (direction : Direction) (visit : Visit σ) (migrator : Migrator)
    (connection : Connection σ) (state : σ) (course : Course σ Action) : Prop where
  follows : visit.Follows direction migrator connection state
  exchanges : visit.exchanges = course.exchanges
  after : visit.after = course.state
  concludes : Visit.Concludes direction [visit] [visit.migration]
    (course.result.map fun action => [⟨visit.migration.name, action⟩])

namespace Migrator

variable (migrator : Migrator) (connection : Connection σ) (direction : Direction)
  (migration : Migration) (state : σ)

def looking : Visit σ where
  migration
  lookup := connection.ask ((LedgerStatement.select migration.name).text migrator.ledgerTable) state

def acting : Visit σ :=
  let looking := migrator.looking connection migration state
  { looking with
    action := some (migrator.stage connection direction migration .action
      looking.lookup.state).transcript }

def entering : Visit σ :=
  let acting := migrator.acting connection direction migration state
  { acting with
    entry := some (migrator.stage connection direction migration .entry acting.after).transcript }

theorem exchanges_looking :
    (migrator.stage connection direction migration .lookup state).transcript.exchanges =
      (migrator.looking connection migration state).lookup.exchanges :=
  exchanges_lookup connection migrator direction migration state

theorem state_looking :
    (migrator.stage connection direction migration .lookup state).transcript.state =
      (migrator.looking connection migration state).lookup.state :=
  state_lookup connection migrator direction migration state

theorem found_eq_source_iff_finds :
    let visit := migrator.looking connection migration state
    migrator.found connection migration state = direction.source ↔
      (direction = .up ∧ ¬ visit.FindsRow) ∨ (direction = .down ∧ visit.FindsRow) := by
  intro visit
  have hfound : migrator.found connection migration state = .applied ↔ visit.FindsRow :=
    found_eq_applied_iff_rows connection migrator migration state
  rw [← hfound]
  cases direction <;> cases migrator.found connection migration state <;>
    simp [Direction.source]

variable {migrator connection direction migration state}

theorem traces_looking
    (hfound : migrator.found connection migration state ≠ direction.source) :
    (migrator.looking connection migration state).Traces direction migrator connection state
      (migrator.visitCourse connection direction migration state) := by
  have hfinds := mt (migrator.found_eq_source_iff_finds connection direction migration state).2
    hfound
  rw [visitCourse_of_found_ne hfound]
  refine ⟨⟨rfl, ?_, nofun, ?_, nofun⟩, ?_, ?_, ?_⟩
  · exact ⟨nofun, fun h => absurd h hfinds⟩
  · exact ⟨nofun, by rintro ⟨action, haction, -⟩; cases haction⟩
  · simp [Course.exchanges, exchanges_looking, Visit.exchanges, looking]
  · exact (migrator.state_looking connection direction migration state).symm
  · refine Visit.Concludes.singleton_ok rfl ?_
    rintro message (⟨hrun, -⟩ | ⟨hsent, -, -⟩)
    · cases hrun
    · cases hsent

theorem traces_acting {error : Error}
    (hfound : migrator.found connection migration state = direction.source)
    (hfailed : (migrator.stage connection direction migration .action
      (migrator.looking connection migration state).lookup.state).transcript.result =
        .error error) :
    (migrator.acting connection direction migration state).Traces direction migrator connection
      state (migrator.visitCourse connection direction migration state) := by
  have hfinds := (migrator.found_eq_source_iff_finds connection direction migration state).1 hfound
  rw [← migrator.state_looking connection direction] at hfailed
  rw [visitCourse_of_error hfound hfailed]
  rw [state_looking] at hfailed ⊢
  refine ⟨⟨rfl, ?_, ?_, ?_, nofun⟩, ?_, rfl, ?_⟩
  · exact ⟨fun _ => hfinds, fun _ => rfl⟩
  · rintro action ⟨⟩
    rfl
  · refine ⟨nofun, ?_⟩
    rintro ⟨action, ⟨⟩, hok⟩
    rw [hfailed] at hok
    cases hok
  · simp [Course.exchanges, exchanges_looking, Visit.exchanges, acting, looking]
  · exact Visit.Concludes.singleton_error (.action rfl hfailed)

theorem traces_entering
    (hfound : migrator.found connection migration state = direction.source)
    (hok : (migrator.stage connection direction migration .action
      (migrator.looking connection migration state).lookup.state).transcript.result = .ok ()) :
    (migrator.entering connection direction migration state).Traces direction migrator connection
      state (migrator.visitCourse connection direction migration state) := by
  have hfinds := (migrator.found_eq_source_iff_finds connection direction migration state).1 hfound
  rw [← migrator.state_looking connection direction] at hok
  rw [visitCourse_of_ok hfound hok]
  rw [state_looking] at hok ⊢
  refine ⟨⟨rfl, ?_, ?_, ?_, ?_⟩, ?_, rfl, ?_⟩
  · exact ⟨fun _ => hfinds, fun _ => rfl⟩
  · rintro action ⟨⟩
    rfl
  · exact ⟨fun _ => ⟨_, rfl, hok⟩, fun _ => rfl⟩
  · rintro action ⟨⟩ entry ⟨⟩
    exact transcript_entry connection migrator direction migration _
  · simp [Course.exchanges, exchanges_looking, Visit.exchanges, entering, acting, looking,
      Visit.after]
  · exact Visit.Concludes.settle rfl hok rfl

theorem exists_visit (migrator : Migrator) (connection : Connection σ) (direction : Direction)
    (migration : Migration) (state : σ) :
    ∃ visit : Visit σ, visit.migration = migration ∧ visit.Traces direction migrator connection
      state (migrator.visitCourse connection direction migration state) := by
  by_cases hfound : migrator.found connection migration state = direction.source
  · cases hresult : (migrator.stage connection direction migration .action
      (migrator.looking connection migration state).lookup.state).transcript.result with
    | error error => exact ⟨_, rfl, traces_acting hfound hresult⟩
    | ok _ => exact ⟨_, rfl, traces_entering hfound hresult⟩
  · exact ⟨_, rfl, traces_looking hfound⟩

theorem exists_visits (migrator : Migrator) (connection : Connection σ) (direction : Direction)
    (migrations : List Migration) (state : σ) :
    let course := migrator.courseOf connection direction migrations state
    ∃ visits : List (Visit σ), Visits migrator connection direction state visits course.state ∧
      course.exchanges = visits.flatMap Visit.exchanges ∧
      Visit.Concludes direction visits migrations course.result := by
  -- what is left to visit starts in the state in which the visit before it ended
  induction migrations generalizing state with
  | nil => exact ⟨[], .nil state, rfl, rfl, rfl, List.forall_mem_nil _⟩
  | cons migration rest ih =>
    obtain ⟨visit, rfl, hvisit⟩ := migrator.exists_visit connection direction migration state
    have hconcludes := hvisit.concludes
    cases hresult : (migrator.visitCourse connection direction visit.migration state).result with
    | error error =>
      rw [courseOf_cons_of_error hresult]
      rw [hresult] at hconcludes
      refine ⟨[visit], ?_, ?_, hconcludes.mono (List.prefix_append _ _)⟩
      · exact .cons hvisit.follows (hvisit.after ▸ .nil visit.after)
      · simpa [Course.exchanges] using hvisit.exchanges.symm
    | ok action =>
      rw [courseOf_cons_of_ok hresult]
      rw [hresult] at hconcludes
      obtain ⟨later, hvisits, hexchanges, hlater⟩ := ih visit.after
      rw [hvisit.after] at hvisits hexchanges hlater
      refine ⟨visit :: later, .cons hvisit.follows ?_, ?_, hconcludes.cons hlater⟩
      · rwa [hvisit.after]
      · simp only [Course.exchanges] at hexchanges
        simp [Course.exchanges, hexchanges, hvisit.exchanges]

/-- Over any connection a run is a chain of visits in order: it sends what they send, and its result
is theirs. -/
theorem run_trace (migrator : Migrator) (connection : Connection σ) (direction : Direction)
    (state : σ) :
    let run := (migrator.run direction).run connection state
    ∃ visits : List (Visit σ), Visits migrator connection direction state visits run.state ∧
      run.sent = (visits.flatMap Visit.exchanges).map Exchange.sending ∧
      match run.result with
      | .ok report =>
          visits.map Visit.migration = migrator.ordered direction ∧
            report = ⟨direction, visits.map (Visit.outcome direction)⟩ ∧
            ∀ visit ∈ visits, ∀ message, ¬ visit.Fails direction message
      | .error error =>
          ∃ earlier last message, visits = earlier ++ [last] ∧
            visits.map Visit.migration <+: migrator.ordered direction ∧
            last.Fails direction message ∧ error = .migration last.migration.name message ∧
            ∀ visit ∈ earlier, ∀ message, ¬ visit.Fails direction message := by
  intro run
  obtain ⟨visits, hvisits, hexchanges, hconcludes⟩ :=
    migrator.exists_visits connection direction (migrator.ordered direction) state
  have hstate : run.state = (migrator.course connection direction state).state :=
    migrator.state_run connection direction state
  have hresult : run.result = (migrator.course connection direction state).result.map
      (Report.mk direction) := migrator.result_run connection direction state
  refine ⟨visits, hstate ▸ hvisits, ?_, ?_⟩
  · rw [migrator.sent_run connection direction state, ← hexchanges]
    rfl
  · change Visit.Concludes direction visits _ (migrator.course connection direction state).result
      at hconcludes
    rw [hresult]
    cases hcourse : (migrator.course connection direction state).result with
    | ok outcomes =>
      rw [hcourse] at hconcludes
      obtain ⟨hvisited, rfl, hnone⟩ := hconcludes
      exact ⟨hvisited, rfl, hnone⟩
    | error error =>
      rw [hcourse] at hconcludes
      exact hconcludes

end Migrator

end SchemaLedger
