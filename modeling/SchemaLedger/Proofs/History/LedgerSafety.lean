import Mathlib.Data.List.Nodup
import SchemaLedger.Proofs.History.KeptLedger

/-! # Safety of the ledger

Whatever statements and actions fail, and however often migrations are run up and down: each name
has at most one row, a row is only written directly behind the successful action of a migration of
that name, while there is none, and it is only removed directly behind a successful reverse action.
-/

namespace SchemaLedger

set_option autoImplicit false

variable {σ : Type} {connection : Connection σ}

namespace Migrator

variable {migrator : Migrator} {view : LedgerView connection migrator.ledgerTable}
  {direction : Direction} {migration : Migration} {state : σ}

theorem Tame.nodup_action (h : Tame direction view migration) (hnodup : (view.names state).Nodup) :
    (view.names
      (migrator.stage connection direction migration .action state).transcript.state).Nodup := by
  obtain hsame | hperforms := h.action_cases
  · rwa [LedgerView.names_congr hsame]
  · cases direction with
    | up => rwa [LedgerView.names_of_rows (LedgerStatement.performs_create.1 hperforms)]
    | down =>
      rw [LedgerView.names_of_absent (LedgerStatement.performs_drop.1 hperforms)]
      exact List.nodup_nil

theorem nodup_entry (hnodup : (view.names state).Nodup)
    (hfresh : direction = .up → migration.name ∉ view.names state) :
    (view.names
      (migrator.stage connection direction migration .entry state).transcript.state).Nodup := by
  rw [transcript_entry]
  obtain ⟨-, hperforms⟩ | ⟨error, -, hsame⟩ :=
    Connection.carry_cases view _ (direction.channel_entry migration.name) state
  · cases direction with
    | up =>
      obtain ⟨names, hrows, hafter⟩ := LedgerStatement.performs_insert.1 hperforms
      rw [LedgerView.names_of_rows hrows] at hnodup hfresh
      rw [LedgerView.names_of_rows hafter]
      exact List.concat_eq_append ▸ hnodup.concat (hfresh rfl)
    | down =>
      obtain ⟨names, hrows, hafter⟩ := LedgerStatement.performs_delete.1 hperforms
      rw [LedgerView.names_of_rows hrows] at hnodup
      rw [LedgerView.names_of_rows hafter]
      exact hnodup.filter _
  · rwa [LedgerView.names_congr hsame]

variable (view direction) in
/-- No name has two rows when the stage starts, and a row is only about to be written when there is
none of that name. -/
def StageSafe (stage : Stage σ) : Prop :=
  (view.names stage.before).Nodup ∧
    (stage.part = .entry → direction = .up → stage.migration.name ∉ view.names stage.before)

theorem Tame.visit_safe (h : Tame direction view migration) (hlookups : view.AnswersLookups)
    (hnodup : (view.names state).Nodup) :
    (∀ stage ∈ (migrator.visitCourse connection direction migration state).stages,
      StageSafe view direction stage) ∧
      (view.names (migrator.visitCourse connection direction migration state).state).Nodup := by
  have hlookup : StageSafe view direction
      (migrator.stage connection direction migration .lookup state) :=
    ⟨hnodup, fun h => by cases h⟩
  have hsame : view.names (migrator.stage connection direction migration .lookup
      state).transcript.state = view.names state := LedgerView.names_congr (rows_lookup direction)
  rw [← hsame] at hnodup
  have haction : StageSafe view direction (migrator.stage connection direction migration
      .action (migrator.stage connection direction migration .lookup state).transcript.state) :=
    ⟨hnodup, fun h => by cases h⟩
  have hafter := h.nodup_action hnodup
  obtain ⟨-, hvisit⟩ | ⟨-, error, -, hvisit⟩ | ⟨hfound, -, hvisit⟩ :=
    migrator.visitCourse_cases connection direction migration state
  · rw [hvisit]
    exact ⟨List.forall_mem_singleton.2 hlookup, hnodup⟩
  · rw [hvisit]
    exact ⟨List.forall_mem_cons.2 ⟨hlookup, List.forall_mem_singleton.2 haction⟩, hafter⟩
  · -- going up, neither the look-up nor the action has added the row that the look-up missed
    have hfresh : direction = .up → migration.name ∉ view.names (migrator.stage connection direction
        migration .action (migrator.stage connection direction migration .lookup
          state).transcript.state).transcript.state := by
      rintro rfl
      rw [Tame.names_action_up h, hsame]
      exact (found_eq_pending_iff hlookups).1 hfound
    rw [hvisit]
    exact ⟨List.forall_mem_cons.2 ⟨hlookup, List.forall_mem_cons.2 ⟨haction,
      List.forall_mem_singleton.2 ⟨hafter, fun _ => hfresh⟩⟩⟩, nodup_entry hafter hfresh⟩

theorem courseOf_safe {migrations : List Migration} (hlookups : view.AnswersLookups)
    (htame : ∀ migration ∈ migrations, Tame direction view migration)
    (hnodup : (view.names state).Nodup) :
    (∀ stage ∈ (migrator.courseOf connection direction migrations state).stages,
      StageSafe view direction stage) ∧
      (view.names (migrator.courseOf connection direction migrations state).state).Nodup :=
  courseOf_invariant (P := fun state => (view.names state).Nodup)
    (Q := fun stages => ∀ stage ∈ stages, StageSafe view direction stage)
    (List.forall_mem_nil _) (fun hfirst hsecond => List.forall_mem_append.2 ⟨hfirst, hsecond⟩)
    (fun migration hmem _ => (htame migration hmem).visit_safe hlookups) hnodup

theorem mem_ordered : migration ∈ migrator.ordered direction ↔ migration ∈ migrator.migrations := by
  cases direction with
  | up => rfl
  | down => exact List.mem_reverse

theorem nodup_stateAfter (hlookups : view.AnswersLookups)
    (htame : ∀ direction, ∀ migration ∈ migrator.migrations, Tame direction view migration)
    (hnodup : (view.names state).Nodup) (directions : List Direction) :
    (view.names (migrator.stateAfter connection directions state)).Nodup := by
  induction directions generalizing state with
  | nil => exact hnodup
  | cons direction rest ih =>
    -- one run keeps the names distinct, since its course does
    apply ih
    change (view.names ((migrator.run direction).run connection state).state).Nodup
    rw [state_run]
    exact (courseOf_safe hlookups (fun migration hmem => htame direction migration
      (mem_ordered.1 hmem)) hnodup).2

variable (migrator connection direction) in
/-- The last of the stages is the action of a registered migration of the name, without an error. -/
def EndsInAction (name : String) (stages : List (Stage σ)) (state : σ) : Prop :=
  ∃ migration ∈ migrator.migrations, ∃ before,
    let action := migrator.stage connection direction migration .action before
    migration.name = name ∧ stages.getLast? = some action ∧
      action.transcript.result = .ok () ∧ action.transcript.state = state

theorem entry_follows_action {earlier later : List (Stage σ)} {stage : Stage σ}
    (hsplit : (migrator.course connection direction state).stages = earlier ++ stage :: later)
    (hentry : stage.part = .entry) :
    migrator.EndsInAction connection direction stage.migration.name earlier stage.before := by
  obtain ⟨action, hlast, hpart, hmigration, hresult, hstate⟩ :=
    migrator.courseOf_entriesFollowActions connection direction _ _ earlier stage later hsplit
      hentry
  have hmem : action ∈ (migrator.course connection direction state).stages := by
    rw [hsplit]
    exact List.mem_append_left _ (List.mem_of_getLast? hlast)
  obtain ⟨hregistered, hstage⟩ := eq_stage_of_mem_courseOf action hmem
  rw [hpart, hmigration] at hstage
  refine ⟨stage.migration, hmigration ▸ mem_ordered.1 hregistered, action.before, rfl, ?_, ?_, ?_⟩
  · rw [hlast, ← hstage]
  · rw [← hstage, hresult]
  · rw [← hstage, hstate]

/-- A statement that writes the row of a name, in a run from any state with distinct names. -/
theorem entry_safe (written : Direction) (hlookups : view.AnswersLookups)
    (htame : ∀ migration ∈ migrator.migrations, Tame direction view migration)
    (hnodup : (view.names state).Nodup) {earlier later : List (Stage σ)} {stage : Stage σ}
    (hsplit : (migrator.course connection direction state).stages = earlier ++ stage :: later)
    {exchange : Exchange σ} (hmem : exchange ∈ stage.transcript.exchanges) {name : String}
    (htext : exchange.statement = (written.entry name).text migrator.ledgerTable) :
    direction = written ∧ (written = .up → name ∉ view.names exchange.before) ∧
      migrator.EndsInAction connection written name earlier exchange.before := by
  have hstages : stage ∈ (migrator.course connection direction state).stages := by
    rw [hsplit]
    exact List.mem_append_right _ List.mem_cons_self
  obtain ⟨hregistered, hstage⟩ := eq_stage_of_mem_courseOf stage hstages
  have hstatement : written.entry name =
      direction.statement stage.migration.name stage.part := by
    rw [hstage] at hmem
    exact (htame _ (mem_ordered.1 hregistered)).statement_eq hmem htext
  obtain ⟨hentry, rfl, rfl⟩ := Direction.entry_eq_statement_iff.1 hstatement
  have hbefore : exchange.before = stage.before := by
    rw [hstage, hentry, transcript_entry, Connection.carry, List.mem_singleton] at hmem
    rw [hmem]
  have hsafe := (courseOf_safe hlookups (fun migration hmem => htame migration (mem_ordered.1 hmem))
    hnodup).1 stage hstages
  rw [hbefore]
  exact ⟨rfl, hsafe.2 hentry, entry_follows_action hsplit hentry⟩

/-- After any series of runs, throughout one more: no name has two rows; a row is only written while
there is none and right behind an action of its name that succeeded, and it is only removed right
behind such an action going down. -/
theorem ledger_safe (hlookups : view.AnswersLookups)
    (htame : ∀ direction, ∀ migration ∈ migrator.migrations, Tame direction view migration)
    (hnodup : (view.names state).Nodup) (directions : List Direction) (direction : Direction) :
    let reached := migrator.stateAfter connection directions state
    let course := migrator.course connection direction reached
    (migrator.run direction).transcript connection reached =
        course.transcript.map (·.map fun outcomes => ⟨direction, outcomes⟩) ∧
      (∀ exchange ∈ course.exchanges, (view.names exchange.before).Nodup) ∧
      (view.names course.state).Nodup ∧
      ∀ earlier stage later, course.stages = earlier ++ stage :: later →
        ∀ exchange ∈ stage.transcript.exchanges, ∀ name,
          (exchange.statement = (LedgerStatement.insert name).text migrator.ledgerTable →
            direction = .up ∧ name ∉ view.names exchange.before ∧
              migrator.EndsInAction connection .up name earlier exchange.before) ∧
          (exchange.statement = (LedgerStatement.delete name).text migrator.ledgerTable →
            direction = .down ∧
              migrator.EndsInAction connection .down name earlier exchange.before) := by
  intro reached course
  have hreached : (view.names reached).Nodup := nodup_stateAfter hlookups htame hnodup directions
  have hordered : ∀ migration ∈ migrator.ordered direction, Tame direction view migration :=
    fun migration hmem => htame direction migration (mem_ordered.1 hmem)
  obtain ⟨hstages, hend⟩ := courseOf_safe hlookups hordered hreached
  refine ⟨migrator.transcript_run connection direction reached, ?_, hend, ?_⟩
  · intro exchange hmem
    obtain ⟨stage, hstage, hexchange⟩ := List.mem_flatMap.1 hmem
    obtain ⟨hregistered, hshape⟩ := eq_stage_of_mem_courseOf stage hstage
    have hsame : view.rows exchange.before = view.rows stage.before := by
      rw [hshape] at hexchange
      exact (hordered _ hregistered).rows_before stage.part exchange hexchange
    rw [LedgerView.names_congr hsame]
    exact (hstages stage hstage).1
  · intro earlier stage later hsplit exchange hmem name
    constructor
    · intro htext
      obtain ⟨hdirection, hfresh, haction⟩ := entry_safe .up hlookups (htame direction)
        hreached hsplit hmem htext
      exact ⟨hdirection, hfresh rfl, haction⟩
    · intro htext
      obtain ⟨hdirection, -, haction⟩ := entry_safe .down hlookups (htame direction)
        hreached hsplit hmem htext
      exact ⟨hdirection, haction⟩

end Migrator

theorem Migrator.nodup_names_waking :
    let migrator := ofMigrations "app_" {}
      [.altering "add age" "users ADD age int" "users DROP age"]
    let connection := Connection.waking.withLedger migrator.ledgerTable
    let reached := migrator.stateAfter connection [.up, .down, .up] (.missing _, false)
    let view := LedgerView.withLedger migrator.ledgerTable .waking
    (view.names (migrator.course connection .down reached).state).Nodup := by
  intro migrator connection reached view
  have hnodup : (view.names (.missing migrator.ledgerTable, false)).Nodup := List.nodup_nil
  have hsafe := ledger_safe (LedgerView.withLedger_reliable _ _).lookups
    (fun direction => tame_ofMigrations (LedgerView.spares_altering migrator.ledgerTable .waking
      ⟨direction, migrator.grammar⟩)) hnodup [.up, .down, .up] .down
  exact hsafe.2.2.1

end SchemaLedger
