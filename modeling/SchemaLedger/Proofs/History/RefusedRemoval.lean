import Mathlib.Data.List.Nodup
import SchemaLedger.Exchange.Rehearsal
import SchemaLedger.Proofs.History.RunTrace

/-! # Rows that the ledger refuses to remove

Going down, a run ends with the first migration whose row the ledger refuses to remove. The
migration that made the ledger table may have dropped it, so its row may stay. It is told by its
identity, and every migration of that identity is let off in the same way, whatever its actions do.
-/

namespace SchemaLedger

set_option autoImplicit false

variable {σ : Type} {migrator : Migrator} {connection : Connection σ} {direction : Direction}
  {state final : σ} {visit : Visit σ} {earlier later : List (Visit σ)}

theorem Visits.exists_follows
    (h : Visits migrator connection direction state (earlier ++ visit :: later) final) :
    ∃ before, visit.Follows direction migrator connection before := by
  induction earlier generalizing state with
  | nil =>
    obtain - | ⟨hvisit, -⟩ := h
    exact ⟨state, hvisit⟩
  | cons other earlier ih =>
    obtain - | ⟨-, hrest⟩ := h
    exact ih hrest

namespace Visit

/-- A refused entry is the only failure of its visit, and it is none for the bootstrap identity. -/
theorem Follows.fails_iff (h : visit.Follows .down migrator connection state)
    {entry : Transcript σ (Except Error Unit)} {error : Error} (hentry : visit.entry = some entry)
    (hrefused : entry.result = .error error) {message : String} :
    visit.Fails .down message ↔
      visit.migration.identity ≠ Migration.bootstrapIdentity ∧
        message = Direction.down.refusal ++ error.message := by
  constructor
  · rintro (⟨hrun, hfailed⟩ | ⟨hsent, hfailed, hneeded⟩)
    · obtain ⟨action, haction, hok⟩ := h.enters_iff.1 (by rw [hentry]; rfl)
      obtain rfl := Option.some.inj (haction.symm.trans hrun)
      rw [hok] at hfailed
      cases hfailed
    · obtain rfl := Option.some.inj (hentry.symm.trans hsent)
      obtain rfl := Except.error.inj (hrefused.symm.trans hfailed)
      exact ⟨fun hidentity => hneeded ⟨rfl, hidentity⟩, rfl⟩
  · rintro ⟨hidentity, rfl⟩
    exact .entry hentry hrefused fun h => hidentity h.2

namespace Concludes

variable {migrations : List Migration} {result : Except Error (List Outcome)}

theorem of_fails (h : Concludes direction (earlier ++ visit :: later) migrations result)
    {message : String} (hfails : visit.Fails direction message) :
    later = [] ∧ ∃ message, visit.Fails direction message ∧
      result = .error (.migration visit.migration.name message) := by
  cases result with
  | ok outcomes =>
    obtain ⟨-, -, hnone⟩ := h
    exact absurd hfails (hnone visit (by simp) message)
  | error error =>
    obtain ⟨before, last, reported, hsplit, -, hlast, rfl, hnone⟩ := h
    -- the visits before the last one do not fail, so this one is not among them
    have hnotMem : visit ∉ before := fun hmem => hnone visit hmem message hfails
    obtain rfl | ⟨rest, other, rfl⟩ := List.eq_nil_or_concat later
    · obtain ⟨-, hvisit⟩ := List.append_inj' hsplit rfl
      obtain rfl := List.singleton_inj.1 hvisit
      exact ⟨rfl, reported, hlast, rfl⟩
    · have hvisits : (earlier ++ visit :: rest) ++ [other] = before ++ [last] := by
        simpa using hsplit
      obtain ⟨rfl, -⟩ := List.append_inj' hvisits rfl
      exact absurd (by simp) hnotMem

theorem of_never_fails (h : Concludes direction (earlier ++ [visit]) migrations result)
    (hnever : ∀ message, ¬ visit.Fails direction message) :
    (earlier ++ [visit]).map Visit.migration = migrations ∧
      result = .ok ((earlier ++ [visit]).map (Visit.outcome direction)) := by
  cases result with
  | ok outcomes =>
    obtain ⟨hvisited, rfl, -⟩ := h
    exact ⟨hvisited, rfl⟩
  | error error =>
    obtain ⟨before, last, message, hsplit, -, hfails, -, -⟩ := h
    obtain ⟨-, hvisit⟩ := List.append_inj' hsplit rfl
    obtain rfl := List.singleton_inj.1 hvisit
    exact absurd hfails (hnever message)

theorem visited_prefix {visits : List (Visit σ)}
    (h : Concludes direction visits migrations result) :
    visits.map Visit.migration <+: migrations := by
  cases result with
  | ok outcomes => exact h.1 ▸ List.prefix_rfl
  | error error =>
    obtain ⟨-, -, -, -, hvisited, -⟩ := h
    exact hvisited

end Concludes

end Visit

namespace Migrator

/-- Over any connection, a run down ends with the first refused removal of a row, and with the error
that names its migration, exactly when the migration is not of the bootstrap identity. A migration
of that identity counts as rolled back although its row stays: what is left to visit is visited. -/
theorem refused_removal_ends_run_iff (migrator : Migrator) (connection : Connection σ) (state : σ) :
    let run := migrator.down.run connection state
    ∃ visits : List (Visit σ), Visits migrator connection .down state visits run.state ∧
      run.sent = (visits.flatMap Visit.exchanges).map Exchange.sending ∧
      visits.map Visit.migration <+: migrator.ordered .down ∧
      ∀ earlier visit later entry error, visits = earlier ++ visit :: later →
        visit.entry = some entry → entry.result = .error error →
        let name := visit.migration.name
        visit.outcome .down = ⟨name, .rolledBack⟩ ∧
          (later = [] ∧ run.result =
              .error (.migration name ("could not remove from ledger: " ++ error.message)) ↔
            visit.migration.identity ≠ Migration.bootstrapIdentity) ∧
          (visit.migration.identity = Migration.bootstrapIdentity → later = [] →
            visits.map Visit.migration = migrator.ordered .down ∧
              run.result = .ok ⟨.down, visits.map (Visit.outcome .down)⟩) := by
  intro run
  obtain ⟨visits, hvisits, hexchanges, hconcludes⟩ :=
    migrator.exists_visits connection .down (migrator.ordered .down) state
  have hstate : run.state = (migrator.course connection .down state).state :=
    migrator.state_run connection .down state
  have hresult : run.result = (migrator.course connection .down state).result.map
      (Report.mk .down) := migrator.result_run connection .down state
  have hsent : run.sent = (migrator.course connection .down state).exchanges.map
      Exchange.sending := migrator.sent_run connection .down state
  change Visit.Concludes .down visits _ (migrator.course connection .down state).result
    at hconcludes
  refine ⟨visits, hstate ▸ hvisits, ?_, hconcludes.visited_prefix, ?_⟩
  · rw [hsent, ← hexchanges]
    rfl
  rintro earlier visit later entry error rfl hentry hrefused
  obtain ⟨before, hfollows⟩ := hvisits.exists_follows
  have hfails := @Visit.Follows.fails_iff _ _ _ _ _ hfollows _ _ hentry hrefused
  obtain ⟨action, hacted, -⟩ := hfollows.enters_iff.1 (by rw [hentry]; rfl)
  have haction : visit.action = some action := hacted
  -- without a failure the run reports, and a report is no error
  have hkept : visit.migration.identity = Migration.bootstrapIdentity → later = [] →
      (earlier ++ visit :: later).map Visit.migration = migrator.ordered .down ∧
        run.result = .ok ⟨.down, (earlier ++ visit :: later).map (Visit.outcome .down)⟩ := by
    rintro hidentity rfl
    obtain ⟨hvisited, hok⟩ := hconcludes.of_never_fails fun message hfailed =>
      (hfails.1 hfailed).1 hidentity
    rw [hresult, hok]
    exact ⟨hvisited, rfl⟩
  refine ⟨?_, ⟨?_, fun hidentity => ?_⟩, hkept⟩
  · simp [Visit.outcome, haction, Direction.action]
  · rintro ⟨hlast, herror⟩ hidentity
    obtain ⟨-, hok⟩ := hkept hidentity hlast
    rw [hok] at herror
    cases herror
  · obtain ⟨hlast, message, hfailed, herror⟩ := hconcludes.of_fails (hfails.2 ⟨hidentity, rfl⟩)
    obtain ⟨-, rfl⟩ := hfails.1 hfailed
    rw [hresult, herror]
    exact ⟨hlast, rfl⟩

/-- A migration of the caller that has the bootstrap identity and drops another table: the ledger
keeps its row, and the run reports that it was rolled back. -/
theorem refused_row_stays :
    let reports : Migration :=
      { identity := "create_migrations_table"
        down := fun context => context.schema.drop "reports" }
    let users : Migration :=
      { identity := "create users", down := fun context => context.schema.drop "users" }
    let migrator := ofMigrations "" { bootstrapLedger := false } [users, reports]
    let store : LedgerStore := ⟨migrator.ledgerTable, true, ["create-migrations-table"]⟩
    let removal := (LedgerStatement.delete reports.name).text migrator.ledgerTable
    let start : Rehearsal := { recorder := ({} : Recorder).refuse "DELETE FROM", ledger := some store }
    let run := migrator.down.run (Rehearsal.connection "") start
    start.recorder.refuses removal ∧
      run.sent = [(.query, (LedgerStatement.select reports.name).text migrator.ledgerTable),
        (.execute, "DROP TABLE `reports`"), (.execute, removal),
        (.query, (LedgerStatement.select users.name).text migrator.ledgerTable)] ∧
      run.result = .ok ⟨.down, [⟨reports.name, .rolledBack⟩, ⟨users.name, .skipped⟩]⟩ ∧
      run.state.ledger.map (·.names) = some [reports.name] := by
  decide +kernel

end Migrator

end SchemaLedger
