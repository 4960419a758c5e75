import Mathlib.Data.List.Nodup
import SchemaLedger.Proofs.History.LedgerView

/-! # Runs over a reliable ledger

When no statement about the ledger table is refused while the table exists, a run acts on the
migrations that its first state calls for, in their order, up to the first action that fails. The
rows change by what was acted on and by nothing else.
-/

namespace SchemaLedger

set_option autoImplicit false

variable {σ : Type} {connection : Connection σ}

instance Course.decidableActionsSucceed {α : Type} (course : Course σ α) :
    Decidable course.ActionsSucceed :=
  inferInstanceAs (Decidable (∀ stage ∈ course.stages, stage.part = .action →
    stage.transcript.result = .ok ()))

namespace Direction

/-- Whether a run acts on a migration of the name when these names have rows. -/
def wants : Direction → List String → String → Bool
  | up, names, name => decide (name ∉ names)
  | down, names, name => decide (name ∈ names)

def wanted (direction : Direction) (names : List String) (migrations : List Migration) :
    List Migration :=
  migrations.filter fun migration => direction.wants names migration.name

/-- What a run that ends well reports of a migration. -/
def outcome (direction : Direction) (names : List String) (migration : Migration) : Outcome :=
  ⟨migration.name, if direction.wants names migration.name then direction.action else .skipped⟩

theorem names_outcomes (direction reported : Direction) (names : List String)
    (migrations : List Migration) :
    (Report.mk reported (migrations.map (direction.outcome names))).names direction.action =
      (direction.wanted names migrations).map (·.name) := by
  have haction : ∀ migration, decide ((direction.outcome names migration).action =
      direction.action) = direction.wants names migration.name := by
    intro migration
    cases h : direction.wants names migration.name <;> cases direction <;> simp [outcome, action, h]
  rw [Report.names, List.filter_map, List.map_map, wanted]
  simp only [Function.comp_def, haction]
  rfl

theorem wanted_append (direction : Direction) (names : List String)
    (first second : List Migration) :
    direction.wanted names (first ++ second) =
      direction.wanted names first ++ direction.wanted names second :=
  List.filter_append ..

theorem mem_wanted_up {names : List String} {migrations : List Migration} {migration : Migration} :
    migration ∈ up.wanted names migrations ↔ migration ∈ migrations ∧ migration.name ∉ names := by
  simp [wanted, wants]

/-- When what was wanted of the first migrations is entered, only the ones behind are wanted. -/
theorem wanted_up_entered {names : List String} {before rest : List Migration}
    (hdistinct : ((before ++ rest).map (·.name)).Nodup) :
    up.wanted (names ++ (up.wanted names before).map (·.name)) (before ++ rest) =
      up.wanted names rest := by
  rw [List.map_append, List.nodup_append'] at hdistinct
  have hbefore : up.wanted (names ++ (up.wanted names before).map (·.name)) before = [] := by
    refine List.eq_nil_iff_forall_not_mem.2 fun migration hmem => ?_
    obtain ⟨hmem, hother⟩ := mem_wanted_up.1 hmem
    obtain ⟨hnames, hentered⟩ := not_or.1 (List.mem_append.not.1 hother)
    exact hentered (List.mem_map_of_mem (mem_wanted_up.2 ⟨hmem, hnames⟩))
  have hrest : up.wanted (names ++ (up.wanted names before).map (·.name)) rest =
      up.wanted names rest := by
    refine List.filter_congr fun migration hmem => decide_eq_decide.2 ?_
    have hother : migration.name ∉ (up.wanted names before).map (·.name) := by
      intro hentered
      obtain ⟨other, hwanted, hname⟩ := List.mem_map.1 hentered
      exact hdistinct.2.2 (List.mem_map_of_mem (mem_wanted_up.1 hwanted).1)
        (hname ▸ List.mem_map_of_mem hmem)
    rw [List.mem_append, or_iff_left hother]
  rw [wanted_append, hbefore, hrest, List.nil_append]

/-- The rows behind the entry of one name. -/
def enter : Direction → Option (List String) → String → Option (List String)
  | up, rows, name => some (rows.getD [] ++ [name])
  | down, rows, name => rows.map fun names => names.filter (· ≠ name)

variable (direction : Direction) {rows : Option (List String)} {names : List String} {name : String}

theorem wants_enter {other : String} (h : name ≠ other) :
    direction.wants ((direction.enter rows other).getD []) name =
      direction.wants (rows.getD []) name := by
  cases direction with
  | up => simp [wants, enter, h]
  | down => cases rows <;> simp [wants, enter, h]

theorem performs_entry {after : Option (List String)}
    (h : (direction.entry name).Performs (some names) after) :
    after = direction.enter (some names) name := by
  cases direction with
  | up =>
    obtain ⟨_, hbefore, rfl⟩ := LedgerStatement.performs_insert.1 h
    rw [← Option.some.inj hbefore]
    rfl
  | down =>
    obtain ⟨_, hbefore, rfl⟩ := LedgerStatement.performs_delete.1 h
    rw [← Option.some.inj hbefore]
    rfl

/-- A run that acts finds the table, or is about to make it. -/
theorem enter_of_wants (h : direction.wants (rows.getD []) name = true) :
    direction.enter (some (rows.getD [])) name = direction.enter rows name := by
  cases rows with
  | some names => rfl
  | none =>
    cases direction with
    | up => rfl
    | down => simp [wants] at h

theorem isSome_enter (h : direction.wants (rows.getD []) name = true) :
    (direction.enter rows name).isSome := by
  rw [← direction.enter_of_wants h]
  cases direction <;> rfl

theorem isSome_foldl_enter (entered : List String) (h : rows.isSome) :
    (entered.foldl direction.enter rows).isSome := by
  induction entered generalizing rows with
  | nil => exact h
  | cons name rest ih =>
    apply ih
    cases direction with
    | up => rfl
    | down => simpa [enter] using h

theorem wants_foldl_enter {entered : List String} (h : name ∉ entered) :
    direction.wants ((entered.foldl direction.enter rows).getD []) name =
      direction.wants (rows.getD []) name := by
  induction entered generalizing rows with
  | nil => rfl
  | cons other rest ih =>
    exact (ih (List.not_mem_of_not_mem_cons h)).trans
      (direction.wants_enter (List.ne_of_not_mem_cons h))

theorem foldl_enter_up (rows : Option (List String)) (entered : List String) :
    entered.foldl up.enter rows =
      if entered = [] then rows else some (rows.getD [] ++ entered) := by
  induction entered generalizing rows with
  | nil => rfl
  | cons name rest ih =>
    rw [List.foldl_cons, ih]
    cases rest <;> simp [enter]

theorem foldl_enter_up_some (entered : List String) :
    entered.foldl up.enter (some names) = some (names ++ entered) := by
  rw [foldl_enter_up]
  split
  · next hnone => rw [hnone, List.append_nil]
  · rfl

theorem foldl_enter_down (entered : List String) :
    entered.foldl down.enter (some names) = some (names.filter (· ∉ entered)) := by
  induction entered generalizing names with
  | nil => simp
  | cons name rest ih => simp [enter, ih, List.filter_filter, Bool.and_comm]

end Direction

namespace Migrator

variable {migrator : Migrator} (view : LedgerView connection migrator.ledgerTable)
  (direction : Direction) {migration : Migration} {migrations : List Migration} {state : σ}

/-- The action leaves the rows alone; where there is no table, an action that succeeds makes one. -/
def Keeps (migration : Migration) (state : σ) : Prop :=
  let action := migrator.stage connection direction migration .action state
  (action.transcript.result = .ok () →
    view.rows action.transcript.state = some (view.names state)) ∧
  ∀ error, action.transcript.result = .error error →
    view.rows action.transcript.state = view.rows state

variable {view direction}

theorem keeps_of_spares (h : view.Spares (migration.act ⟨direction, migrator.grammar⟩))
    (hpresent : (view.rows state).isSome) : Keeps view direction migration state := by
  have hrows : view.rows (migrator.stage connection direction migration .action
      state).transcript.state = view.rows state := (h.rows_eq state).2
  obtain ⟨names, hnames⟩ := Option.isSome_iff_exists.1 hpresent
  refine ⟨fun _ => ?_, fun _ _ => hrows⟩
  rw [hrows, hnames, LedgerView.names_of_rows hnames]

theorem keeps_bootstrap :
    Keeps view .up (.bootstrap migrator.config.ledgerTable) state := by
  have htranscript := transcript_bootstrap connection migrator .up state
  obtain ⟨hok, hperforms⟩ | ⟨error, herror, hsame⟩ :=
    Connection.carry_cases view _ Direction.up.channel_bootstrapping state
  · refine ⟨fun _ => ?_, fun error herror => ?_⟩
    · rw [htranscript]
      exact LedgerStatement.performs_create.1 hperforms
    · rw [htranscript, hok] at herror
      cases herror
  · refine ⟨fun hok => ?_, fun _ _ => ?_⟩
    · rw [htranscript, herror] at hok
      cases hok
    · rw [htranscript]
      exact hsame

theorem Tame.keeps_up (h : Tame .up view migration) (hpresent : (view.rows state).isSome) :
    Keeps view .up migration state := by
  obtain rfl | hspares := h
  · exact keeps_bootstrap
  · exact keeps_of_spares hspares hpresent

theorem found_eq_source_iff (hlookups : view.AnswersLookups) :
    migrator.found connection migration state = direction.source ↔
      direction.wants (view.names state) migration.name = true := by
  cases direction with
  | up => exact (found_eq_pending_iff hlookups).trans (decide_eq_true_iff).symm
  | down => exact (found_eq_applied_iff hlookups).trans (decide_eq_true_iff).symm

theorem entry_ok (direction : Direction) (migration : Migration) (hreliable : view.Reliable)
    (hpresent : (view.rows state).isSome) :
    let entry := migrator.stage connection direction migration .entry state
    entry.transcript.result = .ok () ∧
      view.rows entry.transcript.state = direction.enter (view.rows state) migration.name := by
  intro entry
  have hentry : entry.transcript =
      connection.carry ((direction.entry migration.name).text migrator.ledgerTable) state :=
    transcript_entry connection migrator direction migration state
  have hresult : entry.transcript.result = .ok () := by
    rw [hentry, Connection.result_carry]
    exact hreliable.writes _ state (by cases direction <;> simp [Direction.entry])
      (direction.channel_entry _) hpresent
  obtain ⟨-, hperforms⟩ | ⟨error, herror, -⟩ :=
    Connection.carry_cases view _ (direction.channel_entry migration.name) state
  · obtain ⟨names, hnames⟩ := Option.isSome_iff_exists.1 hpresent
    rw [hnames] at hperforms ⊢
    exact ⟨hresult, hentry ▸ direction.performs_entry hperforms⟩
  · rw [hentry, herror] at hresult
    cases hresult

variable (view direction) in
/-- The course over the migrations acts on all that its first state calls for. -/
structure Completes (migrations : List Migration) (state : σ) : Prop where
  actions_succeed : (migrator.courseOf connection direction migrations state).ActionsSucceed
  result : (migrator.courseOf connection direction migrations state).result =
    .ok (migrations.map (direction.outcome (view.names state)))
  calls : (migrator.courseOf connection direction migrations state).calls =
    direction.wanted (view.names state) migrations
  rows : view.rows (migrator.courseOf connection direction migrations state).state =
    ((direction.wanted (view.names state) migrations).map (·.name)).foldl direction.enter
      (view.rows state)

variable (view direction) in
/-- The course acts on what its first state calls for before a migration whose action then fails. -/
structure Halts (before : List Migration) (migration : Migration) (after : List Migration)
    (error : Error) (state : σ) : Prop where
  wanted : direction.wants (view.names state) migration.name = true
  result : (migrator.courseOf connection direction (before ++ migration :: after) state).result =
    .error (failure migration.name "" error)
  calls : (migrator.courseOf connection direction (before ++ migration :: after) state).calls =
    direction.wanted (view.names state) before ++ [migration]
  rows : view.rows
      (migrator.courseOf connection direction (before ++ migration :: after) state).state =
    ((direction.wanted (view.names state) before).map (·.name)).foldl direction.enter
      (view.rows state)
  visited : ∀ stage ∈
      (migrator.courseOf connection direction (before ++ migration :: after) state).stages,
    stage.migration ∈ before ++ [migration]
  failed : ∃ stage ∈
      (migrator.courseOf connection direction (before ++ migration :: after) state).stages,
    stage.part = .action ∧ stage.transcript.result = .error error ∧ view.rows stage.before =
      view.rows (migrator.courseOf connection direction (before ++ migration :: after) state).state
  failing : ∀ stage ∈
      (migrator.courseOf connection direction (before ++ migration :: after) state).stages,
    stage.part = .action → ∀ other, stage.transcript.result = .error other →
      stage.migration = migration ∧ other = error

theorem Halts.not_actionsSucceed {before after : List Migration} {error : Error}
    (h : Halts view direction before migration after error state) :
    ¬ (migrator.courseOf connection direction (before ++ migration :: after)
      state).ActionsSucceed := by
  intro hsucceed
  obtain ⟨stage, hmem, hpart, herror, -⟩ := h.failed
  rw [hsucceed stage hmem hpart] at herror
  cases herror

theorem Completes.nil : Completes view direction [] state :=
  ⟨List.forall_mem_nil _, rfl, rfl, rfl⟩

/-- Names that a completed course has not entered are wanted as before. -/
theorem Completes.wants_eq (h : Completes view direction migrations state) {name : String}
    (hother : name ∉ migrations.map (·.name)) :
    direction.wants
        (view.names (migrator.courseOf connection direction migrations state).state) name =
      direction.wants (view.names state) name := by
  rw [LedgerView.names, h.rows]
  apply direction.wants_foldl_enter
  intro hmem
  obtain ⟨migration, hwanted, rfl⟩ := List.mem_map.1 hmem
  exact hother (List.mem_map_of_mem (List.mem_of_mem_filter hwanted))

theorem Completes.wanted_eq (h : Completes view direction migrations state)
    {others : List Migration}
    (hdisjoint : ∀ other ∈ others, other.name ∉ migrations.map (·.name)) :
    direction.wanted (view.names (migrator.courseOf connection direction migrations state).state)
      others = direction.wanted (view.names state) others :=
  List.filter_congr fun other hmem => h.wants_eq (hdisjoint other hmem)

theorem Completes.append {first second : List Migration}
    (hfirst : Completes view direction first state)
    (hsecond : Completes view direction second
      (migrator.courseOf connection direction first state).state)
    (hdisjoint : ∀ other ∈ second, other.name ∉ first.map (·.name)) :
    Completes view direction (first ++ second) state := by
  have hwanted := hfirst.wanted_eq hdisjoint
  have hcourse := courseOf_append_of_ok second hfirst.result
  refine ⟨?_, ?_, ?_, ?_⟩ <;> rw [hcourse]
  · exact List.forall_mem_append.2 ⟨hfirst.actions_succeed, hsecond.actions_succeed⟩
  · have houtcomes : second.map (direction.outcome (view.names
        (migrator.courseOf connection direction first state).state)) =
        second.map (direction.outcome (view.names state)) :=
      List.map_congr_left fun other hmem => by
        rw [Direction.outcome, Direction.outcome, hfirst.wants_eq (hdisjoint other hmem)]
    rw [hsecond.result, houtcomes, List.map_append]
    rfl
  · rw [Direction.wanted_append, ← hwanted, ← hfirst.calls, ← hsecond.calls]
    simp [Course.calls]
  · rw [Direction.wanted_append, List.map_append, List.foldl_append, ← hfirst.rows, ← hwanted]
    exact hsecond.rows

theorem Completes.halts {first before after : List Migration} {error : Error}
    (hfirst : Completes view direction first state)
    (hsecond : Halts view direction before migration after error
      (migrator.courseOf connection direction first state).state)
    (hdisjoint : ∀ other ∈ before ++ [migration], other.name ∉ first.map (·.name)) :
    Halts view direction (first ++ before) migration after error state := by
  obtain ⟨hbefore, hlast⟩ := List.forall_mem_append.1 hdisjoint
  have hwanted := hfirst.wanted_eq hbefore
  have hcourse := courseOf_append_of_ok (before ++ migration :: after) hfirst.result
  rw [← List.append_assoc] at hcourse
  refine ⟨?_, ?_, ?_, ?_, ?_, ?_, ?_⟩
  · rw [← hfirst.wants_eq (hlast migration (List.mem_singleton.2 rfl))]
    exact hsecond.wanted
  all_goals rw [hcourse]
  · rw [hsecond.result]
    rfl
  · rw [Direction.wanted_append, List.append_assoc, ← hwanted, ← hfirst.calls, ← hsecond.calls]
    simp [Course.calls]
  · rw [Direction.wanted_append, List.map_append, List.foldl_append, ← hfirst.rows, ← hwanted]
    exact hsecond.rows
  · rw [List.append_assoc]
    refine List.forall_mem_append.2 ⟨fun stage hmem => ?_, fun stage hmem => ?_⟩
    · exact List.mem_append_left _ (eq_stage_of_mem_courseOf stage hmem).1
    · exact List.mem_append_right _ (hsecond.visited stage hmem)
  · obtain ⟨stage, hmem, hstage⟩ := hsecond.failed
    exact ⟨stage, List.mem_append_right _ hmem, hstage⟩
  · refine List.forall_mem_append.2 ⟨fun stage hmem hpart other herror => ?_, hsecond.failing⟩
    rw [hfirst.actions_succeed stage hmem hpart] at herror
    cases herror

/-- One visit completes, or it halts and nothing behind it is visited. -/
theorem singleton_completes_or_halts (hreliable : view.Reliable)
    (hkeeps : direction.wants (view.names state) migration.name = true →
      ∀ other, view.rows other = view.rows state → Keeps view direction migration other)
    (after : List Migration) :
    Completes view direction [migration] state ∨
      ∃ error, Halts view direction [] migration after error state := by
  have hlookup : view.rows (migrator.stage connection direction migration .lookup
      state).transcript.state = view.rows state := rows_lookup direction
  obtain ⟨hfound, hvisit⟩ | ⟨hfound, error, haction, hvisit⟩ | ⟨hfound, haction, hvisit⟩ :=
    migrator.visitCourse_cases connection direction migration state
  · left
    have hunwanted : direction.wants (view.names state) migration.name = false :=
      Bool.eq_false_iff.2 fun h => hfound ((found_eq_source_iff hreliable.lookups).2 h)
    have hnone : direction.wanted (view.names state) [migration] = [] := by
      simp [Direction.wanted, hunwanted]
    refine ⟨?_, ?_, ?_, ?_⟩ <;> rw [courseOf_singleton, hvisit]
    · simp [Course.ActionsSucceed, stage]
    · simp [Except.map, Direction.outcome, hunwanted]
    · simp [Course.calls, stage, hnone]
    · rw [hnone]
      exact hlookup
  · right
    have hwanted := (found_eq_source_iff hreliable.lookups).1 hfound
    have hrows := (hkeeps hwanted _ hlookup).2 error haction
    have herror : (migrator.visitCourse connection direction migration state).result =
        .error (failure migration.name "" error) := by
      rw [hvisit]
    refine ⟨error, hwanted, ?_, ?_, ?_, ?_, ?_, ?_⟩ <;>
      rw [List.nil_append, courseOf_cons_of_error herror, hvisit]
    · simp [Course.calls, stage, Direction.wanted]
    · exact hrows.trans hlookup
    · simp [stage]
    · exact ⟨_, List.mem_cons_of_mem _ (List.mem_singleton.2 rfl), rfl, haction, hrows.symm⟩
    · refine List.forall_mem_cons.2 ⟨fun hpart => (by cases hpart), List.forall_mem_singleton.2 ?_⟩
      intro _ other hother
      exact ⟨rfl, Except.error.inj (hother.symm.trans haction)⟩
  · left
    have hwanted := (found_eq_source_iff hreliable.lookups).1 hfound
    have hone : direction.wanted (view.names state) [migration] = [migration] := by
      simp [Direction.wanted, hwanted]
    -- the table exists behind an action that succeeds, so the entry is not refused
    have hrows := (hkeeps hwanted _ hlookup).1 haction
    rw [LedgerView.names_congr hlookup] at hrows
    obtain ⟨hentry, hentered⟩ :=
      entry_ok direction migration hreliable (Option.isSome_of_eq_some hrows)
    rw [hrows, LedgerView.names, direction.enter_of_wants hwanted] at hentered
    refine ⟨?_, ?_, ?_, ?_⟩ <;> rw [courseOf_singleton, hvisit]
    · refine List.forall_mem_cons.2 ⟨fun hpart => (by cases hpart), List.forall_mem_cons.2
        ⟨fun _ => haction, List.forall_mem_singleton.2 fun hpart => (by cases hpart)⟩⟩
    · rw [hentry]
      simp [Except.map, Direction.outcome, hwanted, settle]
    · simp [Course.calls, stage, hone]
    · rw [hone]
      exact hentered

/-- Over migrations with distinct names, a course completes or halts when the actions keep the
table; the first one may have to make it. -/
theorem completes_or_halts (hreliable : view.Reliable) (hdistinct : (migrations.map (·.name)).Nodup)
    (hkeeps : ∀ migration ∈ migrations, ∀ other, (view.rows other).isSome →
      Keeps view direction migration other)
    (hstart : (view.rows state).isSome ∨ ∀ migration ∈ migrations.head?,
      direction.wants (view.names state) migration.name = true ∧
        ∀ other, Keeps view direction migration other) :
    Completes view direction migrations state ∨ ∃ before migration after error,
      migrations = before ++ migration :: after ∧
        Halts view direction before migration after error state := by
  -- by induction on the migrations: the names are distinct, so what the first visit enters or
  -- removes does not change what is wanted of the others
  induction migrations generalizing state with
  | nil => exact .inl .nil
  | cons migration rest ih =>
    obtain ⟨hhead, hrest⟩ := List.forall_mem_cons.1 hkeeps
    rw [List.map_cons, List.nodup_cons] at hdistinct
    have hfirst : ∀ other, view.rows other = view.rows state →
        Keeps view direction migration other := by
      intro other hrows
      obtain hpresent | hstart := hstart
      · exact hhead other (hrows ▸ hpresent)
      · exact (hstart migration rfl).2 other
    obtain hcompletes | ⟨error, hhalts⟩ :=
      singleton_completes_or_halts hreliable (fun _ => hfirst) rest
    · -- the table exists behind the first visit, whether it was there or has been made
      have hpresent : (view.rows
          (migrator.courseOf connection direction [migration] state).state).isSome := by
        rw [hcompletes.rows]
        obtain hpresent | hstart := hstart
        · exact direction.isSome_foldl_enter _ hpresent
        · have hwanted := (hstart migration rfl).1
          simpa [Direction.wanted, hwanted] using direction.isSome_enter hwanted
      have hdisjoint : ∀ other ∈ rest, other.name ∉ [migration].map (·.name) := by
        intro other hmem hname
        rw [List.map_singleton, List.mem_singleton] at hname
        exact hdistinct.1 (hname ▸ List.mem_map_of_mem hmem)
      obtain hlater | ⟨before, other, after, error, rfl, hhalts⟩ :=
        ih hdistinct.2 hrest (.inl hpresent)
      · exact .inl (hcompletes.append hlater hdisjoint)
      · refine .inr ⟨migration :: before, other, after, error, rfl,
          hcompletes.halts hhalts fun last hmem => hdisjoint last ?_⟩
        rw [← List.singleton_append, ← List.append_assoc]
        exact List.mem_append_left _ hmem
    · exact .inr ⟨[], migration, rest, error, rfl, hhalts⟩

/-- A course that has nothing to act on sends one look-up for each migration. -/
theorem sent_of_unwanted (hlookups : view.AnswersLookups)
    (hunwanted : ∀ migration ∈ migrations,
      direction.wants (view.names state) migration.name = false) :
    (migrator.courseOf connection direction migrations state).exchanges.map Exchange.sending =
      migrations.map fun migration =>
        (.query, (LedgerStatement.select migration.name).text migrator.ledgerTable) := by
  induction migrations generalizing state with
  | nil => rfl
  | cons migration rest ih =>
    obtain ⟨hhead, hrest⟩ := List.forall_mem_cons.1 hunwanted
    have hfound : migrator.found connection migration state ≠ direction.source := fun h => by
      rw [(found_eq_source_iff hlookups).1 h] at hhead
      cases hhead
    have hvisit := visitCourse_of_found_ne hfound
    have hlookup : view.names (migrator.visitCourse connection direction migration state).state =
        view.names state := by
      rw [hvisit]
      exact LedgerView.names_congr (rows_lookup direction)
    have hok : (migrator.visitCourse connection direction migration state).result =
        .ok .skipped := by
      rw [hvisit]
    rw [courseOf_cons_of_ok hok, List.map_cons, ← ih (hlookup ▸ hrest), hvisit]
    simp only [Course.exchanges, List.flatMap_append, List.flatMap_singleton, exchanges_lookup]
    rfl

theorem rows_run : view.rows ((migrator.run direction).run connection state).state =
    view.rows (migrator.course connection direction state).state :=
  congrArg view.rows (migrator.state_run connection direction state)

theorem Completes.report (h : Completes view direction (migrator.ordered direction) state) :
    ∃ report, ((migrator.run direction).run connection state).result = .ok report ∧
      report.names direction.action =
        (direction.wanted (view.names state) (migrator.ordered direction)).map (·.name) :=
  ⟨⟨direction, (migrator.ordered direction).map (direction.outcome (view.names state))⟩,
    (migrator.result_run connection direction state).trans (congrArg (Except.map _) h.result),
    direction.names_outcomes direction _ _⟩

section

variable {tablePrefix : String} {config : Config} {registered : List Migration}
  {view : LedgerView connection (ofMigrations tablePrefix config registered).ledgerTable}

theorem up_completes_or_halts (hreliable : view.Reliable)
    (hdistinct : (ofMigrations tablePrefix config registered).names.Nodup)
    (hspares : ∀ migration ∈ registered,
      view.Spares (migration.up ⟨.up, (ofMigrations tablePrefix config registered).grammar⟩))
    (hstart : config.bootstrapLedger = true ∨ (view.rows state).isSome) :
    let migrations := (ofMigrations tablePrefix config registered).migrations
    Completes view .up migrations state ∨ ∃ before migration after error,
      migrations = before ++ migration :: after ∧
        Halts view .up before migration after error state := by
  apply completes_or_halts hreliable hdistinct
  · exact fun migration hmem _ => (tame_ofMigrations hspares migration hmem).keeps_up
  cases hrows : view.rows state with
  | some names => exact .inl rfl
  | none =>
    have hbootstrap : config.bootstrapLedger = true := hstart.resolve_right (by simp [hrows])
    right
    intro migration hmem
    have hfirst : migration = .bootstrap config.ledgerTable := by
      simpa [ofMigrations, ofConfig, hbootstrap, eq_comm] using hmem
    rw [hfirst]
    exact ⟨by simp [Direction.wants, LedgerView.names_of_absent hrows], fun _ => keeps_bootstrap⟩

theorem up_completes (hreliable : view.Reliable)
    (hdistinct : (ofMigrations tablePrefix config registered).names.Nodup)
    (hspares : ∀ migration ∈ registered,
      view.Spares (migration.up ⟨.up, (ofMigrations tablePrefix config registered).grammar⟩))
    (hstart : config.bootstrapLedger = true ∨ (view.rows state).isSome)
    (hsucceed : ((ofMigrations tablePrefix config registered).course connection .up
      state).ActionsSucceed) :
    Completes view .up (ofMigrations tablePrefix config registered).migrations state := by
  obtain hcompletes | ⟨before, migration, after, error, hsplit, hhalts⟩ :=
    up_completes_or_halts hreliable hdistinct hspares hstart
  · exact hcompletes
  · rw [course, ordered, hsplit] at hsucceed
    exact absurd hsucceed hhalts.not_actionsSucceed

end

end Migrator

end SchemaLedger
