import SchemaLedger.Proofs.History.Course
import SchemaLedger.Proofs.History.LedgerStatement

/-! # Connections that keep a ledger table

A view of a connection tells for each of its states whether the ledger table exists and which names
its rows hold. Statements about the table are carried out or refused; what does not address the
table leaves it alone. Nothing else is assumed of the connection, which may refuse any statement.
-/

namespace SchemaLedger

set_option autoImplicit false

variable {σ : Type} {connection : Connection σ} {table : String}

/-- What a statement makes of the rows when it is carried out. Nothing stands for the absent table,
in which no row can be written or removed. -/
inductive LedgerStatement.Performs :
    LedgerStatement → Option (List String) → Option (List String) → Prop
  | create : Performs create none (some [])
  | createAgain (names : List String) : Performs create (some names) (some names)
  | drop (rows : Option (List String)) : Performs drop rows none
  | insert (name : String) (names : List String) :
      Performs (insert name) (some names) (some (names ++ [name]))
  | delete (name : String) (names : List String) :
      Performs (delete name) (some names) (some (names.filter (· ≠ name)))

namespace LedgerStatement

variable {before after : Option (List String)} {name : String}

theorem performs_create : create.Performs before after ↔ after = some (before.getD []) := by
  constructor
  · rintro (_ | _) <;> rfl
  · rintro rfl
    cases before with
    | none => exact .create
    | some names => exact .createAgain names

theorem performs_drop : drop.Performs before after ↔ after = none :=
  ⟨by rintro ⟨⟩; rfl, by rintro rfl; exact .drop before⟩

theorem performs_insert : (insert name).Performs before after ↔
    ∃ names, before = some names ∧ after = some (names ++ [name]) :=
  ⟨by rintro ⟨⟩; exact ⟨_, rfl, rfl⟩, by rintro ⟨names, rfl, rfl⟩; exact .insert name names⟩

theorem performs_delete : (delete name).Performs before after ↔
    ∃ names, before = some names ∧ after = some (names.filter (· ≠ name)) :=
  ⟨by rintro ⟨⟩; exact ⟨_, rfl, rfl⟩, by rintro ⟨names, rfl, rfl⟩; exact .delete name names⟩

end LedgerStatement

/-- The ledger table as the states of a connection show it. -/
structure LedgerView (connection : Connection σ) (table : String) where
  /-- The names in the rows; nothing when there is no such table. -/
  rows : σ → Option (List String)
  /-- The statements that address the ledger table. -/
  Addressed : String → Prop
  addressed_text : ∀ statement : LedgerStatement, Addressed (statement.text table)
  execute_other : ∀ {statement : String}, ¬ Addressed statement →
    ∀ state, rows (connection.execute statement state).2 = rows state
  query_other : ∀ {statement : String}, ¬ Addressed statement →
    ∀ state, rows (connection.query statement state).2 = rows state
  execute_ok : ∀ {statement : LedgerStatement} {state : σ} {count : UInt64},
    statement.channel = .execute →
    (connection.execute (statement.text table) state).1 = .ok count →
    statement.Performs (rows state) (rows (connection.execute (statement.text table) state).2)
  execute_error : ∀ {statement : LedgerStatement} {state : σ} {error : Error},
    statement.channel = .execute →
    (connection.execute (statement.text table) state).1 = .error error →
    rows (connection.execute (statement.text table) state).2 = rows state
  select_ok : ∀ {name : String} {state : σ} {found : List Row},
    (connection.query ((LedgerStatement.select name).text table) state).1 = .ok found →
    ∃ names, rows state = some names ∧ (found ≠ [] ↔ name ∈ names)
  rows_select : ∀ (name : String) (state : σ),
    rows (connection.query ((LedgerStatement.select name).text table) state).2 = rows state

namespace LedgerView

variable (view : LedgerView connection table)

/-- The names in the rows, none when the table is absent. -/
def names (state : σ) : List String :=
  (view.rows state).getD []

/-- Look-ups fail only while the table is absent. -/
def AnswersLookups : Prop :=
  ∀ (name : String) (state : σ), (view.rows state).isSome →
    ∃ found, (connection.query ((LedgerStatement.select name).text table) state).1 = .ok found

/-- No statement about the table is refused while the table exists. Whether the table can be made,
also when it exists already, is left open. -/
structure Reliable : Prop where
  lookups : view.AnswersLookups
  writes : ∀ (statement : LedgerStatement) (state : σ), statement ≠ .create →
    statement.channel = .execute → (view.rows state).isSome →
    ∃ count, (connection.execute (statement.text table) state).1 = .ok count

/-- The table can be made when it is absent. -/
def AcceptsCreation : Prop :=
  ∀ state, view.rows state = none →
    ∃ count, (connection.execute (LedgerStatement.create.text table) state).1 = .ok count

/-- The session never addresses the ledger table, whatever state it starts from. -/
def Spares (session : Session Unit) : Prop :=
  ∀ state, ∀ exchange ∈ (session.transcript connection state).exchanges,
    ¬ view.Addressed exchange.statement

variable {view}

theorem Spares.rows_eq {session : Session Unit} (h : view.Spares session) (state : σ) :
    (∀ exchange ∈ (session.transcript connection state).exchanges,
      view.rows exchange.before = view.rows state) ∧
      view.rows (session.transcript connection state).state = view.rows state := by
  apply Script.transcript_invariant connection (P := fun other => view.rows other = view.rows state)
    (ExceptT.run session) rfl
  rintro ⟨before, channel, statement⟩ hmem hbefore
  have hother : ¬ view.Addressed statement := h state _ hmem
  cases channel with
  | execute => exact (view.execute_other hother before).trans hbefore
  | query => exact (view.query_other hother before).trans hbefore

theorem names_of_rows {state : σ} {names : List String} (h : view.rows state = some names) :
    view.names state = names := by
  rw [LedgerView.names, h, Option.getD_some]

theorem names_of_absent {state : σ} (h : view.rows state = none) : view.names state = [] := by
  rw [LedgerView.names, h, Option.getD_none]

theorem names_congr {state other : σ} (h : view.rows other = view.rows state) :
    view.names other = view.names state := by
  rw [LedgerView.names, LedgerView.names, h]

end LedgerView

namespace Connection

variable (connection)

theorem result_carry (statement : String) (state : σ) :
    (connection.carry statement state).result = .ok () ↔
      ∃ count, (connection.execute statement state).1 = .ok count := by
  cases h : (connection.execute statement state).1 <;>
    simp [carry, h, Except.map]

variable {connection}

/-- A statement about the table is carried out or refused, and a refused one changes nothing. -/
theorem carry_cases (view : LedgerView connection table) (statement : LedgerStatement)
    (hchannel : statement.channel = .execute) (state : σ) :
    let carried := connection.carry (statement.text table) state
    (carried.result = .ok () ∧ statement.Performs (view.rows state) (view.rows carried.state)) ∨
      ∃ error, carried.result = .error error ∧ view.rows carried.state = view.rows state := by
  intro carried
  cases h : (connection.execute (statement.text table) state).1 with
  | ok count =>
    exact .inl ⟨(connection.result_carry _ _).2 ⟨count, h⟩, view.execute_ok hchannel h⟩
  | error error =>
    refine .inr ⟨.ofStatement (statement.text table) error, ?_, view.execute_error hchannel h⟩
    simp [carried, carry, h, Except.map]

end Connection

namespace Direction

def entry : Direction → String → LedgerStatement
  | up => .insert
  | down => .delete

def bootstrapping : Direction → LedgerStatement
  | up => .create
  | down => .drop

/-- The statement about the ledger table that a part of a visit may send. -/
def statement (direction : Direction) (name : String) : Part → LedgerStatement
  | .lookup => .select name
  | .action => direction.bootstrapping
  | .entry => direction.entry name

theorem entry_eq_statement_iff {written direction : Direction} {name other : String} {part : Part} :
    written.entry name = direction.statement other part ↔
      part = .entry ∧ written = direction ∧ name = other := by
  cases part <;> cases written <;> cases direction <;> simp [entry, statement, bootstrapping]

theorem eq_of_name?_statement {direction : Direction} {name other : String} {part : Part}
    (h : (direction.statement other part).name? = some name) : other = name := by
  cases part with
  | lookup => exact Option.some.inj h
  | action => cases direction <;> cases h
  | entry => cases direction <;> exact Option.some.inj h

theorem channel_entry (direction : Direction) (name : String) :
    (direction.entry name).channel = .execute := by
  cases direction <;> rfl

theorem channel_bootstrapping (direction : Direction) :
    direction.bootstrapping.channel = .execute := by
  cases direction <;> rfl

end Direction

namespace Migrator

variable (migrator : Migrator) (connection) (direction : Direction) (migration : Migration)
  (state : σ)

/-- The ledger table as statements name it. -/
def ledgerTable : String :=
  migrator.ledger.tableIn migrator.dialect

theorem transcript_entry : (migrator.stage connection direction migration .entry state).transcript =
    connection.carry ((direction.entry migration.name).text migrator.ledgerTable) state := by
  cases direction with
  | up => exact migrator.ledger.transcript_record migrator.dialect migration.name connection state
  | down => exact migrator.ledger.transcript_forget migrator.dialect migration.name connection state

theorem transcript_bootstrap :
    (migrator.stage connection direction (.bootstrap migrator.config.ledgerTable) .action
      state).transcript =
        connection.carry (direction.bootstrapping.text migrator.ledgerTable) state := by
  cases direction with
  | up => exact Migration.transcript_up_bootstrap _ migrator.dialect .up connection state
  | down => exact Migration.transcript_down_bootstrap _ migrator.dialect .down connection state

theorem exchanges_lookup :
    (migrator.stage connection direction migration .lookup state).transcript.exchanges =
      [⟨state, .query, (LedgerStatement.select migration.name).text migrator.ledgerTable⟩] := by
  rw [transcript_stage_lookup, grammar, Ledger.transcript_lookup, Query.transcript_read]
  rfl

theorem state_lookup :
    (migrator.stage connection direction migration .lookup state).transcript.state =
      (connection.query ((LedgerStatement.select migration.name).text migrator.ledgerTable)
        state).2 := by
  rw [transcript_stage_lookup, grammar, Ledger.transcript_lookup, Query.transcript_read]
  rfl

theorem found_eq_applied_iff_rows : migrator.found connection migration state = .applied ↔
    ∃ rows, (connection.query ((LedgerStatement.select migration.name).text migrator.ledgerTable)
      state).1 = .ok rows ∧ rows ≠ [] := by
  rw [found, grammar, Ledger.transcript_lookup, Query.transcript_read]
  change Status.ofLookup (((connection.query ((LedgerStatement.select migration.name).text
    migrator.ledgerTable) state).1.mapError _).map _) = .applied ↔ _
  rcases (connection.query ((LedgerStatement.select migration.name).text migrator.ledgerTable)
    state).1 with error | _ | ⟨row, rows⟩ <;>
    simp [Except.map, Status.ofLookup]

variable {migrator connection migration state} {view : LedgerView connection migrator.ledgerTable}

theorem rows_lookup :
    view.rows (migrator.stage connection direction migration .lookup state).transcript.state =
      view.rows state := by
  rw [state_lookup]
  exact view.rows_select migration.name state

theorem found_eq_applied_iff (hlookups : view.AnswersLookups) :
    migrator.found connection migration state = .applied ↔ migration.name ∈ view.names state := by
  rw [found_eq_applied_iff_rows]
  constructor
  · rintro ⟨rows, hrows, hne⟩
    obtain ⟨names, hnames, hmem⟩ := view.select_ok hrows
    rw [LedgerView.names_of_rows hnames]
    exact hmem.1 hne
  · intro hmem
    have hpresent : (view.rows state).isSome := by
      cases h : view.rows state with
      | none => simp [LedgerView.names, h] at hmem
      | some names => rfl
    obtain ⟨rows, hrows⟩ := hlookups migration.name state hpresent
    obtain ⟨names, hnames, hiff⟩ := view.select_ok hrows
    rw [LedgerView.names_of_rows hnames] at hmem
    exact ⟨rows, hrows, hiff.2 hmem⟩

theorem found_eq_pending_iff (hlookups : view.AnswersLookups) :
    migrator.found connection migration state = .pending ↔ migration.name ∉ view.names state := by
  rw [← found_eq_applied_iff hlookups]
  cases migrator.found connection migration state <;> decide

variable (view) in
/-- The bootstrap migration of the ledger table, or a migration whose action in the direction never
addresses that table. -/
def Tame (migration : Migration) : Prop :=
  migration = .bootstrap migrator.config.ledgerTable ∨
    view.Spares (migration.act ⟨direction, migrator.grammar⟩)

variable {direction}

theorem Tame.rows_before (h : Tame direction view migration) (part : Part) :
    ∀ exchange ∈ (migrator.stage connection direction migration part state).transcript.exchanges,
      view.rows exchange.before = view.rows state := by
  cases part with
  | lookup =>
    rw [exchanges_lookup]
    simp
  | action =>
    obtain rfl | hspares := h
    · rw [transcript_bootstrap]
      simp [Connection.carry]
    · exact (hspares.rows_eq state).1
  | entry =>
    rw [transcript_entry]
    simp [Connection.carry]

theorem Tame.statement_eq (h : Tame direction view migration) {part : Part}
    {exchange : Exchange σ} {statement : LedgerStatement}
    (hmem : exchange ∈
      (migrator.stage connection direction migration part state).transcript.exchanges)
    (htext : exchange.statement = statement.text migrator.ledgerTable) :
    statement = direction.statement migration.name part := by
  apply LedgerStatement.text_injective migrator.ledgerTable
  cases part with
  | lookup =>
    rw [exchanges_lookup, List.mem_singleton] at hmem
    rw [← htext, hmem]
    rfl
  | action =>
    obtain rfl | hspares := h
    · rw [transcript_bootstrap, Connection.carry, List.mem_singleton] at hmem
      rw [← htext, hmem]
      rfl
    · have hother : ¬ view.Addressed exchange.statement := hspares state exchange hmem
      rw [htext] at hother
      exact absurd (view.addressed_text statement) hother
  | entry =>
    rw [transcript_entry, Connection.carry, List.mem_singleton] at hmem
    rw [← htext, hmem]
    rfl

theorem Tame.action_cases (h : Tame direction view migration) :
    let action := migrator.stage connection direction migration .action state
    view.rows action.transcript.state = view.rows state ∨
      direction.bootstrapping.Performs (view.rows state) (view.rows action.transcript.state) := by
  intro action
  obtain rfl | hspares := h
  · have htranscript := transcript_bootstrap connection migrator direction state
    obtain ⟨-, hperforms⟩ | ⟨error, -, hsame⟩ :=
      Connection.carry_cases view _ direction.channel_bootstrapping state
    · exact .inr (htranscript ▸ hperforms)
    · exact .inl (htranscript ▸ hsame)
  · exact .inl (hspares.rows_eq state).2

/-- Going up, no action changes the rows; the bootstrap migration at most makes an empty table. -/
theorem Tame.names_action_up (h : Tame .up view migration) :
    view.names (migrator.stage connection .up migration .action state).transcript.state =
      view.names state := by
  obtain hsame | hperforms := h.action_cases
  · exact LedgerView.names_congr hsame
  · exact LedgerView.names_of_rows (LedgerStatement.performs_create.1 hperforms)

theorem tame_ofMigrations {tablePrefix : String} {config : Config} {migrations : List Migration}
    {view : LedgerView connection (ofMigrations tablePrefix config migrations).ledgerTable}
    (hspares : ∀ migration ∈ migrations, view.Spares
      (migration.act ⟨direction, (ofMigrations tablePrefix config migrations).grammar⟩)) :
    ∀ migration ∈ (ofMigrations tablePrefix config migrations).migrations,
      Tame direction view migration := by
  intro migration hmem
  obtain hbootstrap | hregistered := List.mem_append.1 hmem
  · refine .inl (List.mem_singleton.1 ?_)
    unfold ofConfig at hbootstrap
    split at hbootstrap
    · exact hbootstrap
    · exact absurd hbootstrap List.not_mem_nil
  · exact .inr (hspares migration hregistered)

end Migrator

end SchemaLedger
