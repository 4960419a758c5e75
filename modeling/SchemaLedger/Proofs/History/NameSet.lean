import SchemaLedger.Proofs.History.KeptLedger

/-! # The ledger as a set of names

A store that keeps the literals of its statements and compares them as they are written knows
nothing of names. All the same, a name is found exactly when it has been recorded and not been
forgotten since, whatever it is made of: all statements of the ledger write a name in the same way,
and different names in different ways.
-/

namespace SchemaLedger

set_option autoImplicit false

open Text

variable {σ α β : Type} {connection : Connection σ} {table : String}

def Exchange.Accepted (connection : Connection σ) (exchange : Exchange σ) : Prop :=
  match exchange.channel with
  | .execute => ∃ count, (connection.execute exchange.statement exchange.before).1 = .ok count
  | .query => ∃ rows, (connection.query exchange.statement exchange.before).1 = .ok rows

namespace Session

def Accepted (connection : Connection σ) (session : Session α) (state : σ) : Prop :=
  ∀ exchange ∈ (session.transcript connection state).exchanges, exchange.Accepted connection

variable {session : Session α} {next : α → Session β} {state : σ}

theorem Accepted.first (h : (session >>= next).Accepted connection state) :
    session.Accepted connection state := by
  intro exchange hmem
  refine h exchange ?_
  rw [transcript_bind]
  exact List.mem_append_left _ hmem

variable {a : α} (hok : (session.transcript connection state).result = .ok a)
include hok

theorem transcript_bind_ok : (session >>= next).transcript connection state =
    (session.transcript connection state).andThen fun _ => (next a).transcript connection := by
  rw [transcript_bind, Transcript.andThen, hok]
  rfl

theorem accepted_bind_iff : (session >>= next).Accepted connection state ↔
    session.Accepted connection state ∧
      (next a).Accepted connection (session.transcript connection state).state := by
  rw [Accepted, transcript_bind_ok hok]
  exact List.forall_mem_append

end Session

namespace Ledger

inductive Use where
  | record (name : String)
  | forget (name : String)
  | lookup (name : String)

/-- What a use makes of the literals in the rows. -/
def Use.literals (held : List String) : Use → List String
  | record name => held ++ [quoted '\'' name]
  | forget name => held.filter (· ≠ quoted '\'' name)
  | lookup _ => held

def use (ledger : Ledger) (grammar : Grammar) : Use → Session Unit
  | .record name => ledger.record grammar name
  | .forget name => ledger.forget grammar name
  | .lookup name => (fun _ => ()) <$> ledger.lookup grammar name

def finds (ledger : Ledger) (grammar : Grammar) (name : String) : List Use → Session Bool
  | [] => return (← ledger.lookup grammar name).isSome
  | use :: uses => do
      ledger.use grammar use
      finds ledger grammar name uses

end Ledger

/-- A ledger table whose rows hold literals as they are written. Statements find and remove the rows
with their own literal, and none of them is accepted while the table is absent. -/
structure LiteralLedger (connection : Connection σ) (table : String) where
  /-- The literals in the rows; nothing when there is no such table. -/
  rows : σ → Option (List String)
  insert_ok : ∀ {name : String} {state : σ} {count : UInt64},
    (connection.execute ((LedgerStatement.insert name).text table) state).1 = .ok count →
    ∃ held, rows state = some held ∧
      rows (connection.execute ((LedgerStatement.insert name).text table) state).2 =
        some (held ++ [quoted '\'' name])
  delete_ok : ∀ {name : String} {state : σ} {count : UInt64},
    (connection.execute ((LedgerStatement.delete name).text table) state).1 = .ok count →
    ∃ held, rows state = some held ∧
      rows (connection.execute ((LedgerStatement.delete name).text table) state).2 =
        some (held.filter (· ≠ quoted '\'' name))
  select_ok : ∀ {name : String} {state : σ} {found : List Row},
    (connection.query ((LedgerStatement.select name).text table) state).1 = .ok found →
    ∃ held, rows state = some held ∧ (found ≠ [] ↔ quoted '\'' name ∈ held) ∧
      rows (connection.query ((LedgerStatement.select name).text table) state).2 = some held

namespace LiteralLedger

variable {ledger : Ledger} {dialect : MySql} {state : σ} {name : String} {held : List String}
  (store : LiteralLedger connection (ledger.tableIn dialect))

theorem lookup_accepted (h : (ledger.lookup dialect.grammar name).Accepted connection state) :
    ∃ held entry, store.rows state = some held ∧
      ((ledger.lookup dialect.grammar name).transcript connection state).result = .ok entry ∧
      entry.isSome = decide (quoted '\'' name ∈ held) ∧
      store.rows ((ledger.lookup dialect.grammar name).transcript connection state).state =
        some held := by
  rw [Session.Accepted, Ledger.transcript_lookup, Query.transcript_read] at h
  rw [Ledger.transcript_lookup, Query.transcript_read]
  obtain ⟨found, hfound⟩ := h _ (List.mem_singleton_self _)
  obtain ⟨held, hheld, hiff, hafter⟩ := store.select_ok hfound
  refine ⟨held, found.head?.map fun row => ⟨name, Ledger.createdOf row⟩, hheld, ?_, ?_, hafter⟩
  · simp [Transcript.map, hfound, Except.map]
  · rw [← decide_eq_decide.2 hiff]
    cases found <;> rfl

theorem use_accepted {use : Ledger.Use}
    (h : (ledger.use dialect.grammar use).Accepted connection state) :
    ∃ held, store.rows state = some held ∧
      ((ledger.use dialect.grammar use).transcript connection state).result = .ok () ∧
      store.rows ((ledger.use dialect.grammar use).transcript connection state).state =
        some (use.literals held) := by
  cases use with
  | record name =>
    rw [Ledger.use, Session.Accepted, Ledger.transcript_record] at h
    rw [Ledger.use, Ledger.transcript_record]
    obtain ⟨count, hcount⟩ := h _ (List.mem_singleton_self _)
    obtain ⟨held, hheld, hafter⟩ := store.insert_ok hcount
    exact ⟨held, hheld, (connection.result_carry _ _).2 ⟨count, hcount⟩, hafter⟩
  | forget name =>
    rw [Ledger.use, Session.Accepted, Ledger.transcript_forget] at h
    rw [Ledger.use, Ledger.transcript_forget]
    obtain ⟨count, hcount⟩ := h _ (List.mem_singleton_self _)
    obtain ⟨held, hheld, hafter⟩ := store.delete_ok hcount
    exact ⟨held, hheld, (connection.result_carry _ _).2 ⟨count, hcount⟩, hafter⟩
  | lookup name =>
    rw [Ledger.use, Session.Accepted, Session.transcript_map] at h
    rw [Ledger.use, Session.transcript_map]
    obtain ⟨held, entry, hheld, hentry, -, hafter⟩ := store.lookup_accepted h
    exact ⟨held, hheld, congrArg (Except.map _) hentry, hafter⟩

theorem finds_accepted {uses : List Ledger.Use} (hheld : store.rows state = some held)
    (h : (ledger.finds dialect.grammar name uses).Accepted connection state) :
    ((ledger.finds dialect.grammar name uses).transcript connection state).result =
      .ok (decide (quoted '\'' name ∈ uses.foldl Ledger.Use.literals held)) := by
  -- each use hands on the literals that it leaves, so they are general here
  induction uses generalizing state held with
  | nil =>
    obtain ⟨_, entry, hbefore, hentry, hfound, -⟩ := store.lookup_accepted h.first
    obtain rfl := Option.some.inj (hheld.symm.trans hbefore)
    rw [Ledger.finds, Session.transcript_bind_ok hentry, hfound]
    rfl
  | cons use uses ih =>
    obtain ⟨_, hbefore, hresult, hafter⟩ := store.use_accepted h.first
    obtain rfl := Option.some.inj (hheld.symm.trans hbefore)
    rw [Ledger.finds, Session.transcript_bind_ok hresult]
    exact ih hafter ((Session.accepted_bind_iff hresult).1 h).2

end LiteralLedger

namespace LedgerView

def literalLedger (view : LedgerView connection table) : LiteralLedger connection table where
  rows state := (view.rows state).map (·.map (quoted '\''))
  insert_ok {name state count} h := by
    obtain ⟨names, hnames, hafter⟩ := LedgerStatement.performs_insert.1 (view.execute_ok rfl h)
    exact ⟨names.map (quoted '\''), by rw [hnames]; rfl, by rw [hafter]; simp⟩
  delete_ok {name state count} h := by
    obtain ⟨names, hnames, hafter⟩ := LedgerStatement.performs_delete.1 (view.execute_ok rfl h)
    refine ⟨names.map (quoted '\''), by rw [hnames]; rfl, ?_⟩
    rw [hafter, List.filter_map]
    simp [Function.comp_def, (quoted_injective '\'').eq_iff]
  select_ok {name state found} h := by
    obtain ⟨names, hnames, hfound⟩ := view.select_ok h
    refine ⟨names.map (quoted '\''), by rw [hnames]; rfl, ?_, ?_⟩
    · rw [hfound]
      simp [(quoted_injective '\'').eq_iff]
    · rw [view.rows_select, hnames]
      rfl

variable {ledger : Ledger} {dialect : MySql} {view : LedgerView connection (ledger.tableIn dialect)}
  {state : σ} {name : String}

theorem accepted_use (hreliable : view.Reliable) (hexists : (view.rows state).isSome)
    (use : Ledger.Use) : (ledger.use dialect.grammar use).Accepted connection state := by
  cases use with
  | record name =>
    rw [Ledger.use, Session.Accepted, Ledger.transcript_record]
    exact List.forall_mem_singleton.2 (hreliable.writes (.insert name) state nofun rfl hexists)
  | forget name =>
    rw [Ledger.use, Session.Accepted, Ledger.transcript_forget]
    exact List.forall_mem_singleton.2 (hreliable.writes (.delete name) state nofun rfl hexists)
  | lookup name =>
    rw [Ledger.use, Session.Accepted, Session.transcript_map, Ledger.transcript_lookup,
      Query.transcript_read]
    exact List.forall_mem_singleton.2 (hreliable.lookups name state hexists)

theorem accepted_finds (hreliable : view.Reliable) (hexists : (view.rows state).isSome)
    (uses : List Ledger.Use) :
    (ledger.finds dialect.grammar name uses).Accepted connection state := by
  induction uses generalizing state with
  | nil =>
    have hlookup : (ledger.lookup dialect.grammar name).Accepted connection state := by
      have huse := accepted_use hreliable hexists (.lookup name)
      rwa [Ledger.use, Session.Accepted, Session.transcript_map] at huse
    obtain ⟨held, entry, -, hentry, -⟩ := view.literalLedger.lookup_accepted hlookup
    exact (Session.accepted_bind_iff hentry).2 ⟨hlookup, nofun⟩
  | cons use uses ih =>
    have huse := accepted_use hreliable hexists use
    obtain ⟨held, -, hresult, hafter⟩ := view.literalLedger.use_accepted huse
    refine (Session.accepted_bind_iff hresult).2 ⟨huse, ih ?_⟩
    exact Option.isSome_map.symm.trans (Option.isSome_of_eq_some hafter)

end LedgerView

namespace Ledger

/-- Recording or forgetting a name changes what a lookup of that very name finds and of no other,
and a lookup changes nothing for those behind it. -/
theorem names_form_set (dialect : MySql) (ledger : Ledger)
    (store : LiteralLedger connection (ledger.tableIn dialect)) (state : σ) (other : String)
    (haccepted : ∀ uses, (ledger.finds dialect.grammar other uses).Accepted connection state)
    (uses : List Use) (name : String) :
    let found (uses : List Use) :=
      ((ledger.finds dialect.grammar other uses).run connection state).result
    ∃ before, found uses = .ok before ∧
      found (uses ++ [.record name]) = .ok (other = name || before) ∧
      found (uses ++ [.forget name]) = .ok (other ≠ name && before) ∧
      ∀ later, found (uses ++ .lookup name :: later) = found (uses ++ later) := by
  intro found
  -- the first lookup is accepted, so the table exists
  obtain ⟨held, -, hheld, -⟩ := store.lookup_accepted (haccepted []).first
  have hfound (uses : List Use) :
      found uses = .ok (decide (quoted '\'' other ∈ uses.foldl Use.literals held)) :=
    (Session.run_transcript ..).1.trans (store.finds_accepted hheld (haccepted uses))
  refine ⟨_, hfound uses, ?_, ?_, fun later => ?_⟩
  · rw [hfound, List.foldl_append]
    simp [Use.literals, (quoted_injective '\'').eq_iff, Bool.or_comm]
  · rw [hfound, List.foldl_append]
    simp [Use.literals, (quoted_injective '\'').eq_iff, Bool.and_comm]
  · rw [hfound, hfound, List.foldl_append, List.foldl_append]
    rfl

/-- A name with quotes in it forgets nothing but itself. -/
theorem quoted_name_in_set :
    let dialect : MySql := { tablePrefix := "app_" }
    let ledger : Ledger := ⟨"migrations"⟩
    let connection := Connection.waking.withLedger (ledger.tableIn dialect)
    let state := (KeptLedger.empty (ledger.tableIn dialect), true)
    let name := "x' OR 'a'='a"
    let found (uses : List Use) :=
      ((ledger.finds dialect.grammar "x" uses).run connection state).result
    found [.record "x"] = .ok true ∧ found [.record "x", .record name] = .ok true ∧
      found [.record "x", .forget name] = .ok true ∧
      ∀ later, found (.record "x" :: .lookup name :: later) = found (.record "x" :: later) := by
  intro dialect ledger connection state name found
  let view := LedgerView.withLedger (ledger.tableIn dialect) Connection.waking
  have haccepted (uses : List Use) :
      (ledger.finds dialect.grammar "x" uses).Accepted connection state :=
    LedgerView.accepted_finds (LedgerView.withLedger_reliable _ Connection.waking) rfl uses
  have hset := names_form_set dialect ledger view.literalLedger state "x" haccepted
  obtain ⟨_, -, hfound, -⟩ := hset [] "x"
  obtain ⟨before, hbefore, hrecorded, hforgotten, hlookedUp⟩ := hset [.record "x"] name
  obtain rfl : before = true := Except.ok.inj (hbefore.symm.trans hfound)
  exact ⟨hfound, hrecorded, hforgotten, hlookedUp⟩

end Ledger

end SchemaLedger
