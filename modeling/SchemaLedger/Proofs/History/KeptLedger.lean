import SchemaLedger.Exchange.LedgerStore
import SchemaLedger.Proofs.History.LedgerView

/-! # Connections with a simulated ledger table

A ledger store answers the statements about the ledger table and another connection all the others.
Together they keep a ledger table that refuses no statement while it exists, so whatever holds over
every ledger view holds over the simulated table as well.
-/

namespace SchemaLedger

set_option autoImplicit false

open Text

variable {τ : Type} {table : String}

namespace Text

theorem afterStart?_eq_some_iff {start text rest : List Char} :
    afterStart? start text = some rest ↔ text = start ++ rest := by
  fun_induction afterStart? start text with
  | case1 text => simp
  | case2 => simp
  | case3 start c text ih => simpa using ih
  | case4 c start d text h =>
    simp only [List.cons_append, List.cons.injEq, reduceCtorEq, false_iff, not_and]
    exact fun heq => absurd heq.symm h

theorem between?_eq_some_iff {start finish text middle : String} :
    between? start finish text = some middle ↔ text = start ++ middle ++ finish := by
  simp only [between?, Option.bind_eq_bind, Option.bind_eq_some_iff, afterStart?_eq_some_iff]
  constructor
  · rintro ⟨rest, htext, reversed, hrest, hmiddle⟩
    rw [List.reverse_eq_iff] at hrest
    apply String.toList_inj.1
    rw [htext, hrest, ← Option.some.inj hmiddle]
    simp
  · rintro rfl
    refine ⟨middle.toList ++ finish.toList, by simp, middle.toList.reverse, by simp, by simp⟩

theorem take_of_between? {start finish text middle : String} {letters : List Char}
    (h : between? start finish text = some middle) (hstart : start.toList.take 2 = letters)
    (hletters : letters.length = 2) : text.toList.take 2 = letters := by
  obtain ⟨rest, hrest⟩ : letters <+: start.toList := hstart ▸ List.take_prefix 2 start.toList
  rw [between?_eq_some_iff.1 h, String.toList_append, String.toList_append, ← hrest]
  simp [hletters]

/-- What is read back up to the closing quote has only the doubled text before it. -/
theorem eq_of_readDoubled? {quote : Char} {text rest all : List Char}
    (h : readDoubled? quote all = some (text, rest)) :
    all = doubled quote text ++ quote :: rest := by
  fun_induction readDoubled? quote all generalizing text rest with
  | case1 => simp at h
  | case2 =>
    obtain ⟨rfl, rfl⟩ : [] = text ∧ [] = rest := by simpa using h
    rfl
  | case3 => simp at h
  | case4 more ih =>
    obtain ⟨⟨inner, left⟩, hread, hpair⟩ := Option.map_eq_some_iff.1 h
    obtain ⟨rfl, rfl⟩ := Prod.mk.inj hpair
    simp [doubled, ih hread]
  | case5 d more hd =>
    obtain ⟨rfl, rfl⟩ : [] = text ∧ d :: more = rest := by simpa using h
    rfl
  | case6 c d more hc ih =>
    obtain ⟨⟨inner, left⟩, hread, hpair⟩ := Option.map_eq_some_iff.1 h
    obtain ⟨rfl, rfl⟩ := Prod.mk.inj hpair
    simp [doubled, hc, ih hread]

/-- A name as it stands between its quotes. -/
def inQuotes (name : String) : String :=
  String.ofList (doubled '\'' name.toList)

def fromQuotes? (stored : String) : Option String :=
  match readDoubled? '\'' (stored.toList ++ ['\'']) with
  | some (text, []) => some (String.ofList text)
  | _ => none

theorem fromQuotes?_eq_some_iff {stored name : String} :
    fromQuotes? stored = some name ↔ stored = inQuotes name := by
  constructor
  · intro h
    unfold fromQuotes? at h
    split at h
    · next text hread =>
      obtain rfl := Option.some.inj h
      apply String.toList_inj.1
      rw [inQuotes, String.toList_ofList, String.toList_ofList]
      exact List.append_cancel_right (eq_of_readDoubled? hread)
    · simp at h
  · rintro rfl
    have hread : readDoubled? '\'' (doubled '\'' name.toList ++ ['\'']) = some (name.toList, []) :=
      readDoubled?_doubled name.toList [] (by simp)
    simp [fromQuotes?, inQuotes, hread]

@[simp] theorem fromQuotes?_inQuotes (name : String) : fromQuotes? (inQuotes name) = some name :=
  fromQuotes?_eq_some_iff.2 rfl

@[simp] theorem inQuotes_inj {name other : String} :
    inQuotes name = inQuotes other ↔ name = other := by
  constructor
  · intro h
    exact Option.some.inj ((fromQuotes?_inQuotes name).symm.trans (h ▸ fromQuotes?_inQuotes other))
  · rintro rfl
    rfl

theorem quoted_eq (name : String) : quoted '\'' name = "'" ++ inQuotes name ++ "'" := by
  apply String.toList_inj.1
  simp [quoted, inQuotes]

end Text

namespace LedgerStore

variable (store : LedgerStore) {statement : String}

theorem initials_of_creates (h : store.creates statement = true) :
    statement.toList.take 2 = LedgerStatement.create.initials := by
  obtain ⟨rest, hrest⟩ := Option.isSome_iff_exists.1 h
  rw [afterStart?_eq_some_iff.1 hrest, String.toList_append, String.toList_append]
  rfl

theorem initials_of_drops (h : store.drops statement = true) :
    statement.toList.take 2 = LedgerStatement.drop.initials := by
  rw [of_decide_eq_true h, String.toList_append]
  rfl

theorem initials_of_insertedName? {name : String} (h : store.insertedName? statement = some name) :
    statement.toList.take 2 = (LedgerStatement.insert name).initials :=
  take_of_between? h (by simp only [String.toList_append]; rfl) rfl

theorem initials_of_selectedName? {name : String} (h : store.selectedName? statement = some name) :
    statement.toList.take 2 = (LedgerStatement.select name).initials :=
  take_of_between? h (by simp only [String.toList_append]; rfl) rfl

theorem initials_of_deletedName? {name : String} (h : store.deletedName? statement = some name) :
    statement.toList.take 2 = (LedgerStatement.delete name).initials :=
  take_of_between? h (by simp only [String.toList_append]; rfl) rfl

theorem creates_text (statement : LedgerStatement) :
    store.creates (statement.text store.table) = true ↔ statement = .create := by
  constructor
  · intro h
    have hinitials := store.initials_of_creates h
    rw [LedgerStatement.take_text] at hinitials
    cases statement <;> simp [LedgerStatement.initials] at hinitials ⊢
  · rintro rfl
    refine Option.isSome_iff_exists.2 ⟨("( " ++ LedgerStatement.columns ++ " )").toList,
      afterStart?_eq_some_iff.2 ?_⟩
    rw [LedgerStatement.text_create]
    simp only [String.toList_append, List.append_assoc]
    rfl

theorem drops_text (statement : LedgerStatement) :
    store.drops (statement.text store.table) = true ↔ statement = .drop := by
  constructor
  · intro h
    exact LedgerStatement.text_injective store.table (of_decide_eq_true h)
  · rintro rfl
    exact decide_eq_true rfl

theorem insertedName?_text (statement : LedgerStatement) :
    store.insertedName? (statement.text store.table) =
      match statement with
      | .insert name => some (inQuotes name)
      | _ => none := by
  cases statement with
  | insert name =>
    apply between?_eq_some_iff.2
    rw [LedgerStatement.text_insert, quoted_eq]
    apply String.toList_inj.1
    simp
  | _ =>
    apply Option.eq_none_iff_forall_ne_some.2
    intro name h
    have hinitials := store.initials_of_insertedName? h
    rw [LedgerStatement.take_text] at hinitials
    simp [LedgerStatement.initials] at hinitials

theorem deletedName?_text (statement : LedgerStatement) :
    store.deletedName? (statement.text store.table) =
      match statement with
      | .delete name => some (inQuotes name)
      | _ => none := by
  cases statement with
  | delete name =>
    apply between?_eq_some_iff.2
    rw [LedgerStatement.text_delete, quoted_eq]
    apply String.toList_inj.1
    simp
  | _ =>
    apply Option.eq_none_iff_forall_ne_some.2
    intro name h
    have hinitials := store.initials_of_deletedName? h
    rw [LedgerStatement.take_text] at hinitials
    simp [LedgerStatement.initials] at hinitials

theorem selectedName?_select (name : String) :
    store.selectedName? ((LedgerStatement.select name).text store.table) =
      some (inQuotes name) := by
  apply between?_eq_some_iff.2
  rw [LedgerStatement.text_select, quoted_eq]
  apply String.toList_inj.1
  simp

/-- Whether the statement is one that the store carries out. -/
def writes (statement : String) : Bool :=
  store.creates statement || store.drops statement || (store.insertedName? statement).isSome ||
    (store.deletedName? statement).isSome

theorem execute_create :
    store.execute (LedgerStatement.create.text store.table) =
      (.ok (), { store with present := true }) := by
  simp [execute, creates_text]

theorem execute_drop :
    store.execute (LedgerStatement.drop.text store.table) =
      (.ok (), { store with present := false, names := [] }) := by
  simp [execute, creates_text, drops_text]

theorem execute_insert (name : String) :
    store.execute ((LedgerStatement.insert name).text store.table) =
      if store.present then (.ok (), { store with names := store.names ++ [inQuotes name] })
      else (.error store.absent, store) := by
  simp [execute, creates_text, drops_text, insertedName?_text]

theorem execute_delete (name : String) :
    store.execute ((LedgerStatement.delete name).text store.table) =
      if store.present then
        (.ok (), { store with names := store.names.filter (· ≠ inQuotes name) })
      else (.error store.absent, store) := by
  simp [execute, creates_text, drops_text, insertedName?_text, deletedName?_text]

theorem writes_text (statement : LedgerStatement) :
    store.writes (statement.text store.table) = true ↔ statement.channel = .execute := by
  cases statement <;>
    simp [writes, creates_text, drops_text, insertedName?_text, deletedName?_text,
      LedgerStatement.channel]

/-- The names as they were before they were put between quotes. -/
def rows : Option (List String) :=
  if store.present then some (store.names.filterMap fromQuotes?) else none

theorem rows_present (table : String) (stored : List String) :
    rows ⟨table, true, stored⟩ = some (stored.filterMap fromQuotes?) := rfl

theorem filterMap_filter_ne (stored : List String) (name : String) :
    (stored.filter (· ≠ inQuotes name)).filterMap fromQuotes? =
      (stored.filterMap fromQuotes?).filter (· ≠ name) := by
  rw [List.filterMap_filter, List.filter_filterMap]
  congr 1
  funext text
  cases h : fromQuotes? text with
  | none => simp
  | some other =>
    obtain rfl := fromQuotes?_eq_some_iff.1 h
    by_cases hname : other = name <;> simp [hname, Option.filter_some]

theorem performs_execute (habsent : store.present = false → store.names = [])
    {statement : LedgerStatement} (hchannel : statement.channel = .execute)
    (h : (store.execute (statement.text store.table)).1 = .ok ()) :
    statement.Performs store.rows (store.execute (statement.text store.table)).2.rows := by
  cases statement with
  | create =>
    rw [execute_create]
    apply LedgerStatement.performs_create.2
    cases hpresent : store.present with
    | false => simp [rows, hpresent, habsent hpresent]
    | true => simp [rows, hpresent]
  | drop =>
    rw [execute_drop]
    exact LedgerStatement.performs_drop.2 rfl
  | select name => cases hchannel
  | insert name =>
    obtain ⟨table, _ | _, stored⟩ := store
    · rw [execute_insert] at h
      cases h
    · refine LedgerStatement.performs_insert.2 ⟨_, rows_present table stored, ?_⟩
      rw [execute_insert, if_pos rfl, rows_present, List.filterMap_append]
      simp
  | delete name =>
    obtain ⟨table, _ | _, stored⟩ := store
    · rw [execute_delete] at h
      cases h
    · refine LedgerStatement.performs_delete.2 ⟨_, rows_present table stored, ?_⟩
      rw [execute_delete, if_pos rfl, rows_present, filterMap_filter_ne]

theorem execute_of_error {statement : String} {error : Error}
    (h : (store.execute statement).1 = .error error) : (store.execute statement).2 = store := by
  unfold execute at h ⊢
  repeat' split
  all_goals first | rfl | simp_all

theorem execute_of_present (hpresent : store.present = true) (statement : String) :
    (store.execute statement).1 = .ok () := by
  unfold execute
  simp only [hpresent, if_true]
  repeat' split
  all_goals rfl

theorem select_ok {name : String} {found : List Row}
    (h : store.select (inQuotes name) = .ok found) :
    ∃ names, store.rows = some names ∧ (found ≠ [] ↔ name ∈ names) := by
  obtain ⟨table, _ | _, stored⟩ := store
  · cases h
  · refine ⟨_, rows_present table stored, ?_⟩
    obtain rfl := Except.ok.inj h
    simp [fromQuotes?_eq_some_iff, List.filter_eq_nil_iff]

theorem present_of_rows (h : store.rows.isSome) : store.present = true := by
  cases hpresent : store.present with
  | true => rfl
  | false => simp [rows, hpresent] at h

end LedgerStore

/-- A store of one table that has no rows while the table is absent. -/
structure KeptLedger (table : String) where
  store : LedgerStore
  table_eq : store.table = table
  names_absent : store.present = false → store.names = []

namespace KeptLedger

theorem execute_keeps (kept : KeptLedger table) (statement : String) :
    (kept.store.execute statement).2.table = table ∧
      ((kept.store.execute statement).2.present = false →
        (kept.store.execute statement).2.names = []) := by
  have habsent := kept.names_absent
  unfold LedgerStore.execute
  split
  · exact ⟨kept.table_eq, fun h => by cases h⟩
  split
  · exact ⟨kept.table_eq, fun _ => rfl⟩
  split <;> try split
  all_goals exact ⟨kept.table_eq, by simp_all⟩

def execute (kept : KeptLedger table) (statement : String) :
    Except Error UInt64 × KeptLedger table :=
  ((kept.store.execute statement).1.map fun _ => 0,
    ⟨(kept.store.execute statement).2, (kept.execute_keeps statement).1,
      (kept.execute_keeps statement).2⟩)

def empty (table : String) : KeptLedger table :=
  ⟨⟨table, true, []⟩, rfl, fun _ => rfl⟩

def missing (table : String) : KeptLedger table :=
  ⟨⟨table, false, []⟩, rfl, fun _ => rfl⟩

/-- Whether a statement is answered by the ledger of the table. -/
def Answers (table : String) (statement : String) : Prop :=
  let store : LedgerStore := ⟨table, false, []⟩
  store.writes statement = true ∨ (store.selectedName? statement).isSome

variable (kept : KeptLedger table)

theorem writes_text (statement : LedgerStatement) :
    kept.store.writes (statement.text table) = true ↔ statement.channel = .execute := by
  obtain ⟨store, rfl, -⟩ := kept
  exact store.writes_text statement

theorem selectedName?_select (name : String) :
    kept.store.selectedName? ((LedgerStatement.select name).text table) = some (inQuotes name) := by
  obtain ⟨store, rfl, -⟩ := kept
  exact store.selectedName?_select name

theorem not_writes {statement : String} (h : ¬ Answers table statement) :
    ¬ kept.store.writes statement = true := by
  obtain ⟨store, rfl, -⟩ := kept
  exact fun hwrites => h (.inl hwrites)

theorem selectedName?_of_not_answers {statement : String} (h : ¬ Answers table statement) :
    kept.store.selectedName? statement = none := by
  obtain ⟨store, rfl, -⟩ := kept
  exact Option.not_isSome_iff_eq_none.1 fun hselect => h (.inr hselect)

theorem answers_text (table : String) (statement : LedgerStatement) :
    Answers table (statement.text table) := by
  cases statement with
  | select name =>
    exact .inr (Option.isSome_iff_exists.2 ⟨_, (empty table).selectedName?_select name⟩)
  | _ => exact .inl (((missing table).writes_text _).2 rfl)

/-- Only statements that begin like one about the ledger table are answered by the ledger. -/
theorem exists_initials {statement : String} (h : Answers table statement) :
    ∃ known : LedgerStatement, statement.toList.take 2 = known.initials := by
  obtain hwrites | hselects := h
  · simp only [LedgerStore.writes, Bool.or_eq_true, Option.isSome_iff_exists] at hwrites
    obtain ((hcreates | hdrops) | ⟨name, hinserts⟩) | ⟨name, hdeletes⟩ := hwrites
    · exact ⟨_, LedgerStore.initials_of_creates _ hcreates⟩
    · exact ⟨_, LedgerStore.initials_of_drops _ hdrops⟩
    · exact ⟨_, LedgerStore.initials_of_insertedName? _ hinserts⟩
    · exact ⟨_, LedgerStore.initials_of_deletedName? _ hdeletes⟩
  · obtain ⟨name, hname⟩ := Option.isSome_iff_exists.1 hselects
    exact ⟨_, LedgerStore.initials_of_selectedName? _ hname⟩

theorem fst_execute (statement : String) :
    (kept.execute statement).1 = (kept.store.execute statement).1.map fun _ => 0 := rfl

theorem fst_create :
    (kept.store.execute (LedgerStatement.create.text table)).1 = .ok () := by
  obtain ⟨store, rfl, -⟩ := kept
  rw [store.execute_create]

theorem performs_execute {statement : LedgerStatement} {count : UInt64}
    (hchannel : statement.channel = .execute)
    (h : (kept.execute (statement.text table)).1 = .ok count) :
    statement.Performs kept.store.rows (kept.execute (statement.text table)).2.store.rows := by
  obtain ⟨store, rfl, habsent⟩ := kept
  apply store.performs_execute habsent hchannel
  rw [fst_execute] at h
  cases hresult : (store.execute (statement.text store.table)).1 with
  | ok _ => rfl
  | error error =>
    rw [hresult] at h
    cases h

theorem execute_of_error {statement : String} {error : Error}
    (h : (kept.execute statement).1 = .error error) :
    (kept.execute statement).2.store = kept.store := by
  rw [fst_execute] at h
  cases hresult : (kept.store.execute statement).1 with
  | ok _ =>
    rw [hresult] at h
    cases h
  | error cause => exact kept.store.execute_of_error hresult

end KeptLedger

/-- A connection beside which a ledger table is kept. -/
def Connection.withLedger (table : String) (other : Connection τ) :
    Connection (KeptLedger table × τ) where
  tablePrefix := other.tablePrefix
  execute statement state :=
    if state.1.store.writes statement then
      ((state.1.execute statement).1, (state.1.execute statement).2, state.2)
    else
      ((other.execute statement state.2).1, state.1, (other.execute statement state.2).2)
  query statement state :=
    match state.1.store.selectedName? statement with
    | some name => (state.1.store.select name, state)
    | none => ((other.query statement state.2).1, state.1, (other.query statement state.2).2)

namespace Connection

variable (other : Connection τ) (state : KeptLedger table × τ)

theorem execute_withLedger {statement : LedgerStatement} (hchannel : statement.channel = .execute) :
    (other.withLedger table).execute (statement.text table) state =
      ((state.1.execute (statement.text table)).1, (state.1.execute (statement.text table)).2,
        state.2) :=
  if_pos ((state.1.writes_text statement).2 hchannel)

theorem execute_withLedger_other {statement : String} (h : ¬ KeptLedger.Answers table statement) :
    (other.withLedger table).execute statement state =
      ((other.execute statement state.2).1, state.1, (other.execute statement state.2).2) :=
  if_neg (state.1.not_writes h)

theorem query_withLedger (name : String) :
    (other.withLedger table).query ((LedgerStatement.select name).text table) state =
      (state.1.store.select (inQuotes name), state) := by
  simp only [withLedger, state.1.selectedName?_select]

theorem query_withLedger_other {statement : String} (h : ¬ KeptLedger.Answers table statement) :
    (other.withLedger table).query statement state =
      ((other.query statement state.2).1, state.1, (other.query statement state.2).2) := by
  simp only [withLedger, state.1.selectedName?_of_not_answers h]

end Connection

namespace LedgerView

variable (table) (other : Connection τ)

def withLedger : LedgerView (other.withLedger table) table where
  rows state := state.1.store.rows
  Addressed := KeptLedger.Answers table
  addressed_text := KeptLedger.answers_text table
  execute_other h state := by rw [Connection.execute_withLedger_other other state h]
  query_other h state := by rw [Connection.query_withLedger_other other state h]
  execute_ok {statement state count} hchannel h := by
    rw [Connection.execute_withLedger other state hchannel] at h ⊢
    exact state.1.performs_execute hchannel h
  execute_error {statement state error} hchannel h := by
    rw [Connection.execute_withLedger other state hchannel] at h ⊢
    exact congrArg LedgerStore.rows (state.1.execute_of_error h)
  select_ok {name state found} h := by
    rw [Connection.query_withLedger] at h
    exact state.1.store.select_ok h
  rows_select name state := by rw [Connection.query_withLedger]

theorem withLedger_reliable : (withLedger table other).Reliable where
  lookups name state h := by
    rw [Connection.query_withLedger]
    exact ⟨_, if_pos (state.1.store.present_of_rows h)⟩
  writes statement state _ hchannel h := by
    rw [Connection.execute_withLedger other state hchannel, KeptLedger.fst_execute,
      LedgerStore.execute_of_present _ (state.1.store.present_of_rows h)]
    exact ⟨0, rfl⟩

theorem withLedger_acceptsCreation : (withLedger table other).AcceptsCreation := by
  intro state _
  rw [Connection.execute_withLedger other state rfl, KeptLedger.fst_execute, state.1.fst_create]
  exact ⟨0, rfl⟩

end LedgerView

theorem KeptLedger.not_answers_alter (table change : String) :
    ¬ Answers table ("ALTER TABLE " ++ change) := by
  intro hanswers
  obtain ⟨known, hinitials⟩ := exists_initials hanswers
  rw [String.toList_append] at hinitials
  cases known <;> cases hinitials

theorem LedgerView.spares_alter (table : String) (other : Connection τ) (change : String) :
    (withLedger table other).Spares (Blueprint.send ("ALTER TABLE " ++ change)) := by
  intro state exchange hmem
  rw [Blueprint.transcript_send, Connection.carry, List.mem_singleton] at hmem
  rw [hmem]
  exact KeptLedger.not_answers_alter table change

/-- A connection that is ready to carry out statements, or becomes so by refusing one. -/
def Connection.waking : Connection Bool where
  tablePrefix := ""
  execute _ ready := (if ready then .ok 0 else .error (.query "not ready"), true)
  query _ ready := (if ready then .ok [] else .error (.query "not ready"), true)

def Migration.altering (identity forward back : String) : Migration where
  identity
  up _ := Blueprint.send ("ALTER TABLE " ++ forward)
  down _ := Blueprint.send ("ALTER TABLE " ++ back)

theorem LedgerView.spares_altering (table : String) (other : Connection τ)
    {identity forward back : String} (context : Context) :
    ∀ migration ∈ [Migration.altering identity forward back],
      (withLedger table other).Spares (migration.act context) := by
  refine List.forall_mem_singleton.2 ?_
  unfold Migration.act
  cases context.direction with
  | up => exact spares_alter table other forward
  | down => exact spares_alter table other back

end SchemaLedger
