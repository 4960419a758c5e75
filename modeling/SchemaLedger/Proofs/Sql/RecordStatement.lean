import SchemaLedger.Proofs.Text.IntegerText
import SchemaLedger.Proofs.Text.Readable
import SchemaLedger.Sql.MySql

/-! # Statements about rows are read in one way only

What a statement that reads or writes rows says: its kind, its table, the fields that it writes, the
predicates that filter the rows, the operator between them and the limit. Two such statements with
the same text say the same, whatever quotes, words or whole statements their names and values hold.
-/

namespace SchemaLedger

set_option autoImplicit false

open Text

theorem Compiled.one_inj {statement other : String} :
    Compiled.one statement = .one other ↔ statement = other := by
  simp [Compiled.one]

/-- A key with the text of its value, or with nothing for Null. -/
abbrev Field := String × Option String

def Value.sqlText? (value : Value) : Option String :=
  if value.isNull then none else some value.sqlText

def fieldsOf (entries : List (String × Value)) : List Field :=
  entries.map fun (key, value) => (key, value.sqlText?)

namespace Command

/-- The fields that a command writes. -/
def fields : Command → List Field
  | insert data | update data => fieldsOf data.entries
  | _ => []

def IsRecord (command : Command) : Prop :=
  command.kind ∈ [.insert, .update, .delete, .find]

instance (command : Command) : Decidable command.IsRecord :=
  inferInstanceAs (Decidable (_ ∈ _))

theorem isRecord_iff {command : Command} : command.IsRecord ↔
    (∃ data, command = insert data) ∨ (∃ data, command = update data) ∨ command = delete ∨
      command = find := by
  cases command <;> simp [IsRecord, kind]

end Command

namespace MySql

variable (dialect : MySql) (source : Source)

/-- The predicates that filter the rows. -/
def predicates : List Field :=
  fieldsOf (filters source)

/-- The number of rows that a read asks for, if it is limited. -/
def rowLimit : Option Int :=
  match (source.clause.get "limit").asLong? with
  | some limit => some limit.toInt
  | none => if source.unbounded then none else some dialect.defaultLimit.toNat

def valueText (text : Option String) : String :=
  text.elim "NULL" (quoted '\'')

def comparisonText (text : Option String) : String :=
  text.elim " IS NULL" fun text => " = " ++ quoted '\'' text

def predicateText (field : Field) : String :=
  identifier field.1 ++ comparisonText field.2

def assignmentText (field : Field) : String :=
  identifier field.1 ++ ("=" ++ valueText field.2)

def whereText (operator : Operator) (predicates : List Field) : String :=
  match predicates.map predicateText with
  | [] => ""
  | texts => " WHERE " ++ joined (" " ++ operator.sql ++ " ") texts

def limitText : Option Int → String
  | none => ""
  | some limit => " LIMIT " ++ toString limit

def insertText (table : String) (fields : List Field) : String :=
  "INSERT INTO " ++ dialect.tableName table ++ " (" ++ identifiers (fields.map Prod.fst) ++
    ") VALUES (" ++ joined ", " ((fields.map Prod.snd).map valueText) ++ ")"

def updateText (table : String) (fields : List Field) (operator : Operator)
    (predicates : List Field) : String :=
  "UPDATE " ++ dialect.tableName table ++ " SET " ++ joined ", " (fields.map assignmentText) ++
    whereText operator predicates

def deleteText (table : String) (operator : Operator) (predicates : List Field) : String :=
  "DELETE FROM " ++ dialect.tableName table ++ whereText operator predicates

def findText (table : String) (operator : Operator) (predicates : List Field)
    (limit : Option Int) : String :=
  "SELECT * FROM " ++ dialect.tableName table ++ whereText operator predicates ++ limitText limit

theorem assigned_eq (value : Value) : assigned value = valueText value.sqlText? := by
  unfold assigned Value.sqlText?
  split <;> rfl

theorem equation_eq (key : String) (value : Value) :
    equation key value = predicateText (key, value.sqlText?) := by
  unfold equation predicateText Value.sqlText?
  split <;> simp [comparisonText, Value.literal, String.append_assoc]

theorem whereClause_eq : whereClause source = whereText source.operator (predicates source) := by
  have htexts : ((filters source).map fun (key, value) => equation key value) =
      (predicates source).map predicateText := by
    simp [predicates, fieldsOf, equation_eq]
  rw [whereClause, htexts]
  rfl

theorem limitClause_eq : dialect.limitClause source true = limitText (dialect.rowLimit source) := by
  unfold limitClause rowLimit
  cases (source.clause.get "limit").asLong? with
  | some limit => rfl
  | none => cases source.unbounded <;> rfl

theorem insert_eq (data : Bag) : dialect.insert source data =
    if fieldsOf data.entries = [] then .error (Malformed.noInsertData source.table).error
    else .ok (.one (dialect.insertText source.table (fieldsOf data.entries))) := by
  unfold MySql.insert Bag.isEmpty insertText
  cases hentries : data.entries with
  | nil => rfl
  | cons entry rest =>
    simp [Bag.keys, Bag.values, hentries, identifiers, fieldsOf, assigned_eq, Function.comp_def,
      pure, Except.pure]

theorem update_eq (data : Bag) : dialect.update source data =
    if fieldsOf data.entries = [] then .error (Malformed.noUpdateData source.table).error
    else .ok (.one (dialect.updateText source.table (fieldsOf data.entries) source.operator
      (predicates source))) := by
  unfold MySql.update Bag.isEmpty updateText
  cases hentries : data.entries with
  | nil => rfl
  | cons entry rest =>
    simp [fieldsOf, assigned_eq, assignmentText, whereClause_eq, Function.comp_def, pure,
      Except.pure, String.append_assoc]

theorem delete_eq_deleteText : dialect.delete source =
    dialect.deleteText source.table source.operator (predicates source) := by
  unfold MySql.delete deleteText
  rw [whereClause_eq]

theorem find_eq_findText : dialect.find source =
    dialect.findText source.table source.operator (predicates source) (dialect.rowLimit source) := by
  unfold MySql.find findText
  rw [whereClause_eq, limitClause_eq]

theorem readable_identifier : Readable (Apart identifierQuote) identifier :=
  readable_quoted identifierQuote

theorem readable_tableName : Readable (Apart identifierQuote) dialect.tableName :=
  readable_identifier.comp fun _ _ h => String.append_right_inj dialect.tablePrefix |>.1 h

theorem readable_valueText : Readable (Apart '\'') valueText :=
  (readable_quoted '\'').option fun text r s _ => by simp [quoted]

theorem readable_comparisonText : Readable (Apart '\'') comparisonText :=
  ((readable_quoted '\'').behind " = ").option fun text r s _ => by simp

theorem readable_assignmentText : Readable (Apart '\'') assignmentText := by
  have hbetween : ∀ value r, Apart '\'' r →
      Apart identifierQuote (("=" ++ valueText value).toList ++ r) := by
    intro value r _
    simp [Apart, identifierQuote]
  exact (readable_identifier.pair (readable_valueText.behind "=") hbetween :)

theorem readable_predicateText : Readable (Apart '\'') predicateText := by
  refine readable_identifier.pair readable_comparisonText ?_
  intro value r _
  cases value <;> simp [Apart, identifierQuote, comparisonText]

/-- What may stand behind the predicates: the end or a limit. -/
def BehindFilter (rest : List Char) : Prop :=
  rest = [] ∨ " LIMIT ".toList <+: rest

theorem behindFilter_limitText (limit : Option Int) : BehindFilter (limitText limit).toList := by
  cases limit with
  | none => exact .inl rfl
  | some limit => exact .inr ⟨(toString limit).toList, (String.toList_append).symm⟩

theorem limitText_injective : Function.Injective limitText := by
  rintro (_ | a) (_ | b) h
  · rfl
  · simp [limitText] at h
  · simp [limitText] at h
  · rw [limitText, limitText, String.append_right_inj] at h
    rw [toString_int_injective h]

theorem BehindFilter.apart {rest : List Char} (h : BehindFilter rest) : Apart '\'' rest := by
  obtain rfl | ⟨more, rfl⟩ := h <;> simp [Apart]

theorem BehindFilter.not_where {rest : List Char} (h : BehindFilter rest) :
    ¬ " WHERE ".toList <+: rest := by
  obtain rfl | ⟨more, rfl⟩ := h <;> simp

theorem BehindFilter.not_operator {rest : List Char} (h : BehindFilter rest) (operator : Operator) :
    ¬ (" " ++ operator.sql ++ " ").toList <+: rest := by
  obtain rfl | ⟨more, rfl⟩ := h <;> cases operator <;> simp [Operator.sql]

theorem eq_of_operator (o p : Operator) (u v : List Char)
    (h : (" " ++ o.sql ++ " ").toList ++ u = (" " ++ p.sql ++ " ").toList ++ v) : o = p := by
  cases o <;> cases p <;> simp [Operator.sql] at h ⊢

theorem whereText_cons (operator : Operator) (field : Field) (fields : List Field) :
    whereText operator (field :: fields) =
      " WHERE " ++ joined (" " ++ operator.sql ++ " ") ((field :: fields).map predicateText) := rfl

theorem eq_of_whereText {o p : Operator} {xs ys : List Field} {r s : List Char}
    (hr : BehindFilter r) (hs : BehindFilter s)
    (h : (whereText o xs).toList ++ r = (whereText p ys).toList ++ s) :
    xs = ys ∧ (1 < xs.length → o = p) ∧ r = s := by
  cases xs with
  | nil =>
    cases ys with
    | nil => exact ⟨rfl, fun hlength => absurd hlength (by simp), h⟩
    | cons y ys =>
      rw [whereText_cons, String.toList_append, List.append_assoc] at h
      exact absurd ⟨_, h.symm⟩ hr.not_where
  | cons x xs =>
    cases ys with
    | nil =>
      rw [whereText_cons, String.toList_append, List.append_assoc] at h
      exact absurd ⟨_, h⟩ hs.not_where
    | cons y ys =>
      rw [whereText_cons, whereText_cons, String.toList_append, String.toList_append,
        List.append_assoc, List.append_assoc] at h
      refine readable_predicateText.joined eq_of_operator ?_ (List.cons_ne_nil x xs)
        (List.cons_ne_nil y ys) ⟨hr.apart, hr.not_operator⟩ ⟨hs.apart, hs.not_operator⟩
        (List.append_cancel_left h)
      intro operator rest
      simp [Apart]

theorem eq_of_assignments {xs ys : List Field} (hxs : xs ≠ []) (hys : ys ≠ []) {o p : Operator}
    {us vs : List Field}
    (h : (joined ", " (xs.map assignmentText)).toList ++ (whereText o us).toList =
      (joined ", " (ys.map assignmentText)).toList ++ (whereText p vs).toList) :
    xs = ys ∧ whereText o us = whereText p vs := by
  have hapart : ∀ o fields, Apart '\'' (whereText o fields).toList ∧
      ¬ ", ".toList <+: (whereText o fields).toList := by
    intro o fields
    cases fields <;> simp [whereText, Apart]
  obtain ⟨hfields, hfilters⟩ := readable_assignmentText.joined_same (by simp [Apart]) hxs hys
    (hapart o us) (hapart p vs) h
  exact ⟨hfields, String.toList_inj.1 hfilters⟩

theorem eq_of_insertText {table other : String} {xs ys : List Field} (hxs : xs ≠ []) (hys : ys ≠ [])
    (h : dialect.insertText table xs = dialect.insertText other ys) : table = other ∧ xs = ys := by
  have htexts := congrArg String.toList h
  unfold insertText at htexts
  simp only [String.toList_append, List.append_assoc, List.append_cancel_left_eq] at htexts
  -- the table, the keys and the values are read one after the other
  obtain ⟨htable, hlists⟩ := dialect.readable_tableName _ _ _ _ (apart_append _ (by decide))
    (apart_append _ (by decide)) htexts
  obtain ⟨hkeys, hbehind⟩ := readable_identifier.joined_same (fun _ => apart_append _ (by decide))
    (by simpa using hxs) (by simpa using hys) ⟨apart_append _ (by decide), by simp⟩
    ⟨apart_append _ (by decide), by simp⟩ (List.append_cancel_left hlists)
  obtain ⟨hvalues, -⟩ := readable_valueText.joined_same (fun _ => apart_append _ (by decide))
    (by simpa using hxs) (by simpa using hys) (by simp [Apart]) (by simp [Apart])
    (List.append_cancel_left hbehind)
  exact ⟨htable, (List.zip_of_prod hkeys hvalues).trans (List.zip_of_prod rfl rfl).symm⟩

theorem eq_of_updateText {table other : String} {xs ys : List Field} (hxs : xs ≠ []) (hys : ys ≠ [])
    {o p : Operator} {us vs : List Field}
    (h : dialect.updateText table xs o us = dialect.updateText other ys p vs) :
    table = other ∧ xs = ys ∧ us = vs ∧ (1 < us.length → o = p) := by
  have htexts := congrArg String.toList h
  unfold updateText at htexts
  simp only [String.toList_append, List.append_assoc, List.append_cancel_left_eq] at htexts
  obtain ⟨htable, hbehind⟩ := dialect.readable_tableName _ _ _ _ (apart_append _ (by decide))
    (apart_append _ (by decide)) htexts
  obtain ⟨hfields, hfilters⟩ := eq_of_assignments hxs hys (List.append_cancel_left hbehind)
  obtain ⟨hpredicates, hoperator, -⟩ :=
    eq_of_whereText (.inl rfl) (.inl rfl) (congrArg (·.toList ++ []) hfilters)
  exact ⟨htable, hfields, hpredicates, hoperator⟩

theorem apart_whereText (operator : Operator) (fields : List Field) {rest : List Char}
    (h : BehindFilter rest) :
    Apart identifierQuote ((whereText operator fields).toList ++ rest) := by
  cases fields with
  | nil => obtain rfl | ⟨more, rfl⟩ := h <;> simp [whereText, Apart, identifierQuote]
  | cons field fields => simp [whereText, Apart, identifierQuote]

theorem eq_of_deleteText {table other : String} {o p : Operator} {us vs : List Field}
    (h : dialect.deleteText table o us = dialect.deleteText other p vs) :
    table = other ∧ us = vs ∧ (1 < us.length → o = p) := by
  have htexts := congrArg (·.toList ++ []) h
  unfold deleteText at htexts
  simp only [String.toList_append, List.append_assoc, List.append_cancel_left_eq] at htexts
  obtain ⟨htable, hbehind⟩ := dialect.readable_tableName _ _ _ _ (apart_whereText o us (.inl rfl))
    (apart_whereText p vs (.inl rfl)) htexts
  obtain ⟨hpredicates, hoperator, -⟩ := eq_of_whereText (.inl rfl) (.inl rfl) hbehind
  exact ⟨htable, hpredicates, hoperator⟩

theorem eq_of_findText {table other : String} {o p : Operator} {us vs : List Field}
    {limit bound : Option Int}
    (h : dialect.findText table o us limit = dialect.findText other p vs bound) :
    table = other ∧ us = vs ∧ (1 < us.length → o = p) ∧ limit = bound := by
  have htexts := congrArg String.toList h
  unfold findText at htexts
  simp only [String.toList_append, List.append_assoc, List.append_cancel_left_eq] at htexts
  have hlimit := behindFilter_limitText limit
  have hbound := behindFilter_limitText bound
  obtain ⟨htable, hbehind⟩ := dialect.readable_tableName _ _ _ _ (apart_whereText o us hlimit)
    (apart_whereText p vs hbound) htexts
  obtain ⟨hpredicates, hoperator, hlimits⟩ := eq_of_whereText hlimit hbound hbehind
  exact ⟨htable, hpredicates, hoperator, limitText_injective (String.toList_inj.1 hlimits)⟩

def recordText (command : Command) : String :=
  match command.kind with
  | .insert => dialect.insertText source.table command.fields
  | .update =>
      dialect.updateText source.table command.fields source.operator (predicates source)
  | .delete => dialect.deleteText source.table source.operator (predicates source)
  | _ => dialect.findText source.table source.operator (predicates source) (dialect.rowLimit source)

variable {dialect source}

/-- What is compiled is the text of the command, and what writes fields has some to write. -/
theorem recordText_of_compile {command : Command} {statement : String} (hrecord : command.IsRecord)
    (h : dialect.compile source command = .ok (.one statement)) :
    statement = dialect.recordText source command ∧
      (command.kind = .insert ∨ command.kind = .update → command.fields ≠ []) := by
  obtain ⟨data, rfl⟩ | ⟨data, rfl⟩ | rfl | rfl := Command.isRecord_iff.1 hrecord
  · rw [compile, insert_eq] at h
    split at h
    · cases h
    · next hfields => cases h; exact ⟨rfl, fun _ => hfields⟩
  · rw [compile, update_eq] at h
    split at h
    · cases h
    · next hfields => cases h; exact ⟨rfl, fun _ => hfields⟩
  · rw [compile, delete_eq_deleteText] at h
    cases h
    exact ⟨rfl, by simp [Command.kind]⟩
  · rw [compile, find_eq_findText] at h
    cases h
    exact ⟨rfl, by simp [Command.kind]⟩

/-- The first letter tells the kind. -/
def initial : CommandKind → Char
  | .insert => 'I'
  | .update => 'U'
  | .delete => 'D'
  | _ => 'S'

theorem head?_recordText (command : Command) :
    (dialect.recordText source command).toList.head? = some (initial command.kind) := by
  unfold recordText initial insertText updateText deleteText findText
  split <;> simp [String.append_assoc]

theorem kind_eq_of_recordText {first second : Source} {c d : Command} (hc : c.IsRecord)
    (hd : d.IsRecord) (h : dialect.recordText first c = dialect.recordText second d) :
    c.kind = d.kind := by
  have hinitial : initial c.kind = initial d.kind := by
    rw [← Option.some_inj, ← head?_recordText, ← head?_recordText, h]
  simp only [Command.IsRecord, List.mem_cons, List.not_mem_nil, or_false] at hc hd
  rcases hc with hc | hc | hc | hc <;> rcases hd with hd | hd | hd | hd <;>
    simp [hc, hd, initial] at hinitial ⊢

/-- A statement about rows determines what was compiled into it. -/
theorem record_statement_unambiguous {first second : Source} {c d : Command} {statement : String}
    (hc : c.IsRecord) (hd : d.IsRecord) (hfirst : dialect.compile first c = .ok (.one statement))
    (hsecond : dialect.compile second d = .ok (.one statement)) :
    c.kind = d.kind ∧ first.table = second.table ∧ c.fields = d.fields ∧
      (c.kind ≠ .insert → predicates first = predicates second ∧
        (2 ≤ (predicates first).length → first.operator = second.operator)) ∧
      (c.kind = .find → dialect.rowLimit first = dialect.rowLimit second) := by
  obtain ⟨htext, hfields⟩ := recordText_of_compile hc hfirst
  obtain ⟨htext', hfields'⟩ := recordText_of_compile hd hsecond
  have htexts : dialect.recordText first c = dialect.recordText second d := htext.symm.trans htext'
  have hkind := kind_eq_of_recordText hc hd htexts
  refine ⟨hkind, ?_⟩
  unfold recordText at htexts
  rw [← hkind] at htexts hfields'
  obtain ⟨data, rfl⟩ | ⟨data, rfl⟩ | rfl | rfl := Command.isRecord_iff.1 hc
  · obtain ⟨htable, hdata⟩ :=
      dialect.eq_of_insertText (hfields (.inl rfl)) (hfields' (.inl rfl)) htexts
    exact ⟨htable, hdata, fun hne => absurd rfl hne, nofun⟩
  · obtain ⟨htable, hdata, hpredicates, hoperator⟩ :=
      dialect.eq_of_updateText (hfields (.inr rfl)) (hfields' (.inr rfl)) htexts
    exact ⟨htable, hdata, fun _ => ⟨hpredicates, hoperator⟩, nofun⟩
  · obtain ⟨htable, hpredicates, hoperator⟩ := dialect.eq_of_deleteText htexts
    obtain ⟨data, rfl⟩ | ⟨data, rfl⟩ | rfl | rfl := Command.isRecord_iff.1 hd <;> cases hkind
    exact ⟨htable, rfl, fun _ => ⟨hpredicates, hoperator⟩, nofun⟩
  · obtain ⟨htable, hpredicates, hoperator, hlimit⟩ := dialect.eq_of_findText htexts
    obtain ⟨data, rfl⟩ | ⟨data, rfl⟩ | rfl | rfl := Command.isRecord_iff.1 hd <;> cases hkind
    exact ⟨htable, rfl, fun _ => ⟨hpredicates, hoperator⟩, fun _ => hlimit⟩

theorem fields_same_statement :
    let dialect : MySql := { tablePrefix := "app_" }
    let source : Source :=
      { table := "a` SET `b", commands := []
        clauses := [.single "name" (.text "x' OR 'y"), .single "age" .null], operator := .or }
    let statement :=
      "UPDATE `app_a`` SET ``b` SET `age`='5' WHERE `name` = 'x'' OR ''y' OR `age` IS NULL"
    let c := Command.update (.single "age" (.int 5))
    let d := Command.update (.single "age" (.text "5"))
    dialect.compile source c = .ok (.one statement) ∧
      dialect.compile source d = .ok (.one statement) ∧ c.fields = d.fields := by
  intro dialect source statement c d
  have hcompile : ∀ data : Bag, fieldsOf data.entries = [("age", some "5")] →
      dialect.compile source (.update data) = .ok (.one statement) := by
    intro data hfields
    have htext : dialect.updateText source.table [("age", some "5")] source.operator
        (predicates source) = statement := by decide +kernel
    rw [compile, update_eq, hfields, htext]
    rfl
  have hc : dialect.compile source c = .ok (.one statement) := hcompile _ (by decide +kernel)
  have hd : dialect.compile source d = .ok (.one statement) := hcompile _ (by decide +kernel)
  exact ⟨hc, hd, (record_statement_unambiguous (by decide) (by decide) hc hd).2.2.1⟩

end MySql

end SchemaLedger
