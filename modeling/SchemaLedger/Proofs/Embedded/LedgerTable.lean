import SchemaLedger.Embedded.Store
import SchemaLedger.Proofs.History.Course
import SchemaLedger.Proofs.History.NameSet

/-! # The ledger table of the embedded database

The embedded database makes the ledger table under a name in double quotes, and the ledger finds it
under a name between backticks. Each statement, read in its own quotes, names the table that the
other names, and what stands behind the name is the same for all tables.
-/

namespace SchemaLedger

set_option autoImplicit false

open Text

variable {σ : Type}

/-- The first name that stands between two such quotes, and what follows its closing quote. A quote
that is written twice belongs to the name. -/
def quotedName? (quote : Char) (statement : String) : Option (String × String) :=
  (readDoubled? quote ((statement.toList.dropWhile (· ≠ quote)).drop 1)).map fun (name, rest) =>
    (String.ofList name, String.ofList rest)

theorem quotedName?_append {quote : Char} {start : String} (name : String) {rest : String}
    (hstart : quote ∉ start.toList) (hrest : rest.toList.head? ≠ some quote) :
    quotedName? quote (start ++ quoted quote name ++ rest) = some (name, rest) := by
  have hdrop : (start ++ quoted quote name ++ rest).toList.dropWhile (· ≠ quote) =
      quote :: (doubled quote name.toList ++ quote :: rest.toList) := by
    have hskip : ∀ c ∈ start.toList, decide (c ≠ quote) = true := by
      intro c hc
      exact decide_eq_true fun heq => hstart (heq ▸ hc)
    rw [String.append_assoc, String.toList_append, List.dropWhile_append_of_pos hskip]
    simp [quoted]
  rw [quotedName?, hdrop, List.drop_one, List.tail_cons, readDoubled?_doubled name.toList _ hrest]
  simp

namespace LedgerStatement

def lead : LedgerStatement → String
  | create => "CREATE TABLE "
  | drop => "DROP TABLE IF EXISTS "
  | select _ => "SELECT * FROM "
  | insert _ => "INSERT INTO "
  | delete _ => "DELETE FROM "

def tail : LedgerStatement → String
  | create => " ( " ++ columns ++ " )"
  | drop => ""
  | select name => " WHERE `name` = " ++ quoted '\'' name ++ " LIMIT 1"
  | insert name => " (`name`) VALUES (" ++ quoted '\'' name ++ ")"
  | delete name => " WHERE `name` = " ++ quoted '\'' name

theorem tail_create : tail create = " ( " ++ columns ++ " )" := rfl

theorem tail_drop : tail drop = "" := rfl

theorem tail_select (name : String) :
    tail (select name) = " WHERE `name` = " ++ quoted '\'' name ++ " LIMIT 1" := rfl

theorem tail_insert (name : String) :
    tail (insert name) = " (`name`) VALUES (" ++ quoted '\'' name ++ ")" := rfl

theorem tail_delete (name : String) :
    tail (delete name) = " WHERE `name` = " ++ quoted '\'' name := rfl

theorem text_eq (table : String) (statement : LedgerStatement) :
    statement.text table = statement.lead ++ table ++ statement.tail := by
  cases statement with
  | create => rw [text_create, lead, tail_create, ← String.append_assoc, ← String.append_assoc]
  | drop => rw [text_drop, lead, tail_drop, String.append_empty]
  | select name => rw [text_select, lead, tail_select, ← String.append_assoc, ← String.append_assoc]
  | insert name => rw [text_insert, lead, tail_insert, ← String.append_assoc, ← String.append_assoc]
  | delete name => rw [text_delete, lead, tail_delete, ← String.append_assoc]

theorem quote_notMem_lead (statement : LedgerStatement) :
    MySql.identifierQuote ∉ statement.lead.toList := by
  cases statement <;> rw [lead] <;> decide

theorem head?_tail (statement : LedgerStatement) :
    statement.tail.toList.head? = none ∨ statement.tail.toList.head? = some ' ' := by
  cases statement with
  | drop => exact .inl rfl
  | create =>
    rw [tail_create, String.append_assoc, String.toList_append]
    exact .inr rfl
  | select name =>
    rw [tail_select, String.append_assoc, String.toList_append]
    exact .inr rfl
  | insert name =>
    rw [tail_insert, String.append_assoc, String.toList_append]
    exact .inr rfl
  | delete name =>
    rw [tail_delete, String.toList_append]
    exact .inr rfl

theorem tail_apart (statement : LedgerStatement) :
    statement.tail.toList.head? ≠ some MySql.identifierQuote := by
  obtain hnone | hblank := statement.head?_tail
  · simp [hnone]
  · rw [hblank]
    decide

theorem quotedName?_text (dialect : MySql) (table : String) (statement : LedgerStatement) :
    quotedName? MySql.identifierQuote (statement.text (dialect.tableName table)) =
      some (dialect.tablePrefix ++ table, statement.tail) := by
  rw [text_eq]
  exact quotedName?_append _ statement.quote_notMem_lead statement.tail_apart

end LedgerStatement

namespace Ledger

def Use.statement : Use → LedgerStatement
  | record name => .insert name
  | forget name => .delete name
  | lookup name => .select name

variable (ledger : Ledger) (dialect : MySql) (connection : Connection σ) (state : σ)

theorem exchanges_use (use : Use) :
    ((ledger.use dialect.grammar use).transcript connection state).exchanges =
      [⟨state, use.statement.channel, use.statement.text (ledger.tableIn dialect)⟩] := by
  cases use with
  | record name => exact congrArg Transcript.exchanges (ledger.transcript_record dialect name _ _)
  | forget name => exact congrArg Transcript.exchanges (ledger.transcript_forget dialect name _ _)
  | lookup name =>
    rw [use, Session.transcript_map, transcript_lookup, Query.transcript_read]
    rfl

theorem sent_use (use : Use) : ((ledger.use dialect.grammar use).run connection state).sent =
    [(use.statement.channel, use.statement.text (ledger.tableIn dialect))] := by
  rw [(Session.run_transcript connection _ state).2.2, Transcript.sent, exchanges_use]
  rfl

/-- Asking for the status of a name sends what looking it up sends. -/
theorem sent_status (name : String) :
    ((ledger.status dialect.grammar name).run connection state).sent =
      ((ledger.use dialect.grammar (.lookup name)).run connection state).sent := by
  have hstatus := Migrator.transcript_status ⟨{ ledgerTable := ledger.table }, dialect, []⟩
    connection { identity := "", name } state
  have hrun := (Script.run_transcript connection (ledger.status dialect.grammar name) state).2.2
  rw [hrun, (Session.run_transcript connection _ state).2.2, use, Session.transcript_map]
  exact congrArg Transcript.sent hstatus

end Ledger

namespace Embedded

/-- What the statement says behind the name of the table. -/
def ledgerTableColumns : String :=
  " (\n" ++
    "                id INTEGER PRIMARY KEY AUTOINCREMENT,\n" ++
    "                name VARCHAR(255) NOT NULL,\n" ++
    "                created TIMESTAMP NOT NULL DEFAULT CURRENT_TIMESTAMP\n" ++
    "            )"

theorem quotedName?_ledgerTableStatement (tablePrefix table : String) :
    quotedName? '"' (ledgerTableStatement tablePrefix table) =
      some (tablePrefix ++ table, ledgerTableColumns) := by
  have hstatement : ledgerTableStatement tablePrefix table =
      "CREATE TABLE IF NOT EXISTS " ++ quoted '"' (tablePrefix ++ table) ++ ledgerTableColumns := by
    delta ledgerTableStatement ledgerTableColumns
    rw [← String.append_assoc, ← String.append_assoc, ← String.append_assoc, ← String.append_assoc]
  have hcolumns : ledgerTableColumns.toList.head? = some ' ' := by
    delta ledgerTableColumns
    rw [String.append_assoc, String.append_assoc, String.append_assoc, String.toList_append]
    rfl
  rw [hstatement]
  exact quotedName?_append _ (by decide) (by rw [hcolumns]; decide)

theorem sent_ensureLedger (connection : Connection σ) (tablePrefix table : String) (state : σ) :
    ((ensureLedger tablePrefix table).run connection state).sent =
      [(.execute, ledgerTableStatement tablePrefix table)] := by
  rw [(Session.run_transcript connection _ state).2.2, ensureLedger, Session.transcript_bind]
  cases h : ((Session.execute (ledgerTableStatement tablePrefix table)).transcript connection
    state).result <;> simp [Transcript.andThen, h, Session.proceed] <;> rfl

/-- The table that is made if it is missing is the one that every use of the ledger names, and
asking for a status too: the prefix of the connection with the name of the ledger table behind
it. -/
theorem ledger_table_ensured (connection : Connection σ) (limit : UInt64) (ledger : Ledger)
    (state : σ) :
    let dialect : MySql := { tablePrefix := connection.tablePrefix, defaultLimit := limit }
    let table := connection.tablePrefix ++ ledger.table
    (∃ statement, ((ensureLedger connection.tablePrefix ledger.table).run connection state).sent =
        [(.execute, statement)] ∧
      quotedName? '"' statement = some (table, ledgerTableColumns)) ∧
    (∀ use : Ledger.Use, ∃ statement,
      ((ledger.use dialect.grammar use).run connection state).sent =
        [(use.statement.channel, statement)] ∧
      quotedName? MySql.identifierQuote statement = some (table, use.statement.tail)) ∧
    ∀ name, ((ledger.status dialect.grammar name).run connection state).sent =
      ((ledger.use dialect.grammar (.lookup name)).run connection state).sent := by
  intro dialect table
  refine ⟨⟨_, sent_ensureLedger .., quotedName?_ledgerTableStatement ..⟩, fun use => ?_,
    ledger.sent_status dialect connection state⟩
  exact ⟨_, ledger.sent_use dialect connection state use,
    use.statement.quotedName?_text dialect ledger.table⟩

end Embedded

end SchemaLedger
