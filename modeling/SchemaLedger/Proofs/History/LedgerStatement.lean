import SchemaLedger.History.Migrator
import SchemaLedger.Proofs.Exchange.Transcript
import SchemaLedger.Proofs.Text.Readable

/-! # The statements about the ledger table

The ledger and the bootstrap migration know five kinds of statements. Each of their operations sends
exactly one, whatever the connection answers, and different statements have different texts.
-/

namespace SchemaLedger

set_option autoImplicit false

open Text

variable {σ : Type}

inductive LedgerStatement where
  | create
  | drop
  | select (name : String)
  | insert (name : String)
  | delete (name : String)
  deriving DecidableEq

namespace LedgerStatement

def columns : String :=
  "`id` int UNSIGNED NOT NULL AUTO_INCREMENT PRIMARY KEY, `name` varchar(255) NOT NULL, " ++
    "`created` timestamp default CURRENT_TIMESTAMP NOT NULL"

/-- The statement about a table that is given as statements name it, with its quotes. -/
def text (table : String) : LedgerStatement → String
  | create => "CREATE TABLE " ++ table ++ " ( " ++ columns ++ " )"
  | drop => "DROP TABLE IF EXISTS " ++ table
  | select name => "SELECT * FROM " ++ table ++ " WHERE `name` = " ++ quoted '\'' name ++ " LIMIT 1"
  | insert name => "INSERT INTO " ++ table ++ " (`name`) VALUES (" ++ quoted '\'' name ++ ")"
  | delete name => "DELETE FROM " ++ table ++ " WHERE `name` = " ++ quoted '\'' name

def channel : LedgerStatement → Channel
  | select _ => .query
  | _ => .execute

/-- The name whose row the statement is about. -/
def name? : LedgerStatement → Option String
  | select name | insert name | delete name => some name
  | _ => none

section

variable (table name : String)

theorem text_create :
    text table create = "CREATE TABLE " ++ table ++ " ( " ++ columns ++ " )" := rfl

theorem text_drop : text table drop = "DROP TABLE IF EXISTS " ++ table := rfl

theorem text_select : text table (select name) =
    "SELECT * FROM " ++ table ++ " WHERE `name` = " ++ quoted '\'' name ++ " LIMIT 1" := rfl

theorem text_insert : text table (insert name) =
    "INSERT INTO " ++ table ++ " (`name`) VALUES (" ++ quoted '\'' name ++ ")" := rfl

theorem text_delete : text table (delete name) =
    "DELETE FROM " ++ table ++ " WHERE `name` = " ++ quoted '\'' name := rfl

end

def initials : LedgerStatement → List Char
  | create => ['C', 'R']
  | drop => ['D', 'R']
  | select _ => ['S', 'E']
  | insert _ => ['I', 'N']
  | delete _ => ['D', 'E']

theorem take_text (table : String) (statement : LedgerStatement) :
    (statement.text table).toList.take 2 = statement.initials := by
  cases statement with
  | create => rw [text_create]; simp only [String.toList_append]; rfl
  | drop => rw [text_drop]; simp only [String.toList_append]; rfl
  | select name => rw [text_select]; simp only [String.toList_append]; rfl
  | insert name => rw [text_insert]; simp only [String.toList_append]; rfl
  | delete name => rw [text_delete]; simp only [String.toList_append]; rfl

theorem text_injective (table : String) : Function.Injective (text table) := by
  intro a b h
  have hkind : a.initials = b.initials := by rw [← take_text table, h, take_text]
  cases a <;> cases b <;> simp [initials] at hkind
  case create.create => rfl
  case drop.drop => rfl
  case select.select a b =>
    rw [text_select, text_select, String.append_left_inj, String.append_right_inj] at h
    rw [quoted_injective '\'' h]
  case insert.insert a b =>
    rw [text_insert, text_insert, String.append_left_inj, String.append_right_inj] at h
    rw [quoted_injective '\'' h]
  case delete.delete a b =>
    rw [text_delete, text_delete, String.append_right_inj] at h
    rw [quoted_injective '\'' h]

end LedgerStatement

/-- The transcript of a session that sends one statement for its effect. -/
def Connection.carry (connection : Connection σ) (statement : String) (state : σ) :
    Transcript σ (Except Error Unit) :=
  ⟨((connection.execute statement state).1.mapError (.ofStatement statement)).map fun _ => (),
    (connection.execute statement state).2, [⟨state, .execute, statement⟩]⟩

namespace Query

theorem transcript_read (connection : Connection σ) (statement : String) (state : σ) :
    (read statement).transcript connection state =
      ⟨(connection.query statement state).1.mapError (.ofStatement statement),
        (connection.query statement state).2, [⟨state, .query, statement⟩]⟩ := by
  change ((Session.query statement).mapError (.ofStatement statement)).transcript connection
    state = _
  rw [Session.transcript_mapError]
  rfl

theorem transcript_write (connection : Connection σ) (statement : String) (state : σ) :
    ((fun _ => ()) <$> write statement).transcript connection state =
      connection.carry statement state := by
  change ((fun _ => ()) <$> (Session.execute statement).mapError
    (.ofStatement statement)).transcript connection state = _
  rw [Session.transcript_map, Session.transcript_mapError]
  rfl

theorem resultsOf_find (dialect : MySql) (source : Source) :
    resultsOf dialect.grammar source [.find] = read (dialect.find source) := by
  have hcompile : dialect.grammar.compile source .find = .ok (.one (dialect.find source)) := rfl
  simp only [resultsOf, hcompile]
  change (do
    let compiled ← (pure (.one (dialect.find source)) : Session Compiled)
    let rows ← perform .find compiled.toList
    pure (rows ++ (← pure []))) = _
  simp [Compiled.toList, Compiled.one, perform]

theorem run_eq_write {dialect : MySql} (query : Query) {command : Command} {statement : String}
    (hcommands : query.commands = [command])
    (hcompile : dialect.grammar.compile query.source command = .ok (.one statement)) :
    query.run dialect.grammar = (0 + ·) <$> write statement := by
  have hcommands : query.source.commands = [command] := hcommands
  simp only [Query.run, Grammar.statements, Grammar.compileAll, Grammar.compileEach,
    Grammar.missing, hcommands, hcompile, Compiled.one, Compiled.toList]
  change (do
    let statements ← (do
      let _ ← (pure PUnit.unit : Session PUnit)
      (pure [statement] : Session (List String)))
    writeAll 0 statements) = _
  simp [writeAll]

end Query

namespace Blueprint

theorem transcript_send (connection : Connection σ) (statement : String) (state : σ) :
    (send statement).transcript connection state = connection.carry statement state := by
  change (((Session.execute statement).mapError (.ofStatement statement)) >>= fun _ =>
    pure ()).transcript connection state = _
  rw [bind_pure_comp, Session.transcript_map, Session.transcript_mapError]
  rfl

theorem build_eq_send (dialect : MySql) {blueprint : Blueprint} (command : Command)
    {statement : String} (hcommands : blueprint.addImplied.commands = [command])
    (hcompile : dialect.grammar.compile blueprint.addImplied.source command =
      .ok (.one statement)) :
    blueprint.build dialect.grammar = send statement := by
  have hcommands : blueprint.addImplied.source.commands = [command] := hcommands
  simp only [build, Grammar.statements, Grammar.compileAll, Grammar.compileEach, Grammar.missing,
    hcommands, hcompile, Compiled.one, Compiled.toList]
  change (do
    let statements ← (do
      let _ ← (pure PUnit.unit : Session PUnit)
      (pure [statement] : Session (List String)))
    statements.forM send) = _
  simp

end Blueprint

namespace MySql

variable (dialect : MySql) (source : Source)

theorem find_eq : dialect.find source =
    "SELECT * FROM " ++ dialect.tableName source.table ++ whereClause source ++
      dialect.limitClause source true := rfl

theorem delete_eq : dialect.delete source =
    "DELETE FROM " ++ dialect.tableName source.table ++ whereClause source := rfl

theorem insert_single (key : String) (value : Value) : dialect.insert source (.single key value) =
    .ok (.one ("INSERT INTO " ++ dialect.tableName source.table ++ " (" ++ identifier key ++
      ") VALUES (" ++ assigned value ++ ")")) := rfl

theorem whereClause_of_filters {source : Source} {key : String} {value : Value}
    (hfilters : filters source = [(key, value)]) :
    whereClause source = " WHERE " ++ equation key value := by
  simp only [whereClause, hfilters]
  rfl

end MySql

namespace Ledger

variable (ledger : Ledger) (dialect : MySql) (name : String)

/-- The ledger table as statements name it. -/
def tableIn : String :=
  dialect.tableName ledger.table

def lookupQuery : Query :=
  (({ table := ledger.table } : Query).find.whereEq "name" name).limit 1

def recordQuery : Query :=
  ({ table := ledger.table } : Query).insert (.single "name" name)

def forgetQuery : Query :=
  (({ table := ledger.table } : Query).whereEq "name" name).deleteWhere

theorem whereClause_name {source : Source}
    (hfilters : MySql.filters source = [("name", .text name)]) :
    MySql.whereClause source = " WHERE `name` = " ++ quoted '\'' name := by
  rw [MySql.whereClause_of_filters hfilters]
  change " WHERE " ++ ("`name` = " ++ quoted '\'' name) = _
  rw [← String.append_assoc]
  rfl

theorem find_lookupQuery :
    dialect.find (ledger.lookupQuery name).source =
      (LedgerStatement.select name).text (ledger.tableIn dialect) := by
  have hclause : (ledger.lookupQuery name).source.clause.entries =
      [("name", .text name), ("limit", .long 1)] := rfl
  have hlimit : dialect.limitClause (ledger.lookupQuery name).source true = " LIMIT 1" := by
    simp only [MySql.limitClause, Bag.get, Bag.get?, hclause]
    rfl
  rw [MySql.find_eq, hlimit, whereClause_name name rfl, LedgerStatement.text_select,
    ← String.append_assoc]
  rfl

theorem insert_recordQuery :
    dialect.insert (ledger.recordQuery name).source (.single "name" name) =
      .ok (.one ((LedgerStatement.insert name).text (ledger.tableIn dialect))) := by
  rw [MySql.insert_single, LedgerStatement.text_insert]
  change Except.ok (Compiled.one ("INSERT INTO " ++ ledger.tableIn dialect ++ " (" ++ "`name`" ++
    ") VALUES (" ++ quoted '\'' name ++ ")")) = _
  have hlist : " (`name`) VALUES (" = " (" ++ "`name`" ++ ") VALUES (" := rfl
  simp only [hlist, String.append_assoc]

theorem delete_forgetQuery :
    dialect.delete (ledger.forgetQuery name).source =
      (LedgerStatement.delete name).text (ledger.tableIn dialect) := by
  rw [MySql.delete_eq, whereClause_name name rfl, LedgerStatement.text_delete,
    ← String.append_assoc]
  rfl

theorem transcript_lookup (connection : Connection σ) (state : σ) :
    (ledger.lookup dialect.grammar name).transcript connection state =
      ((Query.read ((LedgerStatement.select name).text (ledger.tableIn dialect))).transcript
        connection state).map
          (·.map fun rows => rows.head?.map fun row => ⟨name, createdOf row⟩) := by
  have hresults : (ledger.lookupQuery name).results dialect.grammar =
      Query.read ((LedgerStatement.select name).text (ledger.tableIn dialect)) := by
    rw [← find_lookupQuery]
    exact Query.resultsOf_find dialect (ledger.lookupQuery name).source
  rw [← Session.transcript_map, ← hresults, ← bind_pure_comp]
  rfl

theorem transcript_record (connection : Connection σ) (state : σ) :
    (ledger.record dialect.grammar name).transcript connection state =
      connection.carry ((LedgerStatement.insert name).text (ledger.tableIn dialect)) state := by
  have hrun := Query.run_eq_write (ledger.recordQuery name) rfl
    (insert_recordQuery ledger dialect name)
  change ((ledger.recordQuery name).run dialect.grammar >>= fun _ => pure ()).transcript connection
    state = _
  rw [hrun, bind_pure_comp, ← comp_map, ← Query.transcript_write]

theorem transcript_forget (connection : Connection σ) (state : σ) :
    (ledger.forget dialect.grammar name).transcript connection state =
      connection.carry ((LedgerStatement.delete name).text (ledger.tableIn dialect)) state := by
  have hrun : (ledger.forgetQuery name).run dialect.grammar = (0 + ·) <$> Query.write
      ((LedgerStatement.delete name).text (ledger.tableIn dialect)) := by
    rw [← delete_forgetQuery]
    exact Query.run_eq_write _ rfl rfl
  change ((ledger.forgetQuery name).run dialect.grammar >>= fun _ => pure ()).transcript connection
    state = _
  rw [hrun, bind_pure_comp, ← comp_map, ← Query.transcript_write]

end Ledger

namespace Migration

variable (table : String) (dialect : MySql)

theorem create_bootstrap :
    dialect.create { table, columns := ledgerColumns, commands := [.create] } =
      .ok (.one (LedgerStatement.create.text (dialect.tableName table))) := by
  have hcolumns : joined ", " (ledgerColumns.map MySql.columnDefinition) =
      LedgerStatement.columns := by
    decide +kernel
  change Except.ok (Compiled.one ("CREATE TABLE " ++ dialect.tableName table ++ " ( " ++
    joined ", " (ledgerColumns.map MySql.columnDefinition) ++ " )")) = _
  rw [hcolumns]
  rfl

theorem transcript_up_bootstrap (direction : Direction) (connection : Connection σ) (state : σ) :
    ((bootstrap table).up ⟨direction, dialect.grammar⟩).transcript connection state =
      connection.carry (LedgerStatement.create.text (dialect.tableName table)) state := by
  have hup : (bootstrap table).up ⟨direction, dialect.grammar⟩ =
      Blueprint.send (LedgerStatement.create.text (dialect.tableName table)) :=
    Blueprint.build_eq_send dialect .create rfl (create_bootstrap table dialect)
  rw [hup, Blueprint.transcript_send]

theorem transcript_down_bootstrap (direction : Direction) (connection : Connection σ) (state : σ) :
    ((bootstrap table).down ⟨direction, dialect.grammar⟩).transcript connection state =
      connection.carry (LedgerStatement.drop.text (dialect.tableName table)) state := by
  have hdown : (bootstrap table).down ⟨direction, dialect.grammar⟩ =
      Blueprint.send (LedgerStatement.drop.text (dialect.tableName table)) :=
    Blueprint.build_eq_send dialect .dropIfExists rfl rfl
  rw [hdown, Blueprint.transcript_send]

end Migration

end SchemaLedger
