import SchemaLedger.Sql.Grammar
import SchemaLedger.Text.Parts

/-! # The MySQL grammar

Identifiers stand between backticks, every table name carries the prefix of the connection, and
values are written as quoted literals. A command that could only give an incomplete statement is
refused.
-/

namespace SchemaLedger

set_option autoImplicit false

open Text

structure MySql where
  tablePrefix : String
  /-- The number of rows that a read without a limit asks for. -/
  defaultLimit : UInt64 := 10
  deriving DecidableEq

inductive Malformed where
  | repeatedColumn (table column : String)
  | noDroppedColumns (table : String)
  | noIndexColumns (index : String)
  | noReferencedTable (key : String)
  | noKeyColumns (key : String)
  | noInsertData (table : String)
  | noUpdateData (table : String)
  deriving DecidableEq

namespace Malformed

def message : Malformed → String
  | repeatedColumn table column =>
      "column `" ++ column ++ "` is declared more than once on table " ++ table
  | noDroppedColumns table => "dropColumn on table " ++ table ++ " names no columns"
  | noIndexColumns index => "index `" ++ index ++ "` has no columns"
  | noReferencedTable key => "foreign key `" ++ key ++ "` has no referenced table"
  | noKeyColumns key => "foreign key `" ++ key ++ "` needs both local and referenced columns"
  | noInsertData table => "insert into " ++ table ++ " has no data"
  | noUpdateData table => "update of " ++ table ++ " has no data"

def error (fault : Malformed) : Error :=
  .invalidCommand fault.message

end Malformed

/-- A value as a literal. Numbers are quoted like texts. -/
def Value.literal (value : Value) : String :=
  quoted '\'' value.sqlText

namespace MySql

/-- A limit of zero rows is raised to one. -/
def withDefaultLimit (grammar : MySql) (limit : UInt64) : MySql :=
  { grammar with defaultLimit := max limit 1 }

def identifierQuote : Char := '\x60'

def identifier (name : String) : String :=
  quoted identifierQuote name

def identifiers (names : List String) : String :=
  joined ", " (names.map identifier)

def tableName (grammar : MySql) (table : String) : String :=
  identifier (grammar.tablePrefix ++ table)

def sized (type : String) (sizes : List UInt32) : String :=
  type ++ "(" ++ joined ", " (sizes.map fun size => toString size.toNat) ++ ")"

def columnType (column : Column) : String :=
  match column.type with
  | .char => sized "char" [column.length.getD 255]
  | .string => sized "varchar" [column.length.getD 255]
  | .tinyInteger => "tinyint"
  | .smallInteger => "smallint"
  | .mediumInteger => "mediumint"
  | .integer => "int"
  | .bigInteger => "bigint"
  | .float | .double =>
      match column.total, column.places with
      | some total, some places => sized "double" [total, places]
      | _, _ => "double"
  | .decimal => sized "decimal" [column.total.getD 8, column.places.getD 2]
  | .boolean => "tinyint(1)"
  | .timestamp => if column.useCurrent then "timestamp default CURRENT_TIMESTAMP" else "timestamp"
  | .binary => "blob"
  | .text => "text"
  | .mediumText => "mediumtext"
  | .longText => "longtext"
  | .date => "date"
  | .dateTime => "datetime"
  | .time => "time"
  | .custom spelling => lower spelling

/-- Truth values are the only defaults without quotes. -/
def defaultText : Value → String
  | .bool flag => if flag then "1" else "0"
  | value => value.literal

def optional (lead : String) : Option String → String
  | some text => lead ++ text
  | none => ""

def modifiers (column : Column) : String :=
  (if column.unsigned then " UNSIGNED" else "") ++
    optional " CHARACTER SET " column.charset ++
    optional " COLLATE " column.collation ++
    (if column.nullable then " NULL" else " NOT NULL") ++
    optional " DEFAULT " (column.defaultValue.map defaultText) ++
    (if column.type.isInteger && column.autoIncrement then " AUTO_INCREMENT PRIMARY KEY" else "")

def columnDefinition (column : Column) : String :=
  identifier column.name ++ " " ++ columnType column ++ modifiers column

/-- The first name that stands in the list again after its first place. -/
def firstRepeated? (seen : List String) : List String → Option String
  | [] => none
  | name :: rest => if name ∈ seen then some name else firstRepeated? (name :: seen) rest

def requireDistinctColumns (source : Source) : Except Error Unit :=
  match firstRepeated? [] (source.columns.map (·.name)) with
  | some column => .error (Malformed.repeatedColumn source.table column).error
  | none => .ok ()

def assigned (value : Value) : String :=
  if value.isNull then "NULL" else value.literal

def equation (key : String) (value : Value) : String :=
  if value.isNull then identifier key ++ " IS NULL" else identifier key ++ " = " ++ value.literal

/-- The entries of the clause maps that filter rows; the limit among them does not. -/
def filters (source : Source) : List (String × Value) :=
  source.clause.entries.filter (·.1 ≠ "limit")

def whereClause (source : Source) : String :=
  match (filters source).map fun (key, value) => equation key value with
  | [] => ""
  | predicates => " WHERE " ++ joined (" " ++ source.operator.sql ++ " ") predicates

/-- A limit given as a number wins; without one, a forced limit is the default one unless the source
is unbounded. -/
def limitClause (grammar : MySql) (source : Source) (force : Bool) : String :=
  match (source.clause.get "limit").asLong? with
  | some limit => " LIMIT " ++ toString limit.toInt
  | none =>
      if force && !source.unbounded then " LIMIT " ++ toString grammar.defaultLimit.toNat else ""

def alterTable (grammar : MySql) (source : Source) (change : String) : String :=
  "ALTER TABLE " ++ grammar.tableName source.table ++ " " ++ change

def create (grammar : MySql) (source : Source) : Except Error Compiled := do
  requireDistinctColumns source
  return .one ("CREATE TABLE " ++ grammar.tableName source.table ++ " ( " ++
    joined ", " (source.columns.map columnDefinition) ++ " )")

def alterColumns (grammar : MySql) (source : Source) (columns : List Column) (verb : String) :
    Except Error Compiled := do
  requireDistinctColumns source
  if columns.isEmpty then
    return .statements []
  return .one (grammar.alterTable source
    (joined ", " (columns.map fun column => verb ++ " " ++ columnDefinition column)))

def dropColumns (grammar : MySql) (source : Source) (columns : List String) :
    Except Error Compiled := do
  if columns.isEmpty then
    throw (Malformed.noDroppedColumns source.table).error
  return .one (grammar.alterTable source
    (joined ", " (columns.map fun column => "DROP " ++ identifier column)))

def addIndex (grammar : MySql) (source : Source) (index : Index) (what : String) :
    Except Error Compiled := do
  if index.columns.isEmpty then
    throw (Malformed.noIndexColumns index.name).error
  return .one (grammar.alterTable source
    ("ADD " ++ what ++ optional " USING " (index.algorithm.map upper) ++
      " (" ++ identifiers index.columns ++ ")"))

def addForeignKey (grammar : MySql) (source : Source) (key : ForeignKey) :
    Except Error Compiled :=
  match key.target with
  | none => .error (Malformed.noReferencedTable key.name).error
  | some target => do
    if key.columns.isEmpty || key.references.isEmpty then
      throw (Malformed.noKeyColumns key.name).error
    return .one (grammar.alterTable source
      ("ADD CONSTRAINT " ++ identifier key.name ++ " FOREIGN KEY (" ++ identifiers key.columns ++
        ") REFERENCES " ++ grammar.tableName target ++ " (" ++ identifiers key.references ++ ")" ++
        optional " ON DELETE " (key.onDelete.map upper) ++
        optional " ON UPDATE " (key.onUpdate.map upper)))

def insert (grammar : MySql) (source : Source) (data : Bag) : Except Error Compiled := do
  if data.isEmpty then
    throw (Malformed.noInsertData source.table).error
  return .one ("INSERT INTO " ++ grammar.tableName source.table ++ " (" ++ identifiers data.keys ++
    ") VALUES (" ++ joined ", " (data.values.map assigned) ++ ")")

def update (grammar : MySql) (source : Source) (data : Bag) : Except Error Compiled := do
  if data.isEmpty then
    throw (Malformed.noUpdateData source.table).error
  return .one ("UPDATE " ++ grammar.tableName source.table ++ " SET " ++
    joined ", " (data.entries.map fun (key, value) => identifier key ++ "=" ++ assigned value) ++
    whereClause source)

def delete (grammar : MySql) (source : Source) : String :=
  "DELETE FROM " ++ grammar.tableName source.table ++ whereClause source

def find (grammar : MySql) (source : Source) : String :=
  "SELECT * FROM " ++ grammar.tableName source.table ++ whereClause source ++
    grammar.limitClause source true

def compile (grammar : MySql) (source : Source) : Command → Except Error Compiled
  | .create => grammar.create source
  | .add => grammar.alterColumns source source.addedColumns "ADD"
  | .change => grammar.alterColumns source source.changedColumns "MODIFY"
  | .drop => .ok (.one ("DROP TABLE " ++ grammar.tableName source.table))
  | .dropIfExists => .ok (.one ("DROP TABLE IF EXISTS " ++ grammar.tableName source.table))
  | .rename newName =>
      .ok (.one ("RENAME TABLE " ++ grammar.tableName source.table ++ " TO " ++
        grammar.tableName newName))
  | .dropColumns columns => grammar.dropColumns source columns
  | .renameColumn oldName newName =>
      .ok (.one (grammar.alterTable source
        ("RENAME COLUMN " ++ identifier oldName ++ " TO " ++ identifier newName)))
  | .primary index => grammar.addIndex source index "PRIMARY KEY"
  | .unique index => grammar.addIndex source index ("UNIQUE " ++ identifier index.name)
  | .index index => grammar.addIndex source index ("INDEX " ++ identifier index.name)
  | .foreign key => grammar.addForeignKey source key
  | .insert data => grammar.insert source data
  | .update data => grammar.update source data
  | .delete => .ok (.one (grammar.delete source))
  | .find => .ok (.one (grammar.find source))

def grammar (dialect : MySql) : Grammar :=
  ⟨dialect.compile⟩

end MySql

end SchemaLedger
