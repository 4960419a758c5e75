import SchemaLedger.Embedded.Reader
import SchemaLedger.Embedded.Statement
import SchemaLedger.Text.Parts

/-! # Preparing statements

Preparing reads the text of a statement from left to right and looks up what it names. A table that
is being made or extended is looked up as soon as its name has been read, and its columns are
compared as they come; all other names are looked up once the whole statement has been read. So of
several faults the first one found wins.
-/

namespace SchemaLedger.Embedded

set_option autoImplicit false

open Decimal Text

namespace Reader

def signedNumber : Reader Unit := do
  if !(← symbol? '-') then
    let _ ← symbol? '+'
  let _ ← next numeral?

/-- The size of a type, which is one number or two and has no effect. -/
def size : Reader Unit := do
  if ← symbol? '(' then
    signedNumber
    if ← symbol? ',' then signedNumber
    symbol ')'

def typeWords : Nat → Reader Unit
  | 0 => return
  | bound + 1 => do
      if (← next? plainName?).isSome then typeWords bound

def type : Reader String := do
  let start ← get
  typeWords start.length
  if (← get).length < start.length then size
  return joined " " ((start.take (start.length - (← get).length)).map (·.spelling))

inductive Default where
  | literal (literal : Literal)
  | now (clock : Clock)

inductive Constraint where
  | idle
  | required
  | unique
  | primary (descending ascending : Bool)
  | initial (value : Default)
  | collation (name : String)

def clock? (lexeme : Lexeme) : Option Clock :=
  if isKeyword "current_timestamp" lexeme then some .dateAndTime
  else if isKeyword "current_date" lexeme then some .date
  else if isKeyword "current_time" lexeme then some .time
  else none

/-- A name as a default is a text, unless it is a truth value. -/
def wordLiteral? (lexeme : Lexeme) : Option Literal :=
  if isKeyword "true" lexeme then some { datum := .integer 1 }
  else if isKeyword "false" lexeme then some { datum := .integer 0 }
  else if isKeyword "indexed" lexeme then some { datum := .text lexeme.spelling }
  else (plainName? lexeme).map fun name => { datum := .text name.text }

def defaultValue : Reader Default := do
  if ← symbol? '(' then
    match ← next? clock? with
    | some clock =>
        symbol ')'
        return .now clock
    | none =>
        let literal ← literal
        symbol ')'
        return .literal literal
  else if ← symbol? '-' then
    return .literal (← next (plainLiteral? true))
  else if ← symbol? '+' then
    return .literal (← next (plainLiteral? false))
  else
    match ← next? clock? with
    | some clock => return .now clock
    | none => return .literal (← next fun lexeme => plainLiteral? false lexeme <|> wordLiteral? lexeme)

def constraint? : Reader (Option Constraint) := do
  if ← keyword? "constraint" then
    let _ ← name
    return some .idle
  else if ← keyword? "null" then
    return some .idle
  else if ← keywords? ["not", "null"] then
    return some .required
  else if ← keyword? "unique" then
    return some .unique
  else if ← keywords? ["primary", "key"] then
    let descending ← keyword? "desc"
    if !descending then
      let _ ← keyword? "asc"
    return some (.primary descending (← keyword? "autoincrement"))
  else if ← keyword? "default" then
    return some (.initial (← defaultValue))
  else if ← keyword? "collate" then
    return some (.collation (← next plainName?).text)
  else
    return none

def numbersRecords (type : String) (descending : Bool) : Bool :=
  type.toLower = "integer" && !descending

def constrain (type : String) (field : Field) : Constraint → Field
  | .idle => field
  | .required => { field with required := true }
  | .unique => { field with unique := true }
  | .primary descending ascending =>
      { field with
        primary := true
        numbering :=
          if numbersRecords type descending then some (if ascending then .ascending else .plain) else none }
  | .initial (.now clock) => { field with initial := .now clock }
  | .initial (.literal literal) =>
      { field with initial := .constant literal.datum (literal.earlier field.affinity) }
  | .collation name => { field with collation := (Collation.ofName? name).getD .binary }

structure Surroundings where
  /-- Columns of a table that is there already are read, but nothing about them can be wrong. -/
  checked : Bool
  table : String
  others : List Field
  hasPrimary : Bool
  /-- Whether the lexeme can stand behind the column. -/
  ends : Option Lexeme → Bool

def startsConstraint (lexeme : Lexeme) : Bool :=
  ["constraint", "null", "not", "unique", "primary", "default", "collate", "check", "references", "generated",
    "as", "deferrable"].any (isKeyword · lexeme)

/-- Reports what is wrong with a column up to here. A lexeme that cannot stand here is refused
first. -/
def Surroundings.refuse (surroundings : Surroundings) (fault : Fault) : Reader Unit := do
  let next ← peek
  if surroundings.checked then
    if surroundings.ends next || next.any startsConstraint then throw fault else reject

def Surroundings.fault? (surroundings : Surroundings) (type : String) (field : Field) :
    Constraint → Option Fault
  | .primary descending ascending =>
      if surroundings.hasPrimary || field.primary then some (.secondPrimary surroundings.table)
      else if ascending && !numbersRecords type descending then some .wrongAutoincrement
      else none
  | .collation name => if (Collation.ofName? name).isSome then none else some (.noCollation name)
  | _ => none

def constrained (surroundings : Surroundings) (type : String) (field : Field) : Nat → Reader Field
  | 0 => return field
  | bound + 1 => do
      match ← constraint? with
      | none => return field
      | some constraint =>
          match surroundings.fault? type field constraint with
          | some fault => surroundings.refuse fault
          | none => pure ()
          constrained surroundings type (constrain type field constraint) bound

def column (surroundings : Surroundings) : Reader Field := do
  let name ← name
  let type ← type
  if (fieldPosition? surroundings.others name.text).isSome then
    surroundings.refuse (.repeatedColumn name.text)
  constrained surroundings type { name := name.text, affinity := .ofType type } (← get).length

def endsNewColumn (lexeme : Option Lexeme) : Bool :=
  lexeme.any fun lexeme => lexeme.token = .symbol ',' || lexeme.token = .symbol ')'

def columns (checked : Bool) (table : String) (fields : List Field) : Nat → Reader (List Field)
  | 0 => return fields
  | bound + 1 => do
      let field ← column
        { checked, table, others := fields, hasPrimary := fields.any (·.primary), ends := endsNewColumn }
      if ← symbol? ',' then
        columns checked table (fields ++ [field]) bound
      else
        return fields ++ [field]

/-- A statement ends at a semicolon or with its text. What stands behind a semicolon is not read. -/
def endsStatement (lexeme : Option Lexeme) : Bool :=
  lexeme.all (·.token = .symbol ';')

def finish : Reader Unit := do
  if !endsStatement (← peek) then reject

def find (database : Database) (name : Name) : Reader Table :=
  match database.table? name.text with
  | some table => return table
  | none => throw (.noTable name.text)

def isReserved (table : String) : Bool :=
  "sqlite_".toList.isPrefixOf table.toLower.toList

/-- Words behind the columns of a new table would be options, of which there are none. -/
def noOptions : Reader Unit := do
  match ← next? name? with
  | none => return
  | some option =>
      let next ← peek
      if endsStatement next || next.any (·.token = .symbol ',') then
        throw (.noOption option.lexeme.spelling)

def create (database : Database) : Reader Statement := do
  keyword "table"
  let lenient ← keywords? ["if", "not", "exists"]
  let name ← name
  symbol '('
  if isReserved name.text then
    throw (.reservedTable name.text)
  let present := (database.table? name.text).isSome
  if present && !lenient then
    throw (.tablePresent name.lexeme)
  let fields ← columns (!present) name.text [] ((← get).length + 1)
  symbol ')'
  noOptions
  finish
  return if present then .idle else .create { name := name.text, fields }

def drop (database : Database) : Reader Statement := do
  keyword "table"
  let lenient ← keywords? ["if", "exists"]
  let name ← name
  finish
  match database.table? name.text with
  | some table => return .drop table
  | none => if lenient then return .idle else throw (.noTable name.text)

def alteredPosition (table : Table) (column : Name) : Reader Nat :=
  match fieldPosition? table.fields column.text with
  | some position => return position
  | none => throw (.noColumnToAlter column.lexeme)

def dropColumn (table : Table) (column : Name) : Reader Statement := do
  let position ← alteredPosition table column
  if table.fields[position]?.any (·.primary) then
    throw (.keptPrimary column.text)
  if table.fields[position]?.any (·.unique) then
    throw (.keptUnique column.text)
  if table.fields.length ≤ 1 then
    throw (.onlyColumn column.text)
  return .dropField table position

def alter (database : Database) : Reader Statement := do
  keyword "table"
  let tableName ← name
  if ← keyword? "add" then
    let table ← find database tableName
    let _ ← keyword? "column"
    let field ← column
      { checked := true
        table := "sqlite_altertab_" ++ table.name
        others := table.fields
        hasPrimary := false
        ends := endsStatement }
    finish
    if field.primary then
      throw .addedPrimary
    if field.unique then
      throw .addedUnique
    return .addField table field
  else if ← keyword? "drop" then
    let _ ← keyword? "column"
    let column ← name
    finish
    dropColumn (← find database tableName) column
  else if ← keyword? "rename" then
    let _ ← keyword? "column"
    let oldName ← name
    keyword "to"
    let newName ← name
    finish
    let table ← find database tableName
    return .renameField table (← alteredPosition table oldName) newName.text
  else
    reject

def insert (database : Database) : Reader Statement := do
  keyword "into"
  let tableName ← name
  let columns ← parenthesized name
  keyword "values"
  let values ← parenthesized datum
  finish
  let table ← find database tableName
  let places ← columns.mapM fun column =>
    match table.place? column.text with
    | some place => return place
    | none => throw (.noColumnToInsert tableName.text column.text)
  if values.length ≠ columns.length then
    throw (.valueCount values.length columns.length)
  return .insert table (places.zip values)

def comparison : Reader (Name × Option Datum) := do
  let column ← name
  if ← keywords? ["is", "null"] then
    return (column, none)
  else
    symbol '='
    return (column, some (← datum))

def alternatives : Reader (List (List (Name × Option Datum))) := do
  if ← keyword? "where" then
    separated (separated comparison (keyword? "and")) (keyword? "or")
  else
    return [[]]

def condition (table : Table) (place : Place) (sought : Option Datum) : Condition :=
  match place with
  | .number => ⟨place, .binary, sought.map (·.comparedWith .integer)⟩
  | .field position =>
      match table.fields[position]? with
      | none => ⟨place, .binary, sought⟩
      | some field => ⟨place, field.collation, sought.map (·.comparedWith field.affinity)⟩

/-- The conditions of one group. Columns in conditions are looked up from left to right. A search
for Null in an unknown column is a fault that waits: the next such search takes its place, and
anything else that could be looked up brings it out. -/
def groupOf (table : Table) (waiting : Option Fault) :
    List (Name × Option Datum) → Except Fault (List Condition × Option Fault)
  | [] => .ok ([], waiting)
  | (column, sought) :: rest => do
      if sought.isSome then
        waiting.forM throw
      match table.place? column.text with
      | some place =>
          let (conditions, waiting) ← groupOf table waiting rest
          return (condition table place sought :: conditions, waiting)
      | none =>
          let fault := Fault.noColumnToCompare column.lexeme column.text
          if sought.isSome then
            throw fault
          groupOf table (some fault) rest

/-- A group of several conditions counts as one more thing to look up. -/
def filterOf (table : Table) (waiting : Option Fault) :
    List (List (Name × Option Datum)) → Except Fault Filter
  | [] => do
      waiting.forM throw
      return []
  | group :: rest => do
      if 1 < group.length then
        waiting.forM throw
      let (conditions, waiting) ← groupOf table waiting group
      return conditions :: (← filterOf table waiting rest)

def filter (table : Table) (alternatives : List (List (Name × Option Datum))) : Reader Filter :=
  filterOf table none alternatives

def assignment : Reader (Name × Datum) := do
  let column ← name
  symbol '='
  return (column, ← datum)

def update (database : Database) : Reader Statement := do
  let tableName ← name
  keyword "set"
  let assignments ← commaSeparated assignment
  let alternatives ← alternatives
  finish
  let table ← find database tableName
  let data ← assignments.mapM fun (column, datum) =>
    match table.place? column.text with
    | some place => return (place, datum)
    | none => throw (.noColumnToUpdate column.text)
  return .update table data (← filter table alternatives)

def delete (database : Database) : Reader Statement := do
  keyword "from"
  let tableName ← name
  let alternatives ← alternatives
  finish
  let table ← find database tableName
  return .delete table (← filter table alternatives)

def whole? (lexeme : Lexeme) : Option Nat :=
  (numeral? lexeme).bind fun numeral => if numeral.plain then some numeral.digits else none

def limit : Reader Int := do
  if ← keyword? "limit" then
    let negative ← symbol? '-'
    let count ← next whole?
    return if negative then -(count : Int) else count
  else
    return -1

/-- A literal and the name of its column, which is its text in the statement unless it gets
another. -/
def constant (statement : String) : Reader (String × Value) := do
  let first ← peek
  let datum ← datum
  let next ← peek
  if ← keyword? "as" then
    return ((← name).text, datum.value)
  else
    match ← next? plainName? with
    | some name => return (name.text, datum.value)
    | none =>
        return (first.elim "" (Lexeme.spellingBetween statement · next), datum.value)

def select (database : Database) (statement : String) : Reader Statement := do
  if ← symbol? '*' then
    keyword "from"
    let tableName ← name
    let alternatives ← alternatives
    let limit ← limit
    finish
    let table ← find database tableName
    return .select table (← filter table alternatives) limit
  else
    let constants ← commaSeparated (constant statement)
    finish
    return .constants (Bag.ofList constants)

/-- Settings can be asked for. That foreign keys are observed is the only one with an answer. -/
def pragma : Reader Statement := do
  let name ← name
  finish
  return if sameName name.text "foreign_keys" then .constants (.single "foreign_keys" (.long 1)) else .idle

def statement (database : Database) (text : String) : Reader Statement := do
  if ← keyword? "create" then create database
  else if ← keyword? "drop" then drop database
  else if ← keyword? "alter" then alter database
  else if ← keyword? "insert" then insert database
  else if ← keyword? "update" then update database
  else if ← keyword? "delete" then delete database
  else if ← keyword? "select" then select database text
  else if ← keyword? "pragma" then pragma
  else reject

end Reader

def Statement.prepare (database : Database) (text : String) : Except Fault Statement :=
  match (Lexeme.ofStatement text).dropWhile (·.token = .symbol ';') with
  | [] => .error .noStatement
  | lexemes => (Reader.statement database text).run' lexemes

end SchemaLedger.Embedded
