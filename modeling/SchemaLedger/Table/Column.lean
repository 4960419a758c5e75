import SchemaLedger.Value.Basic

/-! # Columns

A column has a type, a name and a number of independent settings, each off until a modifier turns it
on. Types have one spelling each; any other spelling names a type of the database itself.
-/

namespace SchemaLedger

set_option autoImplicit false

open Text

inductive ColumnType where
  | char
  | string
  | text
  | mediumText
  | longText
  | tinyInteger
  | smallInteger
  | mediumInteger
  | integer
  | bigInteger
  | float
  | double
  | decimal
  | boolean
  | date
  | dateTime
  | time
  | timestamp
  | binary
  | custom (spelling : String)
  deriving DecidableEq

namespace ColumnType

def spelling : ColumnType → String
  | char => "char"
  | string => "string"
  | text => "text"
  | mediumText => "mediumText"
  | longText => "longText"
  | tinyInteger => "tinyInteger"
  | smallInteger => "smallInteger"
  | mediumInteger => "mediumInteger"
  | integer => "integer"
  | bigInteger => "bigInteger"
  | float => "float"
  | double => "double"
  | decimal => "decimal"
  | boolean => "boolean"
  | date => "date"
  | dateTime => "dateTime"
  | time => "time"
  | timestamp => "timestamp"
  | binary => "binary"
  | custom spelling => spelling

def builtin : List ColumnType :=
  [char, string, text, mediumText, longText, tinyInteger, smallInteger, mediumInteger, integer,
    bigInteger, float, double, decimal, boolean, date, dateTime, time, timestamp, binary]

def spellings : List (String × ColumnType) :=
  ("varchar", string) :: ("bool", boolean) ::
    builtin.map fun type => (type.spelling.map Char.toLower, type)

/-- Case does not matter; an unknown spelling is kept as it is. -/
def ofSpelling (spelling : String) : ColumnType :=
  (spellings.lookup (lower spelling)).getD (custom spelling)

def isInteger : ColumnType → Bool
  | tinyInteger | smallInteger | mediumInteger | integer | bigInteger => true
  | _ => false

end ColumnType

structure Column where
  type : ColumnType
  name : String
  length : Option UInt32 := none
  total : Option UInt32 := none
  places : Option UInt32 := none
  unsigned : Bool := false
  autoIncrement : Bool := false
  nullable : Bool := false
  defaultValue : Option Value := none
  charset : Option String := none
  collation : Option String := none
  useCurrent : Bool := false
  change : Bool := false
  unique : Bool := false
  index : Bool := false
  deriving DecidableEq

inductive Modifier where
  | length (length : UInt32)
  | precision (total places : UInt32)
  | total (total : Option UInt32)
  | places (places : Option UInt32)
  | unsigned
  | autoIncrement
  | nullable
  | defaultValue (value : Value)
  | charset (charset : String)
  | collation (collation : String)
  | useCurrent
  /-- The column exists and is to be redefined. -/
  | change
  | unique
  | index

namespace Column

def modify (column : Column) : Modifier → Column
  | .length length => { column with length := some length }
  | .precision total places => { column with total := some total, places := some places }
  | .total total => { column with total }
  | .places places => { column with places }
  | .unsigned => { column with unsigned := true }
  | .autoIncrement => { column with autoIncrement := true }
  | .nullable => { column with nullable := true }
  | .defaultValue value => { column with defaultValue := some value }
  | .charset charset => { column with charset := some charset }
  | .collation collation => { column with collation := some collation }
  | .useCurrent => { column with useCurrent := true }
  | .change => { column with change := true }
  | .unique => { column with unique := true }
  | .index => { column with index := true }

def modifyAll (column : Column) (modifiers : List Modifier) : Column :=
  modifiers.foldl modify column

/-- A setting that is on reads as true, one that is off as Null. -/
def setting (on : Bool) : Value :=
  if on then .bool true else .null

/-- The column as a table of named settings. An unknown name reads as Null. -/
def get (column : Column) : String → Value
  | "type" => column.type.spelling
  | "name" => column.name
  | "length" => .ofOption (↑·) column.length
  | "total" => .ofOption (↑·) column.total
  | "places" => .ofOption (↑·) column.places
  | "unsigned" => setting column.unsigned
  | "autoIncrement" => setting column.autoIncrement
  | "nullable" => setting column.nullable
  | "default" => column.defaultValue.getD .null
  | "charset" => .ofOption (↑·) column.charset
  | "collation" => .ofOption (↑·) column.collation
  | "useCurrent" => setting column.useCurrent
  | "change" => setting column.change
  | "unique" => setting column.unique
  | "index" => setting column.index
  | _ => .null

def char (name : String) (length : UInt32) : Column :=
  { type := .char, name, length }

def string (name : String) (length : UInt32) : Column :=
  { type := .string, name, length }

def integer (type : ColumnType) (name : String) (autoIncrement unsigned : Bool) : Column :=
  { type, name, autoIncrement, unsigned }

/-- An unsigned key that the database counts up by itself. -/
def increments (type : ColumnType) (name : String) : Column :=
  integer type name true true

def float (name : String) (total places : UInt32) : Column :=
  { type := .float, name, total, places }

def double (name : String) (total places : Option UInt32) : Column :=
  { type := .double, name, total, places }

def decimal (name : String) (total places : UInt32) : Column :=
  { type := .decimal, name, total, places }

def timestamps : List Column :=
  [{ type := .timestamp, name := "created_at", nullable := true },
    { type := .timestamp, name := "updated_at", nullable := true }]

end Column

end SchemaLedger
