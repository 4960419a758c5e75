import SchemaLedger.Embedded.Datum
import SchemaLedger.Embedded.Fault
import SchemaLedger.Value.Bag

/-! # Tables of the embedded database

A table has fields and records. A record has a number, which no other record of its table has, and
one datum for each field. Records are read in the order of their numbers. One field may hold the
number.
-/

namespace SchemaLedger.Embedded

set_option autoImplicit false

open Text

inductive Clock where
  | dateAndTime
  | date
  | time
  deriving DecidableEq

/-- The date has ten characters, and one stands between it and the time. -/
def Clock.text (clock : Clock) (now : String) : String :=
  match clock with
  | dateAndTime => now
  | date => String.ofList (now.toList.take 10)
  | time => String.ofList (now.toList.drop 11)

inductive Initial where
  /-- A datum, and the form of it that records have which were there before the field. -/
  | constant (datum earlier : Datum)
  | now (clock : Clock)
  deriving DecidableEq

inductive Numbering where
  | plain
  /-- A number that was given out once is not given out again. -/
  | ascending
  deriving DecidableEq

structure Field where
  name : String
  affinity : Affinity
  collation : Collation := .binary
  required : Bool := false
  initial : Initial := .constant .null .null
  numbering : Option Numbering := none
  primary : Bool := false
  unique : Bool := false
  deriving DecidableEq

def sameName (a b : String) : Bool :=
  a.toLower = b.toLower

namespace Field

def initialDatum (field : Field) (now : String) : Datum :=
  match field.initial with
  | .constant datum _ => datum.storedAs field.affinity
  | .now clock => (Datum.text (clock.text now)).storedAs field.affinity

def numbers (field : Field) : Bool :=
  field.numbering.isSome

def isKey (field : Field) : Bool :=
  !field.numbers && (field.primary || field.unique)

end Field

def fieldPosition? (fields : List Field) (name : String) : Option Nat :=
  fields.findIdx? fun field => sameName field.name name

structure Record where
  number : Int64
  data : List Datum
  deriving DecidableEq

inductive Place where
  | number
  | field (position : Nat)
  deriving DecidableEq

def Record.at (record : Record) : Place → Datum
  | .number => .integer record.number
  | .field position => record.data.getD position .null

/-- A condition on one datum: it equals the sought one, or is Null where none is sought. -/
structure Condition where
  place : Place
  collation : Collation
  sought : Option Datum
  deriving DecidableEq

/-- Conditions of which all in one of the groups have to hold. -/
abbrev Filter := List (List Condition)

def Condition.holds (condition : Condition) (record : Record) : Bool :=
  let datum := record.at condition.place
  match condition.sought with
  | none => datum = .null
  | some sought => Datum.equals condition.collation datum sought

def Filter.holds (filter : Filter) (record : Record) : Bool :=
  filter.any fun group => group.all (·.holds record)

abbrev Assignments := List (Place × Datum)

def Assignments.number? (data : Assignments) : Option Datum :=
  data.reverse.lookup .number

structure Table where
  name : String
  fields : List Field
  records : List Record := []
  /-- The greatest number given to a record so far. -/
  lastNumber : Int := 0
  recordsWidth : ∀ record ∈ records, record.data.length = fields.length := by simp

namespace Table

/-- Names under which the number of a record is known, unless a field has the name. -/
def numberNames : List String :=
  ["rowid", "_rowid_", "oid"]

def place? (table : Table) (name : String) : Option Place :=
  match fieldPosition? table.fields name with
  | some position =>
      if (table.fields[position]?.map (·.numbers)).getD false then some .number
      else some (.field position)
  | none => if numberNames.any (sameName · name) then some .number else none

def ascending (table : Table) : Bool :=
  table.fields.any (·.numbering = some .ascending)

def numberName (table : Table) : String :=
  ((table.fields.find? (·.numbers)).map (·.name)).getD "rowid"

def requiredFault? (table : Table) (record : Record) : Option Fault :=
  (table.fields.zip record.data).findSome? fun (field, datum) =>
    if field.required && datum = .null then some (.nullInColumn table.name field.name) else none

def numberFault? (table : Table) (records : List Record) : Option Fault :=
  if (records.map (·.number)).Nodup then none
  else some (.repeatedDatum table.name table.numberName)

def allDiffer (collation : Collation) : List Datum → Bool
  | [] => true
  | datum :: rest => !rest.any (datum.equals collation) && allDiffer collation rest

def keyFault? (table : Table) (records : List Record) : Option Fault :=
  -- the keys that were declared last are looked at first
  table.fields.zipIdx.reverse.findSome? fun (field, position) =>
    if field.isKey && !allDiffer field.collation (records.map (·.at (.field position))) then
      some (.repeatedDatum table.name field.name)
    else
      none

def recordsFault? (table : Table) (records : List Record) : Option Fault :=
  table.numberFault? records <|> table.keyFault? records

def ordered (records : List Record) : List Record :=
  records.mergeSort fun a b => a.number.toInt ≤ b.number.toInt

def withRecords (table : Table) (records : List Record)
    (width : ∀ record ∈ records, record.data.length = table.fields.length) : Table :=
  { table with
    records := ordered records
    recordsWidth := fun record h => width record (by simpa [ordered] using h) }

def freeNumber? (table : Table) : Option Int64 :=
  (List.range (table.records.length + 1)).findSome? fun (count : Nat) =>
    let number := Int64.ofInt (Int64.maxValue.toInt - count)
    if (table.records.any (·.number = number)) then none else some number

/-- The number for a record that brings none: the one behind the greatest. When that is the greatest
number of all, a table that ascends has none left. -/
def nextNumber (table : Table) : Except Fault Int64 :=
  let behind : Int :=
    match table.records.getLast? with
    | none => 1
    | some record => record.number.toInt + 1
  let next := if table.ascending && behind ≤ table.lastNumber then table.lastNumber + 1 else behind
  match int64? next <|> if table.ascending then none else table.freeNumber? with
  | some number => .ok number
  | none => .error .noNumberLeft

def givenNumber (datum : Datum) : Except Fault Int64 :=
  match datum.whole? with
  | some number => .ok number
  | none => .error .wrongKind

/-- A new record. Of several data for one field the first counts. -/
def newRecord (table : Table) (now : String) (number : Int64) (data : Assignments) : Record where
  number
  data := table.fields.zipIdx.map fun (field, position) =>
    if field.numbers then
      .integer number
    else
      match data.lookup (.field position) with
      | some datum => datum.storedAs field.affinity
      | none => field.initialDatum now

theorem length_newRecord (table : Table) (now : String) (number : Int64) (data : Assignments) :
    (table.newRecord now number data).data.length = table.fields.length := by
  simp [newRecord]

def insert (table : Table) (now : String) (data : Assignments) : Except Fault Table := do
  let number ← match data.number?.getD .null with
    | .null => table.nextNumber
    | datum => givenNumber datum
  let record := table.newRecord now number data
  match table.requiredFault? record <|> table.recordsFault? (table.records ++ [record]) with
  | some fault => throw fault
  | none =>
      let table := table.withRecords (table.records ++ [record]) (by
        intro other h
        rcases List.mem_append.1 h with h | h
        · exact table.recordsWidth other h
        · rw [List.mem_singleton.1 h]
          exact length_newRecord ..)
      return { table with lastNumber := max table.lastNumber number.toInt }

/-- A changed record. Of several data for one field the last counts. -/
def changedRecord (table : Table) (number : Int64) (data : Assignments) (record : Record) : Record where
  number
  data := table.fields.zipIdx.map fun (field, position) =>
    if field.numbers then
      .integer number
    else
      match data.reverse.lookup (.field position) with
      | some datum => datum.storedAs field.affinity
      | none => record.at (.field position)

theorem length_changedRecord (table : Table) (number : Int64) (data : Assignments) (record : Record) :
    (table.changedRecord number data record).data.length = table.fields.length := by
  simp [changedRecord]

def count (table : Table) (filter : Filter) : Nat :=
  table.records.countP filter.holds

/-- Changes the selected records. A number that is not whole is no fault where none is selected. -/
def update (table : Table) (data : Assignments) (filter : Filter) : Except Fault Table := do
  if !table.records.any filter.holds then
    return table
  let number? ← data.number?.mapM givenNumber
  let change (record : Record) : Record :=
    if filter.holds record then table.changedRecord (number?.getD record.number) data record else record
  match table.records.findSome? (fun record =>
        if filter.holds record then table.requiredFault? (change record) else none) <|>
      table.recordsFault? (table.records.map change) with
  | some fault => throw fault
  | none =>
      return table.withRecords (table.records.map change) (by
        intro other h
        obtain ⟨record, hrecord, rfl⟩ := List.mem_map.1 h
        dsimp only [change]
        split
        · exact length_changedRecord ..
        · exact table.recordsWidth record hrecord)

def delete (table : Table) (filter : Filter) : Table :=
  { table with
    records := table.records.filter fun record => !filter.holds record
    recordsWidth := fun record h => table.recordsWidth record (List.mem_filter.1 h).1 }

def select (table : Table) (filter : Filter) (limit : Int) : List Row :=
  let selected := table.records.filter filter.holds
  let limited := if limit < 0 then selected else selected.take limit.toNat
  limited.map fun record => Bag.ofList ((table.fields.zip record.data).map fun (field, datum) =>
    (field.name, datum.value))

def addField (table : Table) (field : Field) : Except Fault Table :=
  let extended (datum : Datum) : Table :=
    { table with
      fields := table.fields ++ [field]
      records := table.records.map fun record => { record with data := record.data ++ [datum] }
      recordsWidth := by
        intro record h
        obtain ⟨record, hrecord, rfl⟩ := List.mem_map.1 h
        simp [table.recordsWidth record hrecord] }
  match field.initial with
  | .constant datum earlier =>
      if field.required && datum = .null && !table.records.isEmpty then .error .nullDefault
      else .ok (extended earlier)
  | .now _ => if table.records.isEmpty then .ok (extended .null) else .error .variableDefault

def dropField (table : Table) (position : Nat) : Table :=
  { table with
    fields := table.fields.eraseIdx position
    records := table.records.map fun record => { record with data := record.data.eraseIdx position }
    recordsWidth := by
      intro record h
      obtain ⟨record, hrecord, rfl⟩ := List.mem_map.1 h
      simp [List.length_eraseIdx, table.recordsWidth record hrecord] }

/-- Renames a field. Where another field has the name, the later one of the two is reported. -/
def renameField (table : Table) (position : Nat) (name : String) : Except Fault Table :=
  let fields := table.fields.modify position fun field => { field with name }
  match fields.zipIdx.find? fun (field, other) => other ≠ position && sameName field.name name with
  | some (field, other) =>
      .error (.takenColumn table.name (if other < position then name else field.name))
  | none => .ok { table with fields, recordsWidth := by simpa [fields] using table.recordsWidth }

end Table

end SchemaLedger.Embedded
