import SchemaLedger.Exchange.Error
import SchemaLedger.Json.Scan
import SchemaLedger.Json.Writer
import SchemaLedger.Text.CharacterSets
import SchemaLedger.Text.Utf8

/-! # Configuration of a migrator

Every setting has a default, so a configuration text only names what it changes.
-/

namespace SchemaLedger

set_option autoImplicit false

open Json Text

structure Config where
  ledgerTable : String := "migrations"
  bootstrapLedger : Bool := true
  defaultLimit : UInt64 := 10
  deriving DecidableEq

namespace Config

def withLedgerTable (config : Config) (table : String) : Config :=
  { config with ledgerTable := table }

def withBootstrapLedger (config : Config) (bootstrap : Bool) : Config :=
  { config with bootstrapLedger := bootstrap }

/-- A limit of zero rows is raised to one. -/
def withDefaultLimit (config : Config) (limit : UInt64) : Config :=
  { config with defaultLimit := max limit 1 }

def validate (config : Config) : Except Error Unit :=
  if config.ledgerTable.toList.all isBlank then
    .error (.config "ledger_table must not be empty")
  else if config.defaultLimit = 0 then
    .error (.config "default_limit must be at least 1")
  else
    .ok ()

inductive Field where
  | ledgerTable
  | bootstrapLedger
  | defaultLimit
  deriving DecidableEq

namespace Field

def name : Field → String
  | ledgerTable => "ledger_table"
  | bootstrapLedger => "bootstrap_ledger"
  | defaultLimit => "default_limit"

def all : List Field :=
  [ledgerTable, bootstrapLedger, defaultLimit]

def ofName? (name : String) : Option Field :=
  all.find? (·.name == name)

def scan (config : Config) : Field → Scan Config
  | ledgerTable => (fun table => { config with ledgerTable := table }) <$> Scan.text
  | bootstrapLedger => (fun flag => { config with bootstrapLedger := flag }) <$> Scan.boolean
  | defaultLimit =>
      (fun limit => { config with defaultLimit := limit.toNat.toUInt64 }) <$>
        Scan.integer 0 (UInt64.size - 1 : Nat)

end Field

/-- Reads the members of an object up to its end. A field may be given once. -/
def membersScan : Nat → Bool → List Field → Config → Scan Config
  | 0, _, _, _ => throw .truncated
  | steps + 1, first, seen, config => do
      let c ← Scan.require
      if c = '\x7d' then
        Scan.skip
        return config
      if !first then
        if c ≠ ',' then throw .malformed
        Scan.skip
      if (← Scan.require) ≠ '"' then throw .malformed
      let key ← Scan.text
      match Field.ofName? key with
      | some field =>
          if field ∈ seen then throw .mismatched
          Scan.colon
          membersScan steps false (field :: seen) (← field.scan config)
      | none =>
          Scan.colon
          Scan.ignored
          membersScan steps false seen config

/-- Reads the values of an array, one for each field in turn; missing ones keep their defaults. -/
def itemsScan (first : Bool) (config : Config) : List Field → Scan Config
  | [] => do
      Scan.endItems
      return config
  | field :: rest => do
      if ← Scan.nextItem first then
        itemsScan false (← field.scan config) rest
      else
        Scan.endItems
        return config

def scan : Scan Config := do
  let c ← Scan.require
  if c = '\x7b' then
    Scan.skip
    membersScan ((← get).length + 1) true [] {}
  else if c = '[' then
    Scan.skip
    itemsScan true {} Field.all
  else
    Scan.mismatch

def ofJson (text : String) : Except Error Config := do
  let config ← (scan.readAll text).mapError .json
  config.validate
  return config

def ofFile : Option (List UInt8) → Except Error Config
  | none => .error (.file .missing)
  | some bytes =>
      match ofUtf8? bytes with
      | some text => ofJson text
      | none => .error (.file .notText)

def toJson (config : Config) : String :=
  ofMembers
    [(Field.ledgerTable.name, ofText config.ledgerTable),
      (Field.bootstrapLedger.name, ofBool config.bootstrapLedger),
      (Field.defaultLimit.name, toString config.defaultLimit.toNat)]

end Config

end SchemaLedger
