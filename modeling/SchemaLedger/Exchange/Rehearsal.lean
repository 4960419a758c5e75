import SchemaLedger.Exchange.LedgerStore
import SchemaLedger.Exchange.Recorder

/-! # Rehearsals

A recorder that also answers with prepared counts of affected rows and may keep a ledger table, so
that migrations can be rehearsed without a database.
-/

namespace SchemaLedger

set_option autoImplicit false

structure Rehearsal where
  recorder : Recorder := {}
  /-- Counts for the writes still to come. -/
  affected : List UInt64 := []
  ledger : Option LedgerStore := none

namespace Rehearsal

def takeCount (rehearsal : Rehearsal) : Except Error UInt64 × Rehearsal :=
  match rehearsal.affected with
  | [] => (.ok 0, rehearsal)
  | count :: later => (.ok count, { rehearsal with affected := later })

def execute (statement : String) (rehearsal : Rehearsal) : Except Error UInt64 × Rehearsal :=
  match rehearsal.recorder.record statement with
  | (.error error, recorder) => (.error error, { rehearsal with recorder })
  | (.ok (), recorder) =>
      let rehearsal := { rehearsal with recorder }
      match rehearsal.ledger with
      | none => rehearsal.takeCount
      | some store =>
          match store.execute statement with
          | (.error error, store) => (.error error, { rehearsal with ledger := some store })
          | (.ok (), store) => { rehearsal with ledger := some store }.takeCount

/-- A read of the ledger table is answered from it and uses up no scripted rows. -/
def query (statement : String) (rehearsal : Rehearsal) : Except Error (List Row) × Rehearsal :=
  match rehearsal.ledger.bind fun store => (store.selectedName? statement).map (store, ·) with
  | some (store, name) =>
      match rehearsal.recorder.record statement with
      | (.error error, recorder) => (.error error, { rehearsal with recorder })
      | (.ok (), recorder) => (store.select name, { rehearsal with recorder })
  | none =>
      let (answer, recorder) := rehearsal.recorder.query statement
      (answer, { rehearsal with recorder })

def connection (tablePrefix : String) : Connection Rehearsal where
  tablePrefix
  execute := execute
  query := query

end Rehearsal

end SchemaLedger
