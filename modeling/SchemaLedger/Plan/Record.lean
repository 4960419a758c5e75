import SchemaLedger.Plan.Query

/-! # Reads and writes of rows -/

namespace SchemaLedger

set_option autoImplicit false

structure Record where
  grammar : Grammar

/-- A read that is being put together. -/
structure Finder where
  grammar : Grammar
  query : Query

namespace Record

def insert (record : Record) (table : String) (data : Bag) : Session UInt64 :=
  (({ table } : Query).insert data).run record.grammar

def update (record : Record) (table : String) (id : Value) (data : Bag) : Session UInt64 :=
  (({ table } : Query).update id data).run record.grammar

def delete (record : Record) (table : String) (id : Value) : Session UInt64 :=
  (({ table } : Query).delete id).run record.grammar

def find (record : Record) (table : String) : Finder where
  grammar := record.grammar
  query := ({ table } : Query).find

end Record

namespace Finder

def whereEq (finder : Finder) (key : String) (value : Value) : Finder :=
  { finder with query := finder.query.whereEq key value }

def whereAll (finder : Finder) (clause : Bag) : Finder :=
  { finder with query := finder.query.whereAll clause }

def limit (finder : Finder) (count : UInt64) : Finder :=
  { finder with query := finder.query.limit count }

def unlimited (finder : Finder) : Finder :=
  { finder with query := finder.query.unlimited }

def results (finder : Finder) : Session (List Row) :=
  finder.query.results finder.grammar

/-- The first row, which is all that is asked for. -/
def first (finder : Finder) : Session (Option Row) :=
  List.head? <$> (finder.limit 1).results

end Finder

end SchemaLedger
