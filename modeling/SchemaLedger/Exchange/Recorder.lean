import SchemaLedger.Exchange.Connection
import SchemaLedger.Text.Parts

/-! # Recording connections

A recorder keeps the statements that it receives and runs none of them. Reads are answered with
scripted rows in the order in which these were given; statements that hold a given text are refused.
-/

namespace SchemaLedger

set_option autoImplicit false

open Text

structure Recorder where
  statements : List String := []
  /-- Answers to the reads still to come. -/
  scripted : List (List Row) := []
  refused : List String := []

namespace Recorder

def pushRows (recorder : Recorder) (rows : List Row) : Recorder :=
  { recorder with scripted := recorder.scripted ++ [rows] }

def refuse (recorder : Recorder) (text : String) : Recorder :=
  { recorder with refused := recorder.refused ++ [text] }

/-- Forgets the statements, the answers still to come and the texts to refuse. -/
def clear (_ : Recorder) : Recorder := {}

def refuses (recorder : Recorder) (statement : String) : Bool :=
  recorder.refused.any fun text => occursIn text.toList statement.toList

/-- Keeps a statement, refused or not. -/
def record (recorder : Recorder) (statement : String) : Except Error Unit × Recorder :=
  let kept := { recorder with statements := recorder.statements ++ [statement] }
  if recorder.refuses statement then
    (.error (.query ("statement rejected: " ++ statement)), kept)
  else
    (.ok (), kept)

def execute (statement : String) (recorder : Recorder) : Except Error UInt64 × Recorder :=
  match recorder.record statement with
  | (.error error, recorder) => (.error error, recorder)
  | (.ok (), recorder) => (.ok 0, recorder)

def query (statement : String) (recorder : Recorder) : Except Error (List Row) × Recorder :=
  match recorder.record statement with
  | (.error error, recorder) => (.error error, recorder)
  | (.ok (), recorder) =>
      match recorder.scripted with
      | [] => (.ok [], recorder)
      | rows :: later => (.ok rows, { recorder with scripted := later })

def connection (tablePrefix : String) : Connection Recorder where
  tablePrefix
  execute := execute
  query := query

end Recorder

end SchemaLedger
