import SchemaLedger.Exchange.Error
import SchemaLedger.Exchange.Log
import SchemaLedger.Value.Bag

/-! # Conversations with a database

A script says which statements are sent and what follows each possible answer, without saying who
answers. A session is a script that may fail. Everything that the library does with a database is a
session, so its behaviour is fixed for every connection, whatever that connection answers.
-/

namespace SchemaLedger

set_option autoImplicit false

inductive Script (α : Type) : Type where
  | done (result : α)
  | note (entry : LogEntry) (next : Script α)
  | execute (statement : String) (next : Except Error UInt64 → Script α)
  | query (statement : String) (next : Except Error (List Row) → Script α)

namespace Script

variable {α β γ : Type}

def bind (script : Script α) (f : α → Script β) : Script β :=
  match script with
  | done result => f result
  | note entry next => note entry (next.bind f)
  | execute statement next => execute statement fun answer => (next answer).bind f
  | query statement next => query statement fun answer => (next answer).bind f

instance : Monad Script where
  pure := done
  bind := bind

@[simp] theorem pure_eq (a : α) : (pure a : Script α) = done a := rfl

@[simp] theorem bind_eq (script : Script α) (f : α → Script β) : script >>= f = script.bind f := rfl

theorem bind_done (script : Script α) : script.bind done = script := by
  induction script with
  | done result => rfl
  | note entry next ih => simp [bind, ih]
  | execute statement next ih => simp [bind, ih]
  | query statement next ih => simp [bind, ih]

theorem bind_bind (script : Script α) (f : α → Script β) (g : β → Script γ) :
    (script.bind f).bind g = script.bind fun a => (f a).bind g := by
  induction script with
  | done result => rfl
  | note entry next ih => simp [bind, ih]
  | execute statement next ih => simp [bind, ih]
  | query statement next ih => simp [bind, ih]

instance : LawfulMonad Script :=
  LawfulMonad.mk' Script bind_done (fun _ _ => rfl) bind_bind

end Script

/-- A script that ends in a result or an error. -/
abbrev Session := ExceptT Error Script

namespace Session

variable {α : Type}

def note (entry : LogEntry) : Session Unit :=
  ExceptT.mk (.note entry (.done (.ok ())))

def execute (statement : String) : Session UInt64 :=
  ExceptT.mk (.execute statement .done)

def query (statement : String) : Session (List Row) :=
  ExceptT.mk (.query statement .done)

def mapError (f : Error → Error) (session : Session α) : Session α :=
  ExceptT.adapt f session

/-- The session with its error as a result. -/
def attempt (session : Session α) : Session (Except Error α) :=
  ExceptT.lift (ExceptT.run session)

def ofExcept (result : Except Error α) : Session α :=
  ExceptT.mk (.done result)

end Session

end SchemaLedger
