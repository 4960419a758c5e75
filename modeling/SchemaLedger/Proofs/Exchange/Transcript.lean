import SchemaLedger.Exchange.Connection

/-! # Transcripts of runs

The transcript of a run keeps its result, the state it reached and every statement that was sent,
with the state in which the connection received it; log entries are left out. Transcripts obey the
laws of the scripts behind them: what follows in a script follows in the transcript, from the state
reached.
-/

namespace SchemaLedger

set_option autoImplicit false

variable {σ α β : Type}

/-- A statement that is sent in some state of the connection. -/
structure Exchange (σ : Type) where
  before : σ
  channel : Channel
  statement : String

namespace Exchange

def sending (exchange : Exchange σ) : Channel × String :=
  (exchange.channel, exchange.statement)

/-- The state in which the statement leaves the connection, whatever its answer. -/
def after (connection : Connection σ) (exchange : Exchange σ) : σ :=
  match exchange.channel with
  | .execute => (connection.execute exchange.statement exchange.before).2
  | .query => (connection.query exchange.statement exchange.before).2

end Exchange

structure Transcript (σ α : Type) where
  result : α
  state : σ
  exchanges : List (Exchange σ)

namespace Transcript

def sent (transcript : Transcript σ α) : List (Channel × String) :=
  transcript.exchanges.map Exchange.sending

def map (f : α → β) (transcript : Transcript σ α) : Transcript σ β :=
  { transcript with result := f transcript.result }

/-- The transcript, followed by what its result asks for. -/
def andThen (transcript : Transcript σ α) (next : α → σ → Transcript σ β) : Transcript σ β :=
  let second := next transcript.result transcript.state
  { second with exchanges := transcript.exchanges ++ second.exchanges }

def preceded (exchange : Exchange σ) (transcript : Transcript σ α) : Transcript σ α :=
  { transcript with exchanges := exchange :: transcript.exchanges }

end Transcript

namespace Event

def sending? : Event → Option (Channel × String)
  | note _ => none
  | sent channel statement => some (channel, statement)

end Event

def Run.sent (run : Run σ α) : List (Channel × String) :=
  run.trace.filterMap Event.sending?

namespace Script

variable (connection : Connection σ)

def transcript : Script α → σ → Transcript σ α
  | .done result, state => ⟨result, state, []⟩
  | .note _ next, state => next.transcript state
  | .execute statement next, state =>
      ((next (connection.execute statement state).1).transcript
        (connection.execute statement state).2).preceded ⟨state, .execute, statement⟩
  | .query statement next, state =>
      ((next (connection.query statement state).1).transcript
        (connection.query statement state).2).preceded ⟨state, .query, statement⟩

/-- A run has the result, the state and the statements of its transcript. -/
theorem run_transcript (script : Script α) (state : σ) :
    (script.run connection state).result = (script.transcript connection state).result ∧
      (script.run connection state).state = (script.transcript connection state).state ∧
      (script.run connection state).sent = (script.transcript connection state).sent := by
  induction script generalizing state with
  | done result => exact ⟨rfl, rfl, rfl⟩
  | note entry next ih => exact ih state
  | execute statement next ih =>
    obtain ⟨hresult, hstate, hsent⟩ :=
      ih (connection.execute statement state).1 (connection.execute statement state).2
    exact ⟨hresult, hstate, congrArg (List.cons _) hsent⟩
  | query statement next ih =>
    obtain ⟨hresult, hstate, hsent⟩ :=
      ih (connection.query statement state).1 (connection.query statement state).2
    exact ⟨hresult, hstate, congrArg (List.cons _) hsent⟩

theorem transcript_bind (script : Script α) (f : α → Script β) (state : σ) :
    (script.bind f).transcript connection state =
      (script.transcript connection state).andThen fun a => (f a).transcript connection := by
  induction script generalizing state with
  | done result => rfl
  | note entry next ih => exact ih state
  | execute statement next ih => exact congrArg (Transcript.preceded _) (ih _ _)
  | query statement next ih => exact congrArg (Transcript.preceded _) (ih _ _)

/-- What holds at first and is kept by every statement that is sent holds all along. -/
theorem transcript_invariant {P : σ → Prop} (script : Script α) {state : σ} (hstart : P state)
    (hkept : ∀ exchange ∈ (script.transcript connection state).exchanges,
      P exchange.before → P (exchange.after connection)) :
    (∀ exchange ∈ (script.transcript connection state).exchanges, P exchange.before) ∧
      P (script.transcript connection state).state := by
  induction script generalizing state with
  | done result => exact ⟨List.forall_mem_nil _, hstart⟩
  | note entry next ih => exact ih hstart hkept
  | execute statement next ih =>
    obtain ⟨hfirst, hrest⟩ := List.forall_mem_cons.1 hkept
    obtain ⟨hbefore, hend⟩ := ih _ (hfirst hstart) hrest
    exact ⟨List.forall_mem_cons.2 ⟨hstart, hbefore⟩, hend⟩
  | query statement next ih =>
    obtain ⟨hfirst, hrest⟩ := List.forall_mem_cons.1 hkept
    obtain ⟨hbefore, hend⟩ := ih _ (hfirst hstart) hrest
    exact ⟨List.forall_mem_cons.2 ⟨hstart, hbefore⟩, hend⟩

end Script

namespace Session

@[simp] theorem mapError_ok (f : Error → Error) (a : α) :
    (Except.ok a : Except Error α).mapError f = .ok a := rfl

@[simp] theorem mapError_error (f : Error → Error) (error : Error) :
    (Except.error error : Except Error α).mapError f = .error (f error) := rfl

variable (connection : Connection σ)

def transcript (session : Session α) (state : σ) : Transcript σ (Except Error α) :=
  Script.transcript connection (ExceptT.run session) state

theorem run_transcript (session : Session α) (state : σ) :
    (session.run connection state).result = (session.transcript connection state).result ∧
      (session.run connection state).state = (session.transcript connection state).state ∧
      (session.run connection state).sent = (session.transcript connection state).sent :=
  Script.run_transcript connection (ExceptT.run session) state

/-- How a session goes on behind a result: an error ends it, and nothing more is sent. -/
def proceed (next : α → Session β) : Except Error α → σ → Transcript σ (Except Error β)
  | .ok a, state => (next a).transcript connection state
  | .error error, state => ⟨.error error, state, []⟩

@[simp] theorem transcript_pure (a : α) (state : σ) :
    (pure a : Session α).transcript connection state = ⟨.ok a, state, []⟩ := rfl

@[simp] theorem transcript_throw (error : Error) (state : σ) :
    (throw error : Session α).transcript connection state = ⟨.error error, state, []⟩ := rfl

@[simp] theorem transcript_note (entry : LogEntry) (state : σ) :
    (note entry).transcript connection state = ⟨.ok (), state, []⟩ := rfl

theorem transcript_bind (session : Session α) (next : α → Session β) (state : σ) :
    (session >>= next).transcript connection state =
      (session.transcript connection state).andThen (proceed connection next) := by
  rw [transcript, ExceptT.run_bind, Script.bind_eq, Script.transcript_bind]
  congr 1
  funext result state
  cases result <;> rfl

theorem transcript_map (f : α → β) (session : Session α) (state : σ) :
    (f <$> session).transcript connection state =
      (session.transcript connection state).map (·.map f) := by
  rw [map_eq_pure_bind, transcript_bind]
  cases h : (session.transcript connection state).result <;>
    simp [Transcript.andThen, Transcript.map, h, proceed, Except.map]

theorem transcript_lift (script : Script α) (state : σ) :
    Session.transcript connection (ExceptT.lift script) state =
      (script.transcript connection state).map .ok := by
  rw [transcript, ExceptT.run_lift, map_eq_pure_bind, Script.bind_eq, Script.transcript_bind]
  simp [Transcript.andThen, Transcript.map, Script.transcript]

theorem transcript_attempt (session : Session α) (state : σ) :
    session.attempt.transcript connection state =
      (session.transcript connection state).map .ok :=
  transcript_lift connection (ExceptT.run session) state

theorem transcript_mapError (f : Error → Error) (session : Session α) (state : σ) :
    (session.mapError f).transcript connection state =
      (session.transcript connection state).map (·.mapError f) := by
  change Script.transcript connection (Except.mapError f <$> ExceptT.run session) state = _
  rw [map_eq_pure_bind, Script.bind_eq, Script.transcript_bind]
  simp only [Transcript.andThen, Script.pure_eq, Script.transcript, List.append_nil]
  rfl

end Session

end SchemaLedger
