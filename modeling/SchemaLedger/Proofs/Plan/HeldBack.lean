import Mathlib.Data.List.Nodup
import SchemaLedger.Exchange.Recorder
import SchemaLedger.Plan.Schema
import SchemaLedger.Proofs.History.LedgerStatement
import SchemaLedger.Proofs.Plan.QueryCalls
import SchemaLedger.Proofs.Sql.Compilation

/-! # What is held back when commands do not compile

Most operations compile all of their commands before they send anything, so an error holds back
every statement. Reading results compiles one command at a time and has by then sent what came
before.
-/

namespace SchemaLedger

set_option autoImplicit false

variable {σ α β : Type}

namespace Session

variable (connection : Connection σ) (state : σ) {session : Session α} {error : Error}

/-- The session ends in the error and the connection never hears of it. -/
structure HeldBack (session : Session α) (error : Error) : Prop where
  failed : (session.run connection state).result = .error error
  unchanged : (session.run connection state).state = state
  silent : (session.run connection state).sent = []

variable {connection state}

theorem heldBack_iff : session.HeldBack connection state error ↔
    session.transcript connection state = ⟨.error error, state, []⟩ := by
  obtain ⟨hresult, hstate, hsent⟩ := session.run_transcript connection state
  constructor
  · rintro ⟨hfailed, hunchanged, hsilent⟩
    rw [hresult] at hfailed
    rw [hstate] at hunchanged
    rw [hsent, Transcript.sent, List.map_eq_nil_iff] at hsilent
    cases h : session.transcript connection state
    simp_all only
  · intro htranscript
    rw [htranscript] at hresult hstate hsent
    exact ⟨hresult, hstate, hsent⟩

theorem HeldBack.bind (h : session.HeldBack connection state error) (next : α → Session β) :
    (session >>= next).HeldBack connection state error := by
  rw [heldBack_iff] at h ⊢
  rw [transcript_bind, h]
  rfl

theorem heldBack_map_iff (f : α → β) :
    (f <$> session).HeldBack connection state error ↔ session.HeldBack connection state error := by
  rw [heldBack_iff, heldBack_iff, transcript_map]
  cases h : session.transcript connection state with
  | mk result final exchanges => cases result <;> simp [Transcript.map, Except.map]

theorem heldBack_throw : (throw error : Session α).HeldBack connection state error :=
  heldBack_iff.2 (transcript_throw connection error state)

theorem heldBack_bind_iff {a : α} {next : α → Session β}
    (h : session.transcript connection state = ⟨.ok a, state, []⟩) :
    (session >>= next).HeldBack connection state error ↔
      (next a).HeldBack connection state error := by
  rw [heldBack_iff, heldBack_iff, transcript_bind, h]
  rfl

end Session

section

variable (connection : Connection σ) (state : σ)

theorem Session.transcript_notes (entry : β → LogEntry) (items : List β) :
    (items.forM fun item => note (entry item)).transcript connection state =
      ⟨.ok (), state, []⟩ := by
  induction items with
  | nil => rfl
  | cons item rest ih =>
    change (note (entry item) >>= fun _ => rest.forM fun item => note (entry item)).transcript
      connection state = _
    rw [transcript_bind, transcript_note]
    exact ih

variable {connection state} {grammar : Grammar} {error : Error}

theorem Grammar.transcript_statements (source : Source) :
    (grammar.statements source).transcript connection state =
      ⟨grammar.compileAll source, state, []⟩ := by
  rw [statements, Session.transcript_bind, Session.transcript_notes]
  rfl

theorem Grammar.heldBack_statements {source : Source} (h : grammar.compileAll source = .error error) :
    (grammar.statements source).HeldBack connection state error := by
  rw [Session.heldBack_iff, transcript_statements, h]

theorem Blueprint.heldBack_build {blueprint : Blueprint}
    (h : blueprint.toSql grammar = .error error) :
    (blueprint.build grammar).HeldBack connection state error :=
  (Grammar.heldBack_statements h).bind _

namespace Query

theorem heldBack_run {query : Query} (h : query.toSql grammar = .error error) :
    (query.run grammar).HeldBack connection state error :=
  (Grammar.heldBack_statements h).bind _

theorem not_heldBack_perform {command : Command} {statement : String} {rest : List String}
    (next : List Row → Session α) :
    ¬ (perform command (statement :: rest) >>= next).HeldBack connection state error := by
  intro hheld
  rw [Session.heldBack_iff] at hheld
  have hnone := congrArg Transcript.exchanges hheld
  by_cases hfind : command = .find
  · rw [perform, if_pos hfind, bind_assoc, Session.transcript_bind] at hnone
    exact List.cons_ne_nil _ _ hnone
  · rw [perform, if_neg hfind, bind_assoc, Session.transcript_bind] at hnone
    exact List.cons_ne_nil _ _ hnone

theorem heldBack_resultsOf_iff {source : Source} {commands : List Command}
    (h : grammar.compileEach source commands = .error error) :
    (resultsOf grammar source commands).HeldBack connection state error ↔
      ∀ command ∈ grammar.compiling source commands, grammar.outputs source command = [] := by
  -- a command that compiles to no statement leaves the connection to the commands behind it
  induction commands with
  | nil => cases h
  | cons command rest ih =>
    cases hcompile : grammar.compile source command with
    | error other =>
      rw [Grammar.compileEach_cons_of_error hcompile] at h
      obtain rfl := Except.error.inj h
      have hnone : ∀ earlier ∈ grammar.compiling source (command :: rest),
          grammar.outputs source earlier = [] := by
        rw [Grammar.compiling_cons_of_error hcompile]
        exact List.forall_mem_nil _
      refine iff_of_true ?_ hnone
      simp only [resultsOf, hcompile]
      exact Session.heldBack_throw.bind _
    | ok compiled =>
      rw [Grammar.compileEach_cons_eq_error_iff hcompile] at h
      rw [Grammar.compiling_cons_of_ok hcompile, List.forall_mem_cons,
        Grammar.outputs_of_ok hcompile, ← ih h]
      simp only [resultsOf, hcompile]
      rw [Session.heldBack_bind_iff (a := compiled) rfl]
      cases hstatements : compiled.toList with
      | nil =>
        rw [Session.heldBack_bind_iff (a := []) rfl]
        simp only [true_and]
        rw [bind_pure_comp, Session.heldBack_map_iff]
      | cons statement later =>
        simp only [reduceCtorEq, false_and, iff_false]
        exact not_heldBack_perform _

theorem heldBack_results_find {query : Query} (hfind : query.commands = [.find])
    (h : query.toSql grammar = .error error) :
    (query.results grammar).HeldBack connection state error := by
  refine (heldBack_resultsOf_iff h).2 ?_
  have hcommands : query.source.commands = [.find] := hfind
  rw [toSql, Grammar.compileAll, hcommands] at h
  rw [hcommands]
  cases hcompile : grammar.compile query.source .find with
  | error other => simp [Grammar.compiling_cons_of_error hcompile]
  | ok compiled =>
    rw [Grammar.compileEach_cons_eq_error_iff hcompile] at h
    cases h

end Query

end

/-- The operations that send what one accumulator compiles to, apart from reading the results of a
query of any commands: what is compiled, and the session that sends it. -/
inductive Grammar.Executes (grammar : Grammar) :
    {α : Type} → Except Error (List String) → Session α → Prop
  | build (blueprint : Blueprint) :
      Executes grammar (blueprint.toSql grammar) (blueprint.build grammar)
  | run (query : Query) : Executes grammar (query.toSql grammar) (query.run grammar)
  | create (table : String) (define : Blueprint → Blueprint) :
      Executes grammar ((define (({ table } : Blueprint).queue .create)).toSql grammar)
        (Schema.create ⟨grammar⟩ table define)
  | table (table : String) (define : Blueprint → Blueprint) :
      Executes grammar ((define { table }).toSql grammar) (Schema.table ⟨grammar⟩ table define)
  | drop (table : String) :
      Executes grammar ((({ table } : Blueprint).queue .drop).toSql grammar)
        (Schema.drop ⟨grammar⟩ table)
  | dropIfExists (table : String) :
      Executes grammar ((({ table } : Blueprint).queue .dropIfExists).toSql grammar)
        (Schema.dropIfExists ⟨grammar⟩ table)
  | rename (oldName newName : String) :
      Executes grammar ((({ table := oldName } : Blueprint).queue (.rename newName)).toSql grammar)
        (Schema.rename ⟨grammar⟩ oldName newName)
  | insert (table : String) (data : Bag) :
      Executes grammar ((({ table } : Query).insert data).toSql grammar)
        (Record.insert ⟨grammar⟩ table data)
  | update (table : String) (id : Value) (data : Bag) :
      Executes grammar ((({ table } : Query).update id data).toSql grammar)
        (Record.update ⟨grammar⟩ table id data)
  | delete (table : String) (id : Value) :
      Executes grammar ((({ table } : Query).delete id).toSql grammar)
        (Record.delete ⟨grammar⟩ table id)
  | results (table : String) (steps : List Finder.Step) :
      Executes grammar ((Record.finder ⟨grammar⟩ table steps).query.toSql grammar)
        (Record.finder ⟨grammar⟩ table steps).results
  | first (table : String) (steps : List Finder.Step) :
      Executes grammar (((Record.finder ⟨grammar⟩ table steps).limit 1).query.toSql grammar)
        (Record.finder ⟨grammar⟩ table steps).first
  | lookup (ledger : Ledger) (name : String) :
      Executes grammar ((ledger.lookupQuery name).toSql grammar) (ledger.lookup grammar name)
  | record (ledger : Ledger) (name : String) :
      Executes grammar ((ledger.recordQuery name).toSql grammar) (ledger.record grammar name)
  | forget (ledger : Ledger) (name : String) :
      Executes grammar ((ledger.forgetQuery name).toSql grammar) (ledger.forget grammar name)

theorem Grammar.Executes.heldBack {grammar : Grammar} {connection : Connection σ} {state : σ}
    {compiled : Except Error (List String)} {session : Session α} {error : Error}
    (h : grammar.Executes compiled session) (herror : compiled = .error error) :
    session.HeldBack connection state error := by
  cases h with
  | build | create | table | drop | dropIfExists | rename => exact Blueprint.heldBack_build herror
  | run | insert | update | delete => exact Query.heldBack_run herror
  | results table steps =>
    rw [Finder.results, Record.grammar_finder]
    exact Query.heldBack_results_find (Record.commands_finder _ table steps) herror
  | first table steps =>
    rw [Finder.first, Session.heldBack_map_iff, Finder.results]
    have hgrammar : ((Record.finder ⟨grammar⟩ table steps).limit 1).grammar = grammar :=
      Record.grammar_finder _ table steps
    rw [hgrammar]
    exact Query.heldBack_results_find (Record.commands_finder _ table steps) herror
  | lookup ledger name => exact (Query.heldBack_results_find rfl herror).bind _
  | record | forget => exact (Query.heldBack_run herror).bind _

theorem Ledger.transcript_status_of_heldBack {ledger : Ledger} {grammar : Grammar} {name : String}
    {connection : Connection σ} {state : σ} {error : Error}
    (h : (ledger.lookup grammar name).HeldBack connection state error) :
    (ledger.status grammar name).transcript connection state = ⟨.pending, state, []⟩ := by
  rw [Session.heldBack_iff] at h
  rw [Ledger.status, Script.bind_eq, Script.transcript_bind]
  change ((ledger.lookup grammar name).transcript connection state).andThen _ = _
  rw [h]
  rfl

/-- An error of compilation holds back every statement of the operations that compile first. It
holds back those of a query whose results are read exactly when the commands before it have none.
The status of a migration is then pending. -/
theorem compile_error_held_back (grammar : Grammar) (connection : Connection σ) (state : σ)
    (error : Error) :
    (∀ {α : Type} {compiled : Except Error (List String)} {session : Session α},
      grammar.Executes compiled session → compiled = .error error →
        session.HeldBack connection state error) ∧
    (∀ query : Query, query.toSql grammar = .error error →
      ((query.results grammar).HeldBack connection state error ↔
        ∀ command ∈ grammar.compiling query.source query.commands,
          grammar.outputs query.source command = [])) ∧
    ∀ (ledger : Ledger) (name : String), (ledger.lookupQuery name).toSql grammar = .error error →
      let run := (ledger.status grammar name).run connection state
      run.result = .pending ∧ run.state = state ∧ run.sent = [] := by
  refine ⟨fun h herror => h.heldBack herror, fun query h => Query.heldBack_resultsOf_iff h, ?_⟩
  intro ledger name h
  have hlookup : (ledger.lookup grammar name).HeldBack connection state error :=
    (Grammar.Executes.lookup ledger name).heldBack h
  obtain ⟨hresult, hstate, hsent⟩ :=
    (ledger.status grammar name).run_transcript connection state
  rw [Ledger.transcript_status_of_heldBack hlookup] at hresult hstate hsent
  exact ⟨hresult, hstate, hsent⟩

theorem run_held_back_by_empty_insert :
    let dialect : MySql := { tablePrefix := "" }
    let query : Query := Query.ofCalls "t" [.find, .insert ∅]
    let error : Error := .invalidCommand "insert into t has no data"
    query.toSql dialect.grammar = .error error ∧
      (query.run dialect.grammar).HeldBack (Recorder.connection "") {} error := by
  intro dialect query error
  have herror : query.toSql dialect.grammar = .error error := by decide +kernel
  exact ⟨herror, (compile_error_held_back dialect.grammar _ _ error).1 (.run query) herror⟩

/-- The read before an empty insert is sent, although the query does not compile. -/
theorem results_sent_before_error :
    let dialect : MySql := { tablePrefix := "" }
    let query : Query := Query.ofCalls "t" [.find, .insert ∅]
    let error : Error := .invalidCommand "insert into t has no data"
    let run := (query.results dialect.grammar).run (Recorder.connection "") {}
    query.toSql dialect.grammar = .error error ∧ run.result = .error error ∧
      run.sent = [(.query, "SELECT * FROM `t` LIMIT 10")] := by
  refine ⟨?_, ?_, ?_⟩ <;> decide +kernel

end SchemaLedger
