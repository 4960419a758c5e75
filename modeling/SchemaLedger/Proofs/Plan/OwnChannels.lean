import SchemaLedger.Exchange.Recorder
import SchemaLedger.Proofs.Plan.Sending
import SchemaLedger.Sql.MySql

/-! # Reads and writes on their own channels

Reading the results of a query sends the statements of its finds for their rows and those of its
writes for their effect, even when it fails on the way. Running a query does not look at commands
any more: it sends every statement for its effect.
-/

namespace SchemaLedger

set_option autoImplicit false

variable {σ α β : Type}

namespace Session

/-- Whatever the session sends is a beginning of the plan, and a session that succeeds sends all of
it. -/
structure KeepsTo (connection : Connection σ) (start : σ) (plan : Plan) (session : Session α) :
    Prop where
  sent_begins : (session.run connection start).sent <+: plan
  sent_of_ok : ∀ a, (session.run connection start).result = .ok a →
    (session.run connection start).sent = plan

variable {connection : Connection σ} {start : σ} {plan later : Plan} {session : Session α}
  {next : α → Session β}

theorem keepsTo_iff : session.KeepsTo connection start plan ↔
    (session.transcript connection start).sent <+: plan ∧
      ∀ a, (session.transcript connection start).result = .ok a →
        (session.transcript connection start).sent = plan := by
  obtain ⟨hresult, -, hsent⟩ := session.run_transcript connection start
  rw [← hresult, ← hsent]
  exact ⟨fun ⟨h, h'⟩ => ⟨h, h'⟩, fun ⟨h, h'⟩ => ⟨h, h'⟩⟩

theorem Delivers.keepsTo {finish : List Answer → α}
    (h : session.Delivers connection start plan finish) : session.KeepsTo connection start plan := by
  cases h with
  | complete accepted ends =>
    exact ⟨ends.sent_eq ▸ List.prefix_rfl, fun _ _ => ends.sent_eq⟩
  | @stopped before after channel statement _ _ _ _ split accepted rejected ends =>
    constructor
    · rw [ends.sent_eq, split]
      exact ⟨after, by simp⟩
    · intro a hok
      rw [ends.result_eq] at hok
      cases hok

theorem HeldBack.keepsTo {error : Error} (h : session.HeldBack connection start error)
    (plan : Plan) : session.KeepsTo connection start plan := by
  constructor
  · rw [h.silent]
    exact List.nil_prefix
  · intro a hok
    rw [h.failed] at hok
    cases hok

/-- Whether the first part ends in an error or the second one does, a beginning is sent. -/
theorem KeepsTo.bind (h : session.KeepsTo connection start plan)
    (hnext : ∀ a middle, (next a).KeepsTo connection middle later) :
    (session >>= next).KeepsTo connection start (plan ++ later) := by
  rw [keepsTo_iff] at h ⊢
  obtain ⟨hbegins, hall⟩ := h
  rw [transcript_bind, Transcript.andThen]
  cases hresult : (session.transcript connection start).result with
  | error error =>
    simp only [proceed, List.append_nil, reduceCtorEq, false_implies, implies_true, and_true]
    exact hbegins.trans (List.prefix_append plan later)
  | ok a =>
    obtain ⟨hbegins', hall'⟩ :=
      keepsTo_iff.1 (hnext a (session.transcript connection start).state)
    have hfirst : (session.transcript connection start).exchanges.map Exchange.sending = plan :=
      hall a hresult
    simp only [proceed, Transcript.sent, List.map_append, hfirst]
    exact ⟨(List.prefix_append_right_inj plan).2 hbegins', fun b hb => congrArg _ (hall' b hb)⟩

theorem keepsTo_pure (a : α) : (pure a : Session α).KeepsTo connection start [] :=
  keepsTo_iff.2 ⟨List.prefix_rfl, fun _ _ => rfl⟩

theorem KeepsTo.map (f : α → β) (h : session.KeepsTo connection start plan) :
    (f <$> session).KeepsTo connection start plan := by
  rw [map_eq_pure_bind, ← List.append_nil plan]
  exact h.bind fun a middle => keepsTo_pure (f a)

end Session

namespace Query

variable {connection : Connection σ} {start : σ} {grammar : Grammar}

theorem keepsTo_resultsOf (source : Source) (commands : List Command) :
    (resultsOf grammar source commands).KeepsTo connection start
      (commands.flatMap fun command =>
        (grammar.outputs source command).map (command.channel, ·)) := by
  induction commands generalizing start with
  | nil => exact Session.keepsTo_pure []
  | cons command rest ih =>
    rw [List.flatMap_cons]
    cases hcompile : grammar.compile source command with
    | error error =>
      simp only [resultsOf, hcompile]
      exact (Session.heldBack_throw.bind _).keepsTo _
    | ok compiled =>
      rw [Grammar.outputs_of_ok hcompile]
      simp only [resultsOf, hcompile, bind_pure_comp]
      change (perform command compiled.toList >>= fun rows =>
        (rows ++ ·) <$> resultsOf grammar source rest).KeepsTo connection start _
      exact (delivers_perform command compiled.toList).keepsTo.bind fun rows middle => ih.map _

theorem keepsTo_run (query : Query) (grammar : Grammar) :
    (query.run grammar).KeepsTo connection start
      ((query.plan grammar).map fun planned => (.execute, planned.2)) := by
  cases h : query.toSql grammar with
  | error error => exact (heldBack_run h).keepsTo _
  | ok statements =>
    have hplan : ((query.plan grammar).map fun planned => (Channel.execute, planned.2)) =
        statements.map (.execute, ·) := by
      rw [← statements_plan h, List.map_map]
      rfl
    rw [hplan]
    exact (delivers_run h).keepsTo

theorem mem_plan_iff {query : Query} {planned : Channel × String} :
    planned ∈ query.plan grammar ↔ ∃ command ∈ query.commands,
      planned.2 ∈ grammar.outputs query.source command ∧ planned.1 = command.channel := by
  obtain ⟨channel, statement⟩ := planned
  simp only [plan, List.mem_flatMap, List.mem_map, Prod.mk.injEq]
  constructor
  · rintro ⟨command, hcommand, output, houtput, rfl, rfl⟩
    exact ⟨command, hcommand, houtput, rfl⟩
  · rintro ⟨command, hcommand, houtput, rfl⟩
    exact ⟨command, hcommand, statement, houtput, rfl, rfl⟩

theorem channel_eq_query_iff {command : Command} : command.channel = .query ↔ command = .find := by
  cases command <;> simp [Command.channel]

/-- Calls queue no other commands than finds and writes of rows. -/
theorem kind_of_mem_ofCalls {table : String} {calls : List Call} {command : Command}
    (h : command ∈ (ofCalls table calls).commands) :
    match command.channel with
    | .query => command.kind = .find
    | .execute => command.kind ∈ [.insert, .update, .delete] := by
  rw [ofCalls_eq] at h
  obtain ⟨call, -, hcall⟩ := List.mem_filterMap.1 h
  cases call <;> cases hcall <;> simp [Command.channel, Command.kind]

section

variable (query : Query) (grammar : Grammar) (connection : Connection σ) (start : σ)

theorem sent_run : ((query.run grammar).run connection start).sent =
    ((query.plan grammar).take ((query.run grammar).run connection start).sent.length).map
      fun planned => (.execute, planned.2) := by
  rw [List.map_take]
  exact List.prefix_iff_eq_take.1 (keepsTo_run query grammar).sent_begins

theorem sent_run_prefix_iff : ((query.run grammar).run connection start).sent <+: query.plan grammar ↔
    ∀ planned ∈ (query.plan grammar).take ((query.run grammar).run connection start).sent.length,
      planned.1 = .execute := by
  have hsent := sent_run query grammar connection start
  rw [List.prefix_iff_eq_take]
  constructor
  · intro hsame planned hplanned
    rw [← hsame, hsent] at hplanned
    obtain ⟨other, -, rfl⟩ := List.mem_map.1 hplanned
    rfl
  · intro hexecute
    refine hsent.trans ((List.map_congr_left fun planned hplanned => ?_).trans (List.map_id _))
    rw [← hexecute planned hplanned]
    rfl

theorem plan_executes_iff : (∀ planned ∈ query.plan grammar, planned.1 = .execute) ↔
    (.find ∈ query.commands → grammar.outputs query.source .find = []) := by
  constructor
  · intro hexecute hfind
    refine List.eq_nil_iff_forall_not_mem.2 fun statement hstatement => ?_
    have hchannel := hexecute (.query, statement) (mem_plan_iff.2 ⟨.find, hfind, hstatement, rfl⟩)
    cases hchannel
  · intro hnone planned hplanned
    obtain ⟨command, hcommand, houtput, hchannel⟩ := mem_plan_iff.1 hplanned
    cases hexecute : command.channel with
    | execute => rw [hchannel, hexecute]
    | query =>
      obtain rfl := channel_eq_query_iff.1 hexecute
      rw [hnone hcommand] at houtput
      cases houtput

end

/-- Reading results keeps every statement on the channel of its command. Running a query sends the
same statements in the same order, all of them for their effect, and so they are on their own
channels exactly as long as no find is among them: for a run that succeeds, when no find has a
statement. -/
theorem own_channels (table : String) (calls : List Call) (grammar : Grammar)
    (connection : Connection σ) (start : σ) :
    let query := ofCalls table calls
    let plan := query.plan grammar
    let results := (query.results grammar).run connection start
    let run := (query.run grammar).run connection start
    (∀ planned ∈ plan, ∃ command ∈ query.commands,
      planned.2 ∈ grammar.outputs query.source command ∧
        match planned.1 with
        | .query => command.kind = .find
        | .execute => command.kind ∈ [.insert, .update, .delete]) ∧
    results.sent <+: plan ∧
    run.sent = (plan.take run.sent.length).map (fun planned => (.execute, planned.2)) ∧
    (run.sent <+: plan ↔ ∀ planned ∈ plan.take run.sent.length, planned.1 = .execute) ∧
    ∀ affected, run.result = .ok affected →
      (run.sent <+: plan ↔
        (.find ∈ query.commands → grammar.outputs query.source .find = [])) := by
  intro query plan results run
  refine ⟨?_, ?_, ?_, ?_, ?_⟩
  · intro planned hplanned
    obtain ⟨command, hcommand, houtput, hchannel⟩ := mem_plan_iff.1 hplanned
    refine ⟨command, hcommand, houtput, ?_⟩
    rw [hchannel]
    exact kind_of_mem_ofCalls hcommand
  · exact (keepsTo_resultsOf query.source query.commands).sent_begins
  · exact sent_run query grammar connection start
  · exact sent_run_prefix_iff query grammar connection start
  · intro affected hok
    have hall : run.sent.length = plan.length := by
      rw [(keepsTo_run query grammar).sent_of_ok affected hok, List.length_map]
    rw [sent_run_prefix_iff, hall, List.take_length, plan_executes_iff]

/-- A read that is run after a write is sent for its effect. -/
theorem read_sent_for_effect :
    let dialect : MySql := { tablePrefix := "" }
    let query := ofCalls "t" [.insert (.single "a" (.int 1)), .find]
    let insert := "INSERT INTO `t` (`a`) VALUES ('1')"
    let select := "SELECT * FROM `t` LIMIT 10"
    let run := (query.run dialect.grammar).run (Recorder.connection "") {}
    query.plan dialect.grammar = [(.execute, insert), (.query, select)] ∧
      run.sent = [(.execute, insert), (.execute, select)] ∧
      ¬ run.sent <+: query.plan dialect.grammar := by
  intro dialect query insert select run
  refine ⟨?_, ?_, ?_⟩ <;> decide +kernel

end Query

end SchemaLedger
