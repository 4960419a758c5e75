import SchemaLedger.Proofs.Exchange.Delivery
import SchemaLedger.Proofs.Plan.HeldBack

/-! # What is sent of what compiles

The statements that an accumulator compiles to are sent in their order, each on the channel of its
command, until the connection rejects one. Reading the results of a query compiles one command at a
time and sends the same.
-/

namespace SchemaLedger

set_option autoImplicit false

variable {σ : Type} {connection : Connection σ} {start : σ} {grammar : Grammar}

theorem Grammar.transcript_statements_of_ok {source : Source} {statements : List String}
    (h : grammar.compileAll source = .ok statements) :
    (grammar.statements source).transcript connection start = ⟨.ok statements, start, []⟩ := by
  rw [transcript_statements, h]

namespace Blueprint

theorem delivers_send (statement : String) :
    (send statement).Delivers connection start [(.execute, statement)] fun _ => () := by
  unfold send
  refine Session.delivers_behind rfl ?_
  rw [bind_pure_comp]
  exact (Session.delivers_execute statement).map fun _ => ()

theorem delivers_forM_send (statements : List String) :
    (statements.forM send).Delivers connection start (statements.map (.execute, ·)) fun _ => () := by
  induction statements generalizing start with
  | nil => exact Session.delivers_nil rfl
  | cons statement rest ih => exact (delivers_send statement).bind fun _ _ _ => ih

theorem delivers_build {blueprint : Blueprint} {statements : List String}
    (h : blueprint.toSql grammar = .ok statements) :
    (blueprint.build grammar).Delivers connection start (statements.map (.execute, ·))
      fun _ => () := by
  exact Session.delivers_behind (Grammar.transcript_statements_of_ok h) (delivers_forM_send statements)

end Blueprint

namespace Query

theorem delivers_write (statement : String) :
    (write statement).Delivers connection start [(.execute, statement)] Answer.total := by
  unfold write executing
  exact Session.delivers_behind rfl (Session.delivers_execute statement)

theorem delivers_writeAll (affected : UInt64) (statements : List String) :
    (writeAll affected statements).Delivers connection start (statements.map (.execute, ·))
      fun answers => affected + Answer.total answers := by
  induction statements generalizing affected start with
  | nil =>
    apply Session.delivers_nil
    rw [writeAll, Session.transcript_pure, Answer.total, UInt64.add_zero]
  | cons statement rest ih =>
    refine (delivers_write statement).bind fun answers middle accepted => ?_
    apply (ih _).congr
    intro more final _
    rw [Answer.total_append, UInt64.add_assoc]

theorem delivers_run {query : Query} {statements : List String}
    (h : query.toSql grammar = .ok statements) :
    (query.run grammar).Delivers connection start (statements.map (.execute, ·)) Answer.total := by
  have hall : (writeAll 0 statements).Delivers connection start (statements.map (.execute, ·))
      Answer.total := by
    apply (delivers_writeAll 0 statements).congr
    intro answers final _
    exact UInt64.zero_add _
  exact Session.delivers_behind (Grammar.transcript_statements_of_ok h) hall

end Query

/-- A blueprint is built, and a query is run, by sending what it compiles to, statement for
statement, until one is rejected. What does not compile is held back. -/
theorem sent_up_to_rejection (grammar : Grammar) (connection : Connection σ) (start : σ) :
    (∀ blueprint : Blueprint,
      (∀ error, blueprint.toSql grammar = .error error →
        (blueprint.build grammar).HeldBack connection start error) ∧
      ∀ statements, blueprint.toSql grammar = .ok statements →
        (blueprint.build grammar).Delivers connection start (statements.map (.execute, ·))
          fun _ => ()) ∧
    (∀ query : Query,
      (∀ error, query.toSql grammar = .error error →
        (query.run grammar).HeldBack connection start error) ∧
      ∀ statements, query.toSql grammar = .ok statements →
        (query.run grammar).Delivers connection start (statements.map (.execute, ·))
          Answer.total) ∧
    ∀ answers : List Answer, (answers.map (·.count.toNat)).sum < UInt64.size →
      (Answer.total answers).toNat = (answers.map (·.count.toNat)).sum := by
  refine ⟨fun blueprint => ⟨?_, ?_⟩, fun query => ⟨?_, ?_⟩, fun answers => Answer.toNat_total⟩
  · exact fun error => Blueprint.heldBack_build
  · exact fun statements => Blueprint.delivers_build
  · exact fun error => Query.heldBack_run
  · exact fun statements => Query.delivers_run

/-- The second of three drops is rejected and two writes are counted. A drop of no columns and an
empty insert hold back what stands before them. -/
theorem stops_at_second_drop :
    let dialect : MySql := { tablePrefix := "app_" }
    let connection := Recorder.connection "app_"
    let recorder : Recorder := { refused := ["DROP `b`"] }
    let drops := fun names : List String =>
      { table := "t", commands := names.map fun name => .dropColumns [name] : Blueprint }
    let statements := ["ALTER TABLE `app_t` DROP `a`", "ALTER TABLE `app_t` DROP `b`",
      "ALTER TABLE `app_t` DROP `c`"]
    let run := ((drops ["a", "b", "c"]).build dialect.grammar).run connection recorder
    let query := Query.ofCalls "t" [.updateWhere (.single "a" (.int 1)), .deleteWhere]
    let writes := ["UPDATE `app_t` SET `a`='1'", "DELETE FROM `app_t`"]
    let vague : Blueprint := { table := "t", commands := [.drop, .dropColumns []] }
    let empty := Query.ofCalls "t" [.deleteWhere, .insert ∅]
    ((drops ["a", "b", "c"]).build dialect.grammar).Delivers connection recorder
        (statements.map (.execute, ·)) (fun _ => ()) ∧
      run.sent = (statements.take 2).map (.execute, ·) ∧
      run.result = .error (.execution "ALTER TABLE `app_t` DROP `b`"
        "Query execution error: statement rejected: ALTER TABLE `app_t` DROP `b`") ∧
      (query.run dialect.grammar).Delivers connection recorder (writes.map (.execute, ·))
        Answer.total ∧
      (Answer.total [.affected 2, .affected 3]).toNat = 5 ∧
      (vague.build dialect.grammar).HeldBack connection recorder
        (.invalidCommand "dropColumn on table t names no columns") ∧
      (empty.run dialect.grammar).HeldBack connection recorder
        (.invalidCommand "insert into t has no data") := by
  intro dialect connection recorder drops statements run query writes vague empty
  obtain ⟨hblueprints, hqueries, htotal⟩ :=
    sent_up_to_rejection dialect.grammar connection recorder
  refine ⟨?_, ?_, ?_, ?_, ?_, ?_, ?_⟩
  · exact (hblueprints (drops ["a", "b", "c"])).2 statements (by decide +kernel)
  · decide +kernel
  · decide +kernel
  · exact (hqueries query).2 writes (by decide +kernel)
  · exact htotal [.affected 2, .affected 3] (by decide)
  · exact (hblueprints vague).1 _ (by decide +kernel)
  · exact (hqueries empty).1 _ (by decide +kernel)

/-- The channel on which the statements of a command are sent. -/
def Command.channel : Command → Channel
  | find => .query
  | _ => .execute

namespace Query

/-- The statements that the query compiles to, with the channel of the command that each is for. -/
def plan (query : Query) (grammar : Grammar) : Plan :=
  query.commands.flatMap fun command =>
    (grammar.outputs query.source command).map (command.channel, ·)

theorem delivers_read (statement : String) :
    (read statement).Delivers connection start [(.query, statement)] (·.flatMap Answer.rows) := by
  unfold read executing
  exact Session.delivers_behind rfl (Session.delivers_query statement)

theorem delivers_one (command : Command) (statement : String) :
    (if command = .find then read statement else (fun _ => []) <$> write statement).Delivers connection
      start [(command.channel, statement)] (·.flatMap Answer.rows) := by
  split
  · next hfind =>
    rw [hfind]
    exact delivers_read statement
  · next hfind =>
    have hchannel : command.channel = .execute := by
      cases command <;> first | rfl | exact absurd rfl hfind
    rw [hchannel]
    apply ((delivers_write statement).map fun _ => []).congr
    intro answers final accepted
    exact (accepted.rows_of_execute (by simp)).symm

theorem perform_cons (command : Command) (statement : String) (rest : List String) :
    perform command (statement :: rest) =
      (if command = .find then read statement else (fun _ => []) <$> write statement) >>= fun rows =>
        (rows ++ ·) <$> perform command rest := by
  by_cases hfind : command = .find <;> simp [perform, hfind]

theorem delivers_perform (command : Command) (statements : List String) :
    (perform command statements).Delivers connection start (statements.map (command.channel, ·))
      (·.flatMap Answer.rows) := by
  induction statements generalizing start with
  | nil => exact Session.delivers_nil rfl
  | cons statement rest ih =>
    rw [perform_cons]
    refine (delivers_one command statement).bind fun answers middle accepted => ?_
    apply (ih.map _).congr
    intro more final _
    exact (List.flatMap_append ..).symm

theorem delivers_resultsOf {source : Source} {commands : List Command}
    (hcompiles : ∀ command ∈ commands, grammar.Compiles source command) :
    (resultsOf grammar source commands).Delivers connection start
      (commands.flatMap fun command => (grammar.outputs source command).map (command.channel, ·))
      (·.flatMap Answer.rows) := by
  induction commands generalizing start with
  | nil => exact Session.delivers_nil rfl
  | cons command rest ih =>
    obtain ⟨hcommand, hrest⟩ := List.forall_mem_cons.1 hcompiles
    obtain ⟨compiled, hcompile⟩ := hcommand.exists_ok
    rw [List.flatMap_cons, Grammar.outputs_of_ok hcompile]
    simp only [resultsOf, hcompile]
    refine Session.delivers_behind (a := compiled) rfl ?_
    refine (delivers_perform command compiled.toList).bind fun answers middle accepted => ?_
    rw [bind_pure_comp]
    apply ((ih hrest).map _).congr
    intro more final _
    exact (List.flatMap_append ..).symm

theorem statements_plan {query : Query} {statements : List String}
    (h : query.toSql grammar = .ok statements) : (query.plan grammar).map Prod.snd = statements := by
  obtain ⟨-, rfl⟩ := Grammar.compileEach_eq_ok_iff.1 h
  unfold plan
  rw [List.map_flatMap]
  simp [Function.comp_def]
  rfl

/-- Reading the results of a query that compiles sends the statements that it compiles to, those of
its finds for their rows, and collects the rows of all answers in order. -/
theorem results_follow_statements (query : Query) (grammar : Grammar) (connection : Connection σ)
    (start : σ) {statements : List String} (h : query.toSql grammar = .ok statements) :
    (query.plan grammar).map Prod.snd = statements ∧
      (query.results grammar).Delivers connection start (query.plan grammar)
        (·.flatMap Answer.rows) := by
  constructor
  · exact statements_plan h
  · obtain ⟨hcompiles, -⟩ := Grammar.compileEach_eq_ok_iff.1 h
    exact delivers_resultsOf hcompiles

theorem reads_and_writes_in_order :
    let dialect : MySql := { tablePrefix := "app_" }
    let grammar := dialect.grammar.restrict [.find, .insert]
    let connection := Recorder.connection "app_"
    let first : Row := .single "a" (.int 1)
    let second : Row := .single "a" (.int 2)
    let recorder : Recorder := { scripted := [[first], [second, first]] }
    let query := ofCalls "t" [.find, .insert first, .deleteWhere, .find]
    let read := "SELECT * FROM `app_t` LIMIT 10"
    let write := "INSERT INTO `app_t` (`a`) VALUES ('1')"
    query.toSql grammar = .ok [read, write, read] ∧
      query.plan grammar = [(.query, read), (.execute, write), (.query, read)] ∧
      (query.results grammar).Delivers connection recorder (query.plan grammar)
        (·.flatMap Answer.rows) ∧
      ((query.results grammar).run connection recorder).result = .ok [first, second, first] := by
  intro dialect grammar connection first second recorder query read write
  have hcompile : query.toSql grammar = .ok [read, write, read] := by decide +kernel
  refine ⟨hcompile, by decide +kernel, ?_, by decide +kernel⟩
  exact (results_follow_statements query grammar connection recorder hcompile).2

end Query

end SchemaLedger
