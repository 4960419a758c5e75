import Mathlib.Algebra.GroupWithZero.Nat
import SchemaLedger.Proofs.Exchange.Transcript

/-! # Delivery of planned statements

A plan lists statements with the channels on which they are to be sent. A session delivers its plan
when it sends these statements in order and nothing else, up to the first that the connection
rejects, and then fails with that statement; without a rejection its result follows from the
answers.
-/

namespace SchemaLedger

set_option autoImplicit false

variable {σ α β : Type}

abbrev Plan := List (Channel × String)

/-- What a connection answers to a statement that it accepts. -/
inductive Answer where
  | affected (count : UInt64)
  | found (rows : List Row)

namespace Answer

def count : Answer → UInt64
  | affected count => count
  | found _ => 0

def rows : Answer → List Row
  | affected _ => []
  | found rows => rows

/-- All affected rows, counted in 64 bits. -/
def total : List Answer → UInt64
  | [] => 0
  | answer :: answers => answer.count + total answers

theorem total_cons (answer : Answer) (answers : List Answer) :
    total (answer :: answers) = answer.count + total answers := rfl

theorem total_append (answers more : List Answer) :
    total (answers ++ more) = total answers + total more := by
  induction answers with
  | nil => exact (UInt64.zero_add _).symm
  | cons answer rest ih => rw [List.cons_append, total_cons, total_cons, ih, UInt64.add_assoc]

theorem toNat_total {answers : List Answer}
    (h : (answers.map (·.count.toNat)).sum < UInt64.size) :
    (total answers).toNat = (answers.map (·.count.toNat)).sum := by
  induction answers with
  | nil => rfl
  | cons answer rest ih =>
    rw [List.map_cons, List.sum_cons] at h ⊢
    have hrest : (total rest).toNat = (rest.map (·.count.toNat)).sum := ih (by omega)
    rw [total_cons, UInt64.toNat_add, hrest]
    exact Nat.mod_eq_of_lt h

end Answer

namespace Connection

def answer (connection : Connection σ) (channel : Channel) (statement : String) (state : σ) :
    Except Error Answer × σ :=
  match channel with
  | .execute =>
      ((connection.execute statement state).1.map .affected, (connection.execute statement state).2)
  | .query =>
      ((connection.query statement state).1.map .found, (connection.query statement state).2)

/-- Sent one after the other, the statements of the plan are all accepted, with these answers. -/
inductive Accepts (connection : Connection σ) : Plan → List Answer → σ → σ → Prop
  | nil (state : σ) : Accepts connection [] [] state state
  | cons {channel : Channel} {statement : String} {rest : Plan} {answer : Answer}
      {answers : List Answer} {start middle final : σ}
      (first : connection.answer channel statement start = (.ok answer, middle))
      (later : Accepts connection rest answers middle final) :
      Accepts connection ((channel, statement) :: rest) (answer :: answers) start final

variable {connection : Connection σ} {before after : Plan} {answers more : List Answer}
  {start middle final : σ}

theorem Accepts.append (h : connection.Accepts before answers start middle)
    (hafter : connection.Accepts after more middle final) :
    connection.Accepts (before ++ after) (answers ++ more) start final := by
  induction h with
  | nil state => exact hafter
  | cons first later ih => exact .cons first (ih hafter)

theorem Accepts.rows_of_execute (h : connection.Accepts before answers start final)
    (hexecute : ∀ sending ∈ before, sending.1 = .execute) : answers.flatMap Answer.rows = [] := by
  induction h with
  | nil state => rfl
  | @cons channel statement rest answer answers start middle final first later ih =>
    obtain ⟨rfl, hrest⟩ := List.forall_mem_cons.1 hexecute
    rw [List.flatMap_cons, ih hrest, List.append_nil]
    obtain ⟨hanswer, -⟩ := Prod.ext_iff.1 first
    change (connection.execute statement start).1.map Answer.affected = .ok answer at hanswer
    cases hcount : (connection.execute statement start).1 with
    | error error => simp [hcount, Except.map] at hanswer
    | ok count =>
      rw [hcount] at hanswer
      cases hanswer
      rfl

end Connection

namespace Session

/-- The result of a run, the state in which it leaves the connection, and what was sent in it. -/
structure Ends (connection : Connection σ) (start : σ) (session : Session α)
    (result : Except Error α) (final : σ) (sent : Plan) : Prop where
  result_eq : (session.run connection start).result = result
  state_eq : (session.run connection start).state = final
  sent_eq : (session.run connection start).sent = sent

variable {connection : Connection σ} {start middle final : σ} {session : Session α}
  {next : α → Session β} {plan sent later : Plan}

theorem ends_iff {result : Except Error α} : session.Ends connection start result final sent ↔
    (session.transcript connection start).result = result ∧
      (session.transcript connection start).state = final ∧
      (session.transcript connection start).sent = sent := by
  obtain ⟨hresult, hstate, hsent⟩ := session.run_transcript connection start
  rw [← hresult, ← hstate, ← hsent]
  exact ⟨fun ⟨h, h', h''⟩ => ⟨h, h', h''⟩, fun ⟨h, h', h''⟩ => ⟨h, h', h''⟩⟩

theorem Ends.bind_ok {a : α} {result : Except Error β}
    (h : session.Ends connection start (.ok a) middle sent)
    (hnext : (next a).Ends connection middle result final later) :
    (session >>= next).Ends connection start result final (sent ++ later) := by
  rw [ends_iff] at h hnext ⊢
  obtain ⟨hok, hmiddle, rfl⟩ := h
  obtain ⟨hresult, hfinal, rfl⟩ := hnext
  rw [transcript_bind, Transcript.andThen, hok, hmiddle]
  exact ⟨hresult, hfinal, List.map_append⟩

theorem Ends.bind_error {error : Error} (h : session.Ends connection start (.error error) final sent) :
    (session >>= next).Ends connection start (.error error) final sent := by
  rw [ends_iff] at h ⊢
  obtain ⟨herror, rfl, rfl⟩ := h
  rw [transcript_bind, Transcript.andThen, herror]
  exact ⟨rfl, rfl, congrArg (List.map Exchange.sending) (List.append_nil _)⟩

theorem Ends.map {result : Except Error α} (h : session.Ends connection start result final sent)
    (f : α → β) : (f <$> session).Ends connection start (result.map f) final sent := by
  rw [ends_iff] at h ⊢
  obtain ⟨rfl, hfinal, hsent⟩ := h
  rw [transcript_map]
  exact ⟨rfl, hfinal, hsent⟩

/-- The session sends its plan as far as the connection accepts it, and no further than the first
statement that the connection rejects. -/
inductive Delivers (connection : Connection σ) (start : σ) (plan : Plan) (finish : List Answer → α)
    (session : Session α) : Prop
  | complete {answers : List Answer} {final : σ}
      (accepted : connection.Accepts plan answers start final)
      (ends : session.Ends connection start (.ok (finish answers)) final plan)
  | stopped {before after : Plan} {channel : Channel} {statement : String} {answers : List Answer}
      {middle final : σ} {error : Error} (split : plan = before ++ (channel, statement) :: after)
      (accepted : connection.Accepts before answers start middle)
      (rejected : connection.answer channel statement middle = (.error error, final))
      (ends : session.Ends connection start (.error (.execution statement error.message)) final
        (before ++ [(channel, statement)]))

variable {finish : List Answer → α} {finish' : List Answer → β}

theorem delivers_nil (h : session.transcript connection start = ⟨.ok (finish []), start, []⟩) :
    session.Delivers connection start [] finish := by
  refine .complete (.nil start) (ends_iff.2 ?_)
  rw [h]
  exact ⟨rfl, rfl, rfl⟩

theorem delivers_singleton {channel : Channel} {statement : String}
    (h : session.transcript connection start =
      ⟨((connection.answer channel statement start).1.mapError (.ofStatement statement)).map
        fun answer => finish [answer], (connection.answer channel statement start).2,
        [⟨start, channel, statement⟩]⟩) :
    session.Delivers connection start [(channel, statement)] finish := by
  cases hanswer : connection.answer channel statement start with
  | mk answer final =>
    rw [hanswer] at h
    cases answer with
    | ok answer =>
      refine .complete (.cons hanswer (.nil final)) (ends_iff.2 ?_)
      rw [h]
      exact ⟨rfl, rfl, rfl⟩
    | error error =>
      refine .stopped (List.nil_append _).symm (.nil start) hanswer (ends_iff.2 ?_)
      rw [h]
      exact ⟨rfl, rfl, rfl⟩

theorem delivers_execute (statement : String) :
    ((execute statement).mapError (.ofStatement statement)).Delivers connection start
      [(.execute, statement)] Answer.total := by
  refine delivers_singleton ?_
  rw [transcript_mapError]
  change (⟨(connection.execute statement start).1.mapError _, _, _⟩ : Transcript σ _) =
    ⟨(((connection.execute statement start).1.map Answer.affected).mapError _).map _, _, _⟩
  cases (connection.execute statement start).1 with
  | error error => rfl
  | ok count => exact congrArg (Transcript.mk · _ _) (congrArg Except.ok (UInt64.add_zero count).symm)

theorem delivers_query (statement : String) :
    ((query statement).mapError (.ofStatement statement)).Delivers connection start
      [(.query, statement)] (·.flatMap Answer.rows) := by
  refine delivers_singleton ?_
  rw [transcript_mapError]
  change (⟨(connection.query statement start).1.mapError _, _, _⟩ : Transcript σ _) =
    ⟨(((connection.query statement start).1.map Answer.found).mapError _).map _, _, _⟩
  cases (connection.query statement start).1 with
  | error error => rfl
  | ok rows => exact congrArg (Transcript.mk · _ _) (congrArg Except.ok (List.append_nil rows).symm)

theorem Delivers.congr {other : List Answer → α} (h : session.Delivers connection start plan finish)
    (hfinish : ∀ answers final, connection.Accepts plan answers start final →
      finish answers = other answers) : session.Delivers connection start plan other := by
  cases h with
  | complete accepted ends => exact .complete accepted (hfinish _ _ accepted ▸ ends)
  | stopped split accepted rejected ends => exact .stopped split accepted rejected ends

/-- A plan goes on behind the answers to its first part; a rejection in that part ends it. -/
theorem Delivers.bind (h : session.Delivers connection start plan finish)
    (hnext : ∀ answers middle, connection.Accepts plan answers start middle →
      (next (finish answers)).Delivers connection middle later fun more => finish' (answers ++ more)) :
    (session >>= next).Delivers connection start (plan ++ later) finish' := by
  cases h with
  | complete accepted ends =>
    cases hnext _ _ accepted with
    | complete accepted' ends' => exact .complete (accepted.append accepted') (ends.bind_ok ends')
    | @stopped before after channel statement _ _ _ _ split accepted' rejected ends' =>
      have hsplit : plan ++ later = (plan ++ before) ++ (channel, statement) :: after := by
        rw [split, List.append_assoc]
      refine .stopped hsplit (accepted.append accepted') rejected ?_
      rw [List.append_assoc]
      exact ends.bind_ok ends'
  | @stopped before after channel statement _ _ _ _ split accepted rejected ends =>
    have hsplit : plan ++ later = before ++ (channel, statement) :: (after ++ later) := by
      rw [split, List.append_assoc, List.cons_append]
    exact .stopped hsplit accepted rejected ends.bind_error

/-- A session that sends nothing may stand in front. -/
theorem delivers_behind {a : α} (hsilent : session.transcript connection start = ⟨.ok a, start, []⟩)
    (h : (next a).Delivers connection start plan finish') :
    (session >>= next).Delivers connection start plan finish' := by
  have hfirst : session.Delivers connection start [] fun _ => a := delivers_nil hsilent
  apply hfirst.bind
  intro answers middle accepted
  cases accepted
  exact h

theorem Delivers.map (f : α → β) (h : session.Delivers connection start plan finish) :
    (f <$> session).Delivers connection start plan fun answers => f (finish answers) := by
  rw [map_eq_pure_bind, ← List.append_nil plan]
  refine h.bind fun answers middle _ => delivers_nil ?_
  rw [List.append_nil]
  rfl

end Session

end SchemaLedger
