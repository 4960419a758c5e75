import Mathlib.Data.List.Infix
import SchemaLedger.Exchange.Recorder

/-! # Recorders lose and repeat nothing

A recorder is described by the calls behind its last clearing alone: it has kept the statements
among them, it refuses the texts among them, and of the sets of rows that were pushed, those that no
read has taken are still to come. A read that is not refused takes the first set that is left.
-/

namespace SchemaLedger

set_option autoImplicit false

open Text

namespace Recorder

inductive Call where
  | pushRows (rows : List Row)
  | refuse (text : String)
  | send (channel : Channel) (statement : String)
  | clear
  deriving DecidableEq

namespace Call

def rows? : Call → Option (List Row)
  | pushRows rows => some rows
  | _ => none

def text? : Call → Option String
  | refuse text => some text
  | _ => none

def statement? : Call → Option String
  | send _ statement => some statement
  | _ => none

end Call

def step (recorder : Recorder) : Call → Recorder
  | .pushRows rows => recorder.pushRows rows
  | .refuse text => recorder.refuse text
  | .send .execute statement => (execute statement recorder).2
  | .send .query statement => (query statement recorder).2
  | .clear => recorder.clear

/-- Calls that were made, of which the latest stands first. -/
abbrev History := List Call

/-- A new recorder behind all calls of a history. -/
def behind : History → Recorder
  | [] => {}
  | call :: earlier => (behind earlier).step call

namespace History

def recent (history : History) : History :=
  history.takeWhile (· ≠ .clear)

def statements (history : History) : List String :=
  (history.filterMap Call.statement?).reverse

def texts (history : History) : List String :=
  (history.filterMap Call.text?).reverse

def pushed (history : History) : List (List Row) :=
  (history.filterMap Call.rows?).reverse

def Refuses (history : History) (statement : String) : Prop :=
  ∃ text ∈ history.texts, text.toList <:+: statement.toList

instance (history : History) (statement : String) : Decidable (history.Refuses statement) :=
  inferInstanceAs (Decidable (∃ text ∈ history.texts, _))

/-- How many of the pushed sets the reads have taken: each read that is not refused takes one, if
one is left. -/
def taken : History → Nat
  | [] => 0
  | .send .query statement :: earlier =>
      if ¬ Refuses earlier statement ∧ taken earlier < (pushed earlier).length then
        taken earlier + 1
      else
        taken earlier
  | _ :: earlier => taken earlier

/-- The number of the set that the latest call takes, counted in the order of pushing. -/
def takes? : History → Option Nat
  | .send .query statement :: earlier =>
      if ¬ Refuses earlier statement ∧ taken earlier < (pushed earlier).length then
        some (taken earlier)
      else
        none
  | _ => none

variable (history : History)

@[simp] theorem statements_cons (call : Call) :
    statements (call :: history) = history.statements ++ call.statement?.toList := by
  unfold statements
  cases h : call.statement? <;> simp [h]

@[simp] theorem texts_cons (call : Call) :
    texts (call :: history) = history.texts ++ call.text?.toList := by
  unfold texts
  cases h : call.text? <;> simp [h]

@[simp] theorem pushed_cons (call : Call) :
    pushed (call :: history) = history.pushed ++ call.rows?.toList := by
  unfold pushed
  cases h : call.rows? <;> simp [h]

theorem taken_cons (call : Call) :
    taken (call :: history) = history.taken + (takes? (call :: history)).toList.length := by
  cases call with
  | pushRows | refuse | clear => rfl
  | send channel statement =>
    cases channel with
    | execute => rfl
    | query =>
      rw [taken, takes?]
      split <;> rfl

theorem lt_of_takes? {call : Call} {number : Nat} (h : takes? (call :: history) = some number) :
    number = history.taken ∧ number < history.pushed.length := by
  unfold takes? at h
  split at h
  · next statement earlier heq =>
    obtain ⟨rfl, rfl⟩ := List.cons.inj heq
    split at h
    · next htakes =>
      cases h
      exact ⟨rfl, htakes.2⟩
    · cases h
  · cases h

theorem taken_le : history.taken ≤ history.pushed.length := by
  induction history with
  | nil => exact Nat.le_refl 0
  | cons call earlier ih =>
    rw [taken_cons, pushed_cons, List.length_append]
    cases htakes : takes? (call :: earlier) with
    | none => exact Nat.le_add_right_of_le ih
    | some number =>
      obtain ⟨rfl, hlt⟩ := lt_of_takes? earlier htakes
      exact Nat.le_add_right_of_le hlt

/-- The sets are taken in the order of their numbers, each once and none left out. -/
theorem takes_in_order : (history.tails.filterMap takes?).reverse = List.range history.taken := by
  induction history with
  | nil => rfl
  | cons call earlier ih =>
    rw [List.tails_cons, List.filterMap_cons, taken_cons]
    cases htakes : takes? (call :: earlier) with
    | none => exact ih
    | some number =>
      obtain ⟨rfl, -⟩ := lt_of_takes? earlier htakes
      rw [List.reverse_cons, ih, ← List.range_succ]
      rfl

end History

/-- The recorder is what these calls make of a new one. -/
structure Keeps (recorder : Recorder) (calls : History) : Prop where
  statements_eq : recorder.statements = calls.statements
  refused_eq : recorder.refused = calls.texts
  scripted_eq : recorder.scripted = calls.pushed.drop calls.taken

variable {recorder : Recorder} {calls : History}

theorem keeps_new : Keeps {} [] :=
  ⟨rfl, rfl, rfl⟩

theorem Keeps.refuses_iff (h : Keeps recorder calls) (statement : String) :
    recorder.refuses statement = true ↔ calls.Refuses statement := by
  simp only [refuses, h.refused_eq, History.Refuses, List.any_eq_true, occursIn_iff]

def rejection (statement : String) : Error :=
  .query ("statement rejected: " ++ statement)

theorem execute_eq (recorder : Recorder) (statement : String) : execute statement recorder =
    (if recorder.refuses statement then .error (rejection statement) else .ok 0,
      { recorder with statements := recorder.statements ++ [statement] }) := by
  unfold execute record
  by_cases h : recorder.refuses statement = true <;> simp [h, rejection]

theorem query_eq (recorder : Recorder) (statement : String) : query statement recorder =
    (if recorder.refuses statement then .error (rejection statement)
      else .ok (recorder.scripted.head?.getD []),
      { recorder with
        statements := recorder.statements ++ [statement]
        scripted := if recorder.refuses statement then recorder.scripted
          else recorder.scripted.tail }) := by
  unfold query record
  by_cases h : recorder.refuses statement = true
  · simp [h, rejection]
  · cases hscripted : recorder.scripted <;> simp [h]

theorem Keeps.pushRows (h : Keeps recorder calls) (rows : List Row) :
    Keeps (recorder.pushRows rows) (.pushRows rows :: calls) where
  statements_eq := by simp [Recorder.pushRows, h.statements_eq, Call.statement?]
  refused_eq := by simp [Recorder.pushRows, h.refused_eq, Call.text?]
  scripted_eq := by
    have htaken : History.taken (.pushRows rows :: calls) = calls.taken := rfl
    rw [htaken, History.pushed_cons, List.drop_append_of_le_length calls.taken_le, ← h.scripted_eq]
    rfl

theorem Keeps.refuse (h : Keeps recorder calls) (text : String) :
    Keeps (recorder.refuse text) (.refuse text :: calls) where
  statements_eq := by simp [Recorder.refuse, h.statements_eq, Call.statement?]
  refused_eq := by simp [Recorder.refuse, h.refused_eq, Call.text?]
  scripted_eq := by
    have htaken : History.taken (.refuse text :: calls) = calls.taken := rfl
    simp [Recorder.refuse, htaken, h.scripted_eq, Call.rows?]

theorem Keeps.execute (h : Keeps recorder calls) (statement : String) :
    Keeps (execute statement recorder).2 (.send .execute statement :: calls) where
  statements_eq := by simp [execute_eq, h.statements_eq, Call.statement?]
  refused_eq := by simp [execute_eq, h.refused_eq, Call.text?]
  scripted_eq := by
    have htaken : History.taken (.send .execute statement :: calls) = calls.taken := rfl
    simp [execute_eq, htaken, h.scripted_eq, Call.rows?]

theorem Keeps.query (h : Keeps recorder calls) (statement : String) :
    Keeps (query statement recorder).2 (.send .query statement :: calls) where
  statements_eq := by simp [query_eq, h.statements_eq, Call.statement?]
  refused_eq := by simp [query_eq, h.refused_eq, Call.text?]
  scripted_eq := by
    have hpushed : History.pushed (.send .query statement :: calls) = calls.pushed := by
      simp [Call.rows?]
    rw [query_eq, hpushed, History.taken]
    by_cases hrefuses : calls.Refuses statement
    · simp [(h.refuses_iff statement).2 hrefuses, hrefuses, h.scripted_eq]
    · have hkept : recorder.refuses statement = false := by
        simpa using mt (h.refuses_iff statement).1 hrefuses
      by_cases hleft : calls.taken < calls.pushed.length
      · simp [hkept, hrefuses, hleft, h.scripted_eq]
      · have hnone : calls.pushed.drop calls.taken = [] := List.drop_eq_nil_of_le (by omega)
        simp [hkept, hleft, h.scripted_eq, hnone]

theorem Keeps.step (h : Keeps recorder calls) {call : Call} (hcall : call ≠ .clear) :
    Keeps (recorder.step call) (call :: calls) := by
  cases call with
  | pushRows rows => exact h.pushRows rows
  | refuse text => exact h.refuse text
  | send channel statement =>
    cases channel with
    | execute => exact h.execute statement
    | query => exact h.query statement
  | clear => exact absurd rfl hcall

theorem keeps_behind (history : History) : Keeps (behind history) history.recent := by
  induction history with
  | nil => exact keeps_new
  | cons call earlier ih =>
    by_cases hcall : call = .clear
    · subst hcall
      exact keeps_new
    · have hrecent : History.recent (call :: earlier) = call :: History.recent earlier :=
        List.takeWhile_cons_of_pos (by simpa using hcall)
      rw [hrecent]
      exact ih.step hcall

/-- Behind any calls a recorder has kept the statements since the last clearing, the refused ones
among them; it refuses a statement exactly when a text that it was given since then occurs in it,
and answers another read with the first pushed set that no read has taken, or with no rows. -/
theorem calls_answered_truly (tablePrefix : String) (history : History) (statement : String) :
    (behind history).statements = history.recent.statements ∧
      ((connection tablePrefix).execute statement (behind history)).1 =
        (if history.recent.Refuses statement then
          .error (.query ("statement rejected: " ++ statement))
        else .ok 0) ∧
      ((connection tablePrefix).query statement (behind history)).1 =
        (if history.recent.Refuses statement then
          .error (.query ("statement rejected: " ++ statement))
        else .ok (history.recent.pushed[history.recent.taken]?.getD [])) ∧
      (history.recent.tails.filterMap History.takes?).reverse = List.range history.recent.taken ∧
      history.recent.taken ≤ history.recent.pushed.length := by
  have hkeeps := keeps_behind history
  have hrefuses := hkeeps.refuses_iff statement
  refine ⟨hkeeps.statements_eq, ?_, ?_, history.recent.takes_in_order, history.recent.taken_le⟩
  · change (Recorder.execute statement (behind history)).1 = _
    rw [execute_eq]
    simp only [hrefuses]
    rfl
  · change (Recorder.query statement (behind history)).1 = _
    rw [query_eq, hkeeps.scripted_eq, List.head?_drop]
    simp only [hrefuses]
    rfl

/-- Neither a read that came before the rows nor one that was refused has taken them. -/
example : ((connection "").query "SELECT 1" (behind [.send .query "SELECT 2", .refuse "2",
    .pushRows [.single "n" (.long 1)], .send .query "SELECT 1"])).1 =
      .ok [.single "n" (.long 1)] := by
  rfl

end Recorder

end SchemaLedger
