import Mathlib.Data.List.Basic
import SchemaLedger.Proofs.Plan.ImpliedNormalForm

/-! # The order of implied commands

Callers who leave Change and Add to be implied find each of them at most once, and both in front of
all that they declared. A command is put in front when the columns first need it. So the first
columns for which commands were implied settle the order: it is Change before Add when one of them
is to be added, and the other way round when all of them are changed and one to be added comes
later.
-/

namespace SchemaLedger

set_option autoImplicit false

namespace Blueprint

/-- The columns that were found each time that commands were implied. -/
def implications (columns : List Column) : List Call → List (List Column)
  | [] => []
  | call :: rest =>
      (if call.implies then [columns] else []) ++ implications (call.columns columns) rest

def firstImplied (implied : List (List Column)) : List Column :=
  (implied.find? (!·.isEmpty)).getD []

/-- What stands in front when commands were implied for these columns, one after the other. -/
def leading (implied : List (List Column)) : List Command :=
  let change := if implied.any (·.any (·.change)) then [Command.change] else []
  let add := if implied.any (·.any (!·.change)) then [Command.add] else []
  if (firstImplied implied).any (!·.change) then change ++ add else add ++ change

variable {implied : List (List Column)} {columns : List Column}

theorem firstImplied_cases (implied : List (List Column)) :
    firstImplied implied = [] ∧ (∀ columns ∈ implied, columns = []) ∨
      firstImplied implied ∈ implied ∧ firstImplied implied ≠ [] := by
  unfold firstImplied
  cases hfound : implied.find? (!·.isEmpty) with
  | none =>
    left
    rw [List.find?_eq_none] at hfound
    simpa using hfound
  | some first =>
    right
    have hfirst := List.find?_some hfound
    exact ⟨List.mem_of_find?_eq_some hfound, by simpa using hfirst⟩

theorem firstImplied_append : firstImplied (implied ++ [columns]) =
    if firstImplied implied = [] then columns else firstImplied implied := by
  unfold firstImplied
  rw [List.find?_append]
  cases hfound : implied.find? (!·.isEmpty) with
  | none => cases columns <;> rfl
  | some first =>
    have hfirst : first ≠ [] := by simpa using List.find?_some hfound
    exact (if_neg hfirst).symm

theorem any_of_firstImplied {p : Column → Bool} (h : (firstImplied implied).any p) :
    implied.any (·.any p) := by
  obtain ⟨hnone, -⟩ | ⟨hfirst, -⟩ := firstImplied_cases implied
  · rw [hnone] at h
    cases h
  · exact List.any_eq_true.2 ⟨_, hfirst, h⟩

theorem leading_of_add_first (h : (firstImplied implied).any (!·.change)) :
    leading implied = (if implied.any (·.any (·.change)) then [.change] else []) ++ [.add] := by
  simp [leading, h, any_of_firstImplied h]

theorem leading_of_change_first (hne : firstImplied implied ≠ [])
    (h : ¬ (firstImplied implied).any (!·.change)) :
    leading implied = (if implied.any (·.any (!·.change)) then [.add] else []) ++ [.change] := by
  have hchange : (firstImplied implied).any (·.change) := by
    obtain ⟨column, rest, hcolumns⟩ := List.exists_cons_of_ne_nil hne
    simp_all
  simp [leading, h, any_of_firstImplied hchange]

/-- An implication puts in front what its columns need and what does not stand there yet. -/
theorem leading_append : leading (implied ++ [columns]) =
    (if columns.any (·.change) ∧ .change ∉ leading implied then [.change] else []) ++
      (if columns.any (!·.change) ∧ .add ∉ leading implied then [.add] else []) ++
        leading implied := by
  have happend : ∀ p : Column → Bool,
      (implied ++ [columns]).any (·.any p) = (implied.any (·.any p) || columns.any p) := by simp
  obtain ⟨hnone, hempty⟩ | ⟨-, hne⟩ := firstImplied_cases implied
  · -- no column was there before, so nothing stands in front
    have hany : ∀ p : Column → Bool, implied.any (·.any p) = false := by
      intro p
      rw [List.any_eq_false]
      intro columns hcolumns
      simp [hempty columns hcolumns]
    simp only [leading, firstImplied_append, happend, hany, hnone, Bool.false_or, if_true]
    cases columns.any (·.change) <;> cases columns.any (!·.change) <;> simp
  · -- the first columns stay the first, and the command that they need stands last
    have hfirst : firstImplied (implied ++ [columns]) = firstImplied implied := by
      rw [firstImplied_append, if_neg hne]
    by_cases hadd : (firstImplied implied).any (!·.change)
    · rw [leading_of_add_first hadd, leading_of_add_first (hfirst ▸ hadd), happend]
      by_cases hold : implied.any (·.any (·.change)) <;>
        by_cases hnew : columns.any (·.change) <;> simp [hold, hnew]
    · rw [leading_of_change_first hne hadd,
        leading_of_change_first (hfirst ▸ hne) (hfirst ▸ hadd), happend]
      by_cases hold : implied.any (·.any (!·.change)) <;>
        by_cases hnew : columns.any (!·.change) <;> simp [hold, hnew]

theorem mem_leading_iff {command : Command} : command ∈ leading implied ↔
    command = .change ∧ implied.any (·.any (·.change)) ∨
      command = .add ∧ implied.any (·.any (!·.change)) := by
  by_cases hfirst : (firstImplied implied).any (!·.change)
  · simp only [leading, if_pos hfirst, List.mem_append, List.mem_ite_nil_right,
      List.mem_singleton, and_comm]
  · simp only [leading, if_neg hfirst, List.mem_append, List.mem_ite_nil_right,
      List.mem_singleton, and_comm, or_comm]

theorem nodup_leading : (leading implied).Nodup := by
  unfold leading
  split <;> split <;> split <;> decide

theorem leading_of_both (hchange : .change ∈ leading implied) (hadd : .add ∈ leading implied) :
    leading implied =
      if (firstImplied implied).any (!·.change) then [.change, .add] else [.add, .change] := by
  have hchanged : implied.any (·.any (·.change)) := by simpa using mem_leading_iff.1 hchange
  have hadded : implied.any (·.any (!·.change)) := by simpa using mem_leading_iff.1 hadd
  rw [leading, if_pos hchanged, if_pos hadded]
  rfl

/-- In front stand the commands that were implied for the columns, and behind them the declared ones
in order, with nothing more that would create a table, change columns or add them. -/
structure LedBy (implied : List (List Column)) (declared rest commands : List Command) : Prop where
  split : commands = leading implied ++ rest
  plain : ∀ command ∈ rest, command ∉ [.create, .change, .add]
  ordered : declared.Sublist rest

variable {declared rest : List Command} {blueprint : Blueprint}

theorem LedBy.create_notMem {commands : List Command} (h : LedBy implied declared rest commands) :
    .create ∉ commands := by
  intro hcreate
  rw [h.split] at hcreate
  obtain hleading | hrest := List.mem_append.1 hcreate
  · obtain ⟨⟨⟩, -⟩ | ⟨⟨⟩, -⟩ := mem_leading_iff.1 hleading
  · exact h.plain _ hrest (by simp)

theorem LedBy.leadingCommands_append (h : LedBy implied declared rest blueprint.commands) :
    blueprint.leadingCommands ++ leading implied = leading (implied ++ [blueprint.columns]) := by
  have hfree : ∀ command ∈ [Command.change, .add],
      (command ∉ blueprint.commands) = (command ∉ leading implied) := by
    intro command hcommand
    rw [h.split, List.mem_append, not_or, eq_iff_iff]
    exact and_iff_left fun hmem => h.plain command hmem (List.mem_cons_of_mem _ hcommand)
  rw [leading_append, leadingCommands_of_no_create _ h.create_notMem]
  simp only [hfree .change (by simp), hfree .add (by simp)]

theorem LedBy.call (h : LedBy implied declared rest blueprint.commands) {call : Call}
    (hcall : ∀ command ∈ call.command?, command ∉ [.create, .change, .add]) :
    ∃ rest, LedBy (implied ++ if call.implies then [blueprint.columns] else [])
      (declared ++ call.command?.toList) rest (blueprint.call call).commands := by
  refine ⟨rest ++ blueprint.queuedBehind call, ?_, List.forall_mem_append.2 ⟨h.plain, ?_⟩, ?_⟩
  · rw [commands_call]
    cases call.implies with
    | false => simp [h.split]
    | true => simp [← h.leadingCommands_append, h.split]
  · intro command hcommand
    exact (blueprint.mem_queuedBehind hcommand).elim (hcall command) id
  · exact h.ordered.append (List.sublist_append_left ..)

theorem LedBy.callAll (h : LedBy implied declared rest blueprint.commands) {calls : List Call}
    (hcalls : ∀ command ∈ declaredCommands calls, command ∉ [.create, .change, .add]) :
    ∃ rest, LedBy (implied ++ implications blueprint.columns calls)
      (declared ++ declaredCommands calls) rest (blueprint.callAll calls).commands := by
  induction calls generalizing blueprint implied declared rest with
  | nil =>
    rw [implications, List.append_nil, declaredCommands, List.filterMap_nil, List.append_nil]
    exact ⟨rest, h⟩
  | cons call calls ih =>
    rw [declaredCommands_cons, List.forall_mem_append] at hcalls
    obtain ⟨later, hlater⟩ := h.call fun command hcommand => hcalls.1 command (by simpa using hcommand)
    rw [declaredCommands_cons, implications, ← List.append_assoc, ← List.append_assoc,
      ← columns_call]
    exact ih hlater hcalls.2

theorem LedBy.count_le_one {commands : List Command} (h : LedBy implied declared rest commands)
    {command : Command} (hcommand : command ∈ [.create, .change, .add]) :
    commands.count command ≤ 1 := by
  have hnone : rest.count command = 0 :=
    List.count_eq_zero.2 fun hrest => h.plain command hrest hcommand
  rw [h.split, List.count_append, hnone, Nat.add_zero]
  exact List.nodup_iff_count_le_one.1 nodup_leading command

theorem LedBy.sublist_iff {commands : List Command} (h : LedBy implied declared rest commands)
    (hchange : .change ∈ commands) (hadd : .add ∈ commands) :
    [.change, .add].Sublist commands ↔ (firstImplied implied).any (!·.change) := by
  have hfront : commands.filter (· ∈ [Command.change, .add]) = leading implied := by
    have hleading : ∀ command ∈ leading implied, command ∈ [Command.change, .add] := by
      intro command hcommand
      obtain ⟨rfl, -⟩ | ⟨rfl, -⟩ := mem_leading_iff.1 hcommand <;> simp
    have hrest : ∀ command ∈ rest, command ∉ [Command.change, .add] :=
      fun command hcommand hmem => h.plain command hcommand (List.mem_cons_of_mem _ hmem)
    rw [h.split, List.filter_append, List.filter_eq_self.2 (by simpa using hleading),
      List.filter_eq_nil_iff.2 (by simpa using hrest), List.append_nil]
  have hmem : ∀ command ∈ [Command.change, .add], command ∈ commands →
      command ∈ leading implied := by
    intro command hcommand hcommands
    rw [← hfront]
    exact List.mem_filter.2 ⟨hcommands, decide_eq_true hcommand⟩
  have hboth := leading_of_both (hmem _ (by simp) hchange) (hmem _ (by simp) hadd)
  constructor
  · intro hsublist
    have hfiltered := hsublist.filter (· ∈ [Command.change, .add])
    rw [hfront, hboth] at hfiltered
    by_contra hfirst
    rw [if_neg hfirst] at hfiltered
    exact absurd hfiltered (by decide)
  · intro hfirst
    rw [h.split, hboth, if_pos hfirst]
    exact List.sublist_append_left _ _

/-- Implied commands stand in front of all declared ones, each at most once. Change stands before
Add exactly when the first columns for which commands were implied include one to be added. -/
theorem implied_commands_in_front (table : String) {calls : List Call}
    (h : ∀ command ∈ declaredCommands calls, command ∉ [.create, .change, .add]) :
    let commands := (ofCalls table calls).commands
    let implied := implications [] calls
    commands.count .change ≤ 1 ∧ commands.count .add ≤ 1 ∧
      (∃ rest, commands = leading implied ++ rest ∧ .change ∉ rest ∧ .add ∉ rest ∧
        (declaredCommands calls).Sublist rest) ∧
      (.change ∈ commands → .add ∈ commands →
        ([.change, .add].Sublist commands ↔ (firstImplied implied).any (!·.change))) := by
  intro commands implied
  have hstart : LedBy [] [] [] ({ table } : Blueprint).commands :=
    ⟨rfl, List.forall_mem_nil _, .slnil⟩
  obtain ⟨rest, hled⟩ := hstart.callAll h
  rw [List.nil_append, List.nil_append] at hled
  refine ⟨hled.count_le_one (by simp), hled.count_le_one (by simp), ⟨rest, hled.split, ?_⟩,
    hled.sublist_iff⟩
  exact ⟨fun hmem => hled.plain _ hmem (by simp), fun hmem => hled.plain _ hmem (by simp),
    hled.ordered⟩

theorem users_commands_in_front :
    let nick : Column := { Column.string "nick" 40 with change := true }
    let age : Column := { type := .integer, name := "age" }
    let declared := [Command.dropColumns ["bio"], .rename "people"]
    let calls := [Call.queue (.dropColumns ["bio"]), .imply, .declare age, .imply,
      .removeColumn "age", .declare nick, .queue (.rename "people"), .imply]
    declaredCommands calls = declared ∧
      (∀ command ∈ declaredCommands calls, command ∉ [.create, .change, .add]) ∧
      (ofCalls "users" calls).commands = [.change, .add] ++ declared ∧
      [.change, .add].Sublist (ofCalls "users" calls).commands := by
  intro nick age declared calls
  have hdeclared : ∀ command ∈ declaredCommands calls, command ∉ [.create, .change, .add] := by
    decide
  have hcommands : (ofCalls "users" calls).commands = [.change, .add] ++ declared := by
    decide +kernel
  obtain ⟨-, -, -, horder⟩ := implied_commands_in_front "users" hdeclared
  rw [hcommands] at horder
  exact ⟨rfl, hdeclared, hcommands, hcommands ▸ (horder (by decide) (by decide)).2 (by decide)⟩

/-- A column is changed before another one is declared, and then Add is put in front of Change. -/
theorem add_in_front_of_change :
    let bio : Column := { type := .text, name := "bio", change := true }
    let calls := [Call.declare bio, .imply, .declare (Column.string "email" 80), .imply]
    let dialect : MySql := { tablePrefix := "" }
    declaredCommands calls = [] ∧ (ofCalls "users" calls).commands = [.add, .change] ∧
      ¬ [.change, .add].Sublist (ofCalls "users" calls).commands ∧
      (ofCalls "users" calls).toSql dialect.grammar =
        .ok ["ALTER TABLE `users` ADD `email` varchar(80) NOT NULL",
          "ALTER TABLE `users` MODIFY `bio` text NOT NULL"] := by
  decide +kernel

end Blueprint

end SchemaLedger
