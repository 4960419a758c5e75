import SchemaLedger.Proofs.Plan.BlueprintCalls
import SchemaLedger.Proofs.Plan.FlaggedIndexes

/-! # Commands are implied once

What is implied is a fixed form around the declared commands: Change and Add in front, unless the
table is created, and behind them an index for each usual name that is still free. Once it is there,
nothing is left to be implied, so that compiling a blueprint again gives the same statements or the
same error.
-/

namespace SchemaLedger

set_option autoImplicit false

theorem firstNamed_eq_nil {α : Type} {name : α → String} {taken : List String} {items : List α}
    (h : ∀ item ∈ items, name item ∈ taken) : firstNamed name taken items = [] := by
  induction items with
  | nil => rfl
  | cons first rest ih =>
    obtain ⟨hfirst, hrest⟩ := List.forall_mem_cons.1 h
    rw [firstNamed, if_pos hfirst, ih hrest]

namespace Blueprint

variable (blueprint : Blueprint)

theorem creating_iff : blueprint.creating ↔ .create ∈ blueprint.commands := by
  simp [creating]

theorem leadingCommands_of_create (h : .create ∈ blueprint.commands) :
    blueprint.leadingCommands = [] :=
  if_pos (blueprint.creating_iff.2 h)

theorem leadingCommands_of_no_create (h : .create ∉ blueprint.commands) :
    blueprint.leadingCommands =
      (if blueprint.columns.any (·.change) ∧ .change ∉ blueprint.commands then [.change] else []) ++
        (if blueprint.columns.any (!·.change) ∧ .add ∉ blueprint.commands then [.add] else []) := by
  have hnone : ∀ (p : Column → Bool) (command : Command), List.filter p blueprint.columns = [] ∨
      command ∈ blueprint.commands ↔
        ¬ (blueprint.columns.any p ∧ command ∉ blueprint.commands) := by
    intro p command
    rw [List.filter_eq_nil_iff, List.any_eq_true, not_and_not_right]
    by_cases hcommand : command ∈ blueprint.commands <;> simp [hcommand]
  rw [leadingCommands, if_neg (fun hcreating => h (blueprint.creating_iff.1 hcreating))]
  congr 1
  · exact (if_congr (hnone _ _) rfl rfl).trans (ite_not ..)
  · exact (if_congr (hnone _ _) rfl rfl).trans (ite_not ..)

theorem create_mem_addImplied_iff :
    .create ∈ blueprint.addImplied.commands ↔ .create ∈ blueprint.commands := by
  have hleading : .create ∉ blueprint.leadingCommands := by
    intro h
    obtain h | h := blueprint.eq_of_mem_leadingCommands h <;> cases h
  have hindexes : .create ∉ blueprint.impliedIndexes := fun h =>
    blueprint.notMem_of_mem_impliedIndexes h List.mem_cons_self
  rw [commands_addImplied]
  simp [hleading, hindexes]

theorem mem_leadingCommands_iff (h : .create ∉ blueprint.commands) {command : Command} :
    command ∈ blueprint.leadingCommands ↔ command ∉ blueprint.commands ∧
      (command = .change ∧ blueprint.columns.any (·.change) ∨
        command = .add ∧ blueprint.columns.any (!·.change)) := by
  rw [leadingCommands_of_no_create blueprint h, List.mem_append, List.mem_ite_nil_right,
    List.mem_ite_nil_right, List.mem_singleton, List.mem_singleton]
  constructor
  · rintro (⟨⟨hneeded, hnew⟩, rfl⟩ | ⟨⟨hneeded, hnew⟩, rfl⟩)
    · exact ⟨hnew, .inl ⟨rfl, hneeded⟩⟩
    · exact ⟨hnew, .inr ⟨rfl, hneeded⟩⟩
  · rintro ⟨hnew, ⟨rfl, hneeded⟩ | ⟨rfl, hneeded⟩⟩
    · exact .inl ⟨⟨hneeded, hnew⟩, rfl⟩
    · exact .inr ⟨⟨hneeded, hnew⟩, rfl⟩

theorem leadingCommands_addImplied : blueprint.addImplied.leadingCommands = [] := by
  by_cases hcreate : .create ∈ blueprint.commands
  · exact leadingCommands_of_create _ (blueprint.create_mem_addImplied_iff.2 hcreate)
  · have himplied := mt blueprint.create_mem_addImplied_iff.1 hcreate
    rw [List.eq_nil_iff_forall_not_mem]
    intro command hcommand
    -- such a command would have been missing before, and then it was put in front
    obtain ⟨hmissing, hneeded⟩ := (mem_leadingCommands_iff _ himplied).1 hcommand
    rw [commands_addImplied, List.mem_append, List.mem_append, not_or, not_or] at hmissing
    rw [columns_addImplied] at hneeded
    exact hmissing.1.1 ((blueprint.mem_leadingCommands_iff hcreate).2 ⟨hmissing.1.2, hneeded⟩)

theorem impliedIndexes_addImplied : blueprint.addImplied.impliedIndexes = [] := by
  have hnames : ∀ wanted, blueprint.addImplied.usualName wanted = blueprint.usualName wanted := by
    intro wanted
    rw [addImplied_eq_append]
    rfl
  have hflagged : blueprint.addImplied.flagged = blueprint.flagged := by
    rw [flagged, columns_addImplied]
    rfl
  rw [impliedIndexes, hflagged, List.map_eq_nil_iff]
  apply firstNamed_eq_nil
  intro wanted hwanted
  rw [hnames]
  exact usual_name_queued hwanted

/-- What was implied once is not implied again. -/
theorem addImplied_addImplied : blueprint.addImplied.addImplied = blueprint.addImplied := by
  have hcommands : blueprint.addImplied.addImplied.commands = blueprint.addImplied.commands := by
    rw [commands_addImplied blueprint.addImplied, leadingCommands_addImplied,
      impliedIndexes_addImplied, List.append_nil, List.nil_append]
  rw [addImplied_eq_append blueprint.addImplied] at hcommands ⊢
  exact congrArg (fun commands => { blueprint.addImplied with commands }) hcommands

/-- Around the declared commands stand Change and Add, as the columns need them, and an index for
each free usual name, in the order of the columns. Implying again changes nothing, and compiling
again gives the same statements or the same error. -/
theorem implied_commands_normal_form (blueprint : Blueprint) :
    let implied := blueprint.addImplied
    let indexes :=
      (firstNamed blueprint.usualName blueprint.indexNames blueprint.flagged).map
        blueprint.impliedIndex
    implied.table = blueprint.table ∧ implied.columns = blueprint.columns ∧
      (.create ∉ blueprint.commands ∧ .add ∉ blueprint.commands ∧ .change ∉ blueprint.commands →
        implied.commands = (if blueprint.columns.any (·.change) then [.change] else []) ++
          (if blueprint.columns.any (!·.change) then [.add] else []) ++ blueprint.commands ++
            indexes) ∧
      (.create ∈ blueprint.commands → implied.commands = blueprint.commands ++ indexes) ∧
      implied.addImplied = implied ∧
      ∀ grammar : Grammar, (blueprint.call (.toSql grammar)).toSql grammar = blueprint.toSql grammar := by
  intro implied indexes
  refine ⟨blueprint.table_addImplied, blueprint.columns_addImplied, ?_, ?_,
    blueprint.addImplied_addImplied, fun grammar => ?_⟩
  · rintro ⟨hcreate, hadd, hchange⟩
    have hleading := blueprint.leadingCommands_of_no_create hcreate
    simp only [hadd, hchange, not_false_eq_true, and_true] at hleading
    rw [← hleading]
    exact blueprint.commands_addImplied
  · intro hcreate
    have hcommands := blueprint.commands_addImplied
    rwa [leadingCommands_of_create _ hcreate] at hcommands
  · exact congrArg (fun implied => grammar.compileAll implied.source)
      blueprint.addImplied_addImplied

theorem users_commands_implied :
    let email : Column := { Column.string "email" 80 with unique := true, index := true }
    let bio : Column := { type := .text, name := "bio", change := true, index := true }
    let declared := [Command.dropColumns ["nick"], .index ⟨"users_bio_index", ["age"], none⟩]
    let blueprint : Blueprint :=
      { table := "users", columns := [email, bio], commands := declared }
    (.create ∉ blueprint.commands ∧ .add ∉ blueprint.commands ∧ .change ∉ blueprint.commands) ∧
      blueprint.addImplied.commands = [.change, .add] ++ declared ++
        [.unique ⟨"users_email_unique", ["email"], none⟩,
          .index ⟨"users_email_index", ["email"], none⟩] := by
  intro email bio declared blueprint
  have hdeclared :
      .create ∉ blueprint.commands ∧ .add ∉ blueprint.commands ∧ .change ∉ blueprint.commands := by
    decide
  have hindexes : blueprint.impliedIndexes = [.unique ⟨"users_email_unique", ["email"], none⟩,
      .index ⟨"users_email_index", ["email"], none⟩] := by
    decide +kernel
  obtain ⟨-, -, hcommands, -⟩ := implied_commands_normal_form blueprint
  refine ⟨hdeclared, (hcommands hdeclared).trans ?_⟩
  exact congrArg ([.change, .add] ++ declared ++ ·) hindexes

end Blueprint

end SchemaLedger
