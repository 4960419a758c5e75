import Mathlib.Logic.Basic
import SchemaLedger.Plan.Blueprint

/-! # Implied commands in full

Compiling a blueprint puts the commands that change and add its columns in front of the declared
ones, each unless it is queued, and the indexes of its flagged columns behind them. Such an index
has the usual name of its column; it is left out when an index or key of that name is declared or
was implied before.
-/

namespace SchemaLedger

set_option autoImplicit false

/-- The items with a name that is neither taken at first nor the name of an item before. -/
def firstNamed {α : Type} (name : α → String) : List String → List α → List α
  | _, [] => []
  | taken, item :: rest =>
      if name item ∈ taken then firstNamed name taken rest
      else item :: firstNamed name (taken ++ [name item]) rest

theorem mem_firstNamed_iff {α : Type} {name : α → String} {taken : List String} {items : List α}
    {item : α} : item ∈ firstNamed name taken items ↔
      name item ∉ taken ∧ items.find? (name · = name item) = some item := by
  induction items generalizing taken with
  | nil => simp [firstNamed]
  | cons first rest ih =>
    rw [firstNamed]
    by_cases htaken : name first ∈ taken
    · rw [if_pos htaken, ih]
      refine and_congr_right fun hfree => ?_
      have hother : name first ≠ name item := fun hsame => hfree (hsame ▸ htaken)
      rw [List.find?_cons_of_neg (by simpa using hother)]
    · rw [if_neg htaken, List.mem_cons, ih, List.mem_append, List.mem_singleton, not_or]
      by_cases hsame : name first = name item
      · rw [List.find?_cons_of_pos (by simpa using hsame), ← hsame]
        simp [htaken, eq_comm]
      · have hne : item ≠ first := fun heq => hsame (heq ▸ rfl)
        rw [List.find?_cons_of_neg (by simpa using hsame)]
        simp [hne, Ne.symm hsame]

theorem exists_mem_firstNamed {α : Type} {name : α → String} {taken : List String} {items : List α}
    {item : α} (h : item ∈ items) :
    name item ∈ taken ∨ ∃ other ∈ firstNamed name taken items, name other = name item := by
  by_cases htaken : name item ∈ taken
  · exact .inl htaken
  · have hfound : (items.find? (name · = name item)).isSome := by
      rw [List.find?_isSome]
      exact ⟨item, h, by simp⟩
    obtain ⟨other, hother⟩ := Option.isSome_iff_exists.1 hfound
    have hsame : name other = name item := by simpa using List.find?_some hother
    refine .inr ⟨other, mem_firstNamed_iff.2 ?_, hsame⟩
    rw [hsame]
    exact ⟨htaken, hother⟩

namespace Command

/-- The kind and the columns of the index or key that the command makes. -/
def indexed? : Command → Option (IndexKind × List String)
  | primary new => some (.primary, new.columns)
  | unique new => some (.unique, new.columns)
  | index new => some (.index, new.columns)
  | foreign key => some (.foreign, key.columns)
  | _ => none

variable (kind : IndexKind) (name : String) (columns : List String)

theorem indexed?_ofIndex : (ofIndex kind name columns).indexed? = some (kind, columns) := by
  cases kind <;> rfl

theorem indexName?_ofIndex : (ofIndex kind name columns).indexName? = some name := by
  cases kind <;> rfl

end Command

namespace Blueprint

variable (blueprint : Blueprint)

def indexNames : List String :=
  blueprint.commands.filterMap Command.indexName?

def usualName (wanted : IndexKind × String) : String :=
  blueprint.indexName wanted.1 [wanted.2]

def impliedIndex (wanted : IndexKind × String) : Command :=
  .ofIndex wanted.1 (blueprint.usualName wanted) [wanted.2]

def leadingCommands : List Command :=
  if blueprint.creating then []
  else
    (if blueprint.source.changedColumns = [] ∨ .change ∈ blueprint.commands then [] else [.change]) ++
      (if blueprint.source.addedColumns = [] ∨ .add ∈ blueprint.commands then [] else [.add])

theorem indexNames_queue (kind : IndexKind) (name : String) (columns : List String) :
    (blueprint.queue (.ofIndex kind name columns)).indexNames = blueprint.indexNames ++ [name] := by
  simp [indexNames, queue, Command.indexName?_ofIndex]

theorem implyIndex_eq (wanted : IndexKind × String) : blueprint.implyIndex wanted.1 wanted.2 =
    if blueprint.usualName wanted ∈ blueprint.indexNames then blueprint
    else blueprint.queue (blueprint.impliedIndex wanted) := by
  have hqueued : (blueprint.commands.any (·.indexName? == some (blueprint.usualName wanted))) = true ↔
      blueprint.usualName wanted ∈ blueprint.indexNames := by
    simp [indexNames]
  exact if_congr hqueued rfl rfl

theorem foldl_implyIndex (wanted : List (IndexKind × String)) :
    wanted.foldl (fun blueprint (kind, column) => blueprint.implyIndex kind column) blueprint =
      { blueprint with commands := blueprint.commands ++
          (firstNamed blueprint.usualName blueprint.indexNames wanted).map blueprint.impliedIndex } := by
  induction wanted generalizing blueprint with
  | nil => simp [firstNamed]
  | cons first rest ih =>
    change rest.foldl _ (blueprint.implyIndex first.1 first.2) = _
    rw [ih, implyIndex_eq, firstNamed]
    split
    · rfl
    · rw [impliedIndex, indexNames_queue, List.map_cons, List.append_cons blueprint.commands]
      rfl

theorem implyFirst_add_change : (if blueprint.creating then blueprint
    else (blueprint.implyFirst .add (!blueprint.source.addedColumns.isEmpty)).implyFirst .change
      (!blueprint.source.changedColumns.isEmpty)) =
    { blueprint with commands := blueprint.leadingCommands ++ blueprint.commands } := by
  unfold leadingCommands
  split
  · rfl
  · cases blueprint.source.addedColumns <;> cases blueprint.source.changedColumns <;>
      by_cases hadd : .add ∈ blueprint.commands <;>
        by_cases hchange : .change ∈ blueprint.commands <;>
          simp [implyFirst, queueFirst, hadd, hchange]

theorem eq_of_mem_leadingCommands {command : Command} (h : command ∈ blueprint.leadingCommands) :
    command = .change ∨ command = .add := by
  unfold leadingCommands at h
  split at h
  · cases h
  · rw [List.mem_append] at h
    obtain h | h := h <;> split at h <;> simp_all

theorem filterMap_leadingCommands : blueprint.leadingCommands.filterMap Command.indexName? = [] := by
  rw [List.filterMap_eq_nil_iff]
  intro command h
  obtain rfl | rfl := blueprint.eq_of_mem_leadingCommands h <;> rfl

/-- All that is compiled: what the columns need in front, what was declared, and new indexes. -/
theorem addImplied_eq_append : blueprint.addImplied = { blueprint with
    commands := blueprint.leadingCommands ++ blueprint.commands ++
      (firstNamed blueprint.usualName blueprint.indexNames blueprint.flagged).map
        blueprint.impliedIndex } := by
  unfold addImplied
  dsimp only
  rw [implyFirst_add_change, foldl_implyIndex]
  have hnames : ({ blueprint with commands := blueprint.leadingCommands ++ blueprint.commands } :
      Blueprint).indexNames = blueprint.indexNames := by
    simp [indexNames, filterMap_leadingCommands]
  rw [hnames]
  rfl

theorem indexNames_addImplied : blueprint.addImplied.indexNames = blueprint.indexNames ++
    (firstNamed blueprint.usualName blueprint.indexNames blueprint.flagged).map
      blueprint.usualName := by
  have himplied : ∀ wanted, (blueprint.impliedIndex wanted).indexName? =
      some (blueprint.usualName wanted) := fun wanted => Command.indexName?_ofIndex ..
  rw [addImplied_eq_append]
  simp only [indexNames, List.filterMap_append, filterMap_leadingCommands, List.nil_append,
    List.filterMap_map, Function.comp_def, himplied, List.filterMap_eq_map']

end Blueprint

end SchemaLedger
