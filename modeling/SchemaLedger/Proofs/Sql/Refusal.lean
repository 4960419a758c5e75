import SchemaLedger.Proofs.Sql.StatementLists

/-! # What is refused

A command is refused when it is malformed and for no other reason. A queue of commands fails with
the error of its first malformed command; without one it compiles, and every command that is not
idle has one statement.
-/

namespace SchemaLedger

set_option autoImplicit false

/-- The name is the first in the list that stood in it before. -/
def FirstRepeated (names : List String) (name : String) : Prop :=
  ∃ before after, names = before ++ name :: after ∧ before.Nodup ∧ name ∈ before

namespace Source

variable (source : Source)

/-- What is wrong with a command. -/
inductive Fault : Command → Malformed → Prop
  | repeatedColumn {command : Command} {column : String}
      (hcommand : command = .create ∨ command = .add ∨ command = .change)
      (hcolumn : FirstRepeated (source.columns.map (·.name)) column) :
      Fault command (.repeatedColumn source.table column)
  | noDroppedColumns : Fault (.dropColumns []) (.noDroppedColumns source.table)
  | noIndexColumns {command : Command} {new : Index}
      (hcommand : command = .primary new ∨ command = .unique new ∨ command = .index new)
      (hcolumns : new.columns = []) :
      Fault command (.noIndexColumns new.name)
  | noReferencedTable {key : ForeignKey} (htarget : key.target = none) :
      Fault (.foreign key) (.noReferencedTable key.name)
  | noKeyColumns {key : ForeignKey} (htarget : key.target ≠ none)
      (hcolumns : key.columns = [] ∨ key.references = []) :
      Fault (.foreign key) (.noKeyColumns key.name)
  | noInsertData {data : Bag} (hdata : data.entries = []) :
      Fault (.insert data) (.noInsertData source.table)
  | noUpdateData {data : Bag} (hdata : data.entries = []) :
      Fault (.update data) (.noUpdateData source.table)

end Source

namespace MySql

variable {seen names before : List String} {name : String}

theorem exists_of_firstRepeated? (h : firstRepeated? seen names = some name) :
    ∃ before after, names = before ++ name :: after ∧ firstRepeated? seen before = none ∧
      (name ∈ seen ∨ name ∈ before) := by
  induction names generalizing seen with
  | nil => cases h
  | cons first rest ih =>
    rw [firstRepeated?] at h
    by_cases hseen : first ∈ seen
    · rw [if_pos hseen] at h
      obtain rfl := Option.some.inj h
      exact ⟨[], rest, rfl, rfl, .inl hseen⟩
    · rw [if_neg hseen] at h
      obtain ⟨before, after, rfl, hbefore, hname⟩ := ih h
      refine ⟨first :: before, after, rfl, ?_, ?_⟩
      · rw [firstRepeated?, if_neg hseen, hbefore]
      · simpa [or_assoc, or_left_comm] using hname

theorem firstRepeated?_of_split (hbefore : firstRepeated? seen before = none)
    (hname : name ∈ seen ∨ name ∈ before) (after : List String) :
    firstRepeated? seen (before ++ name :: after) = some name := by
  induction before generalizing seen with
  | nil => rw [List.nil_append, firstRepeated?, if_pos (hname.resolve_right List.not_mem_nil)]
  | cons first before ih =>
    rw [firstRepeated?] at hbefore
    split at hbefore
    · cases hbefore
    · next hseen =>
      rw [List.cons_append, firstRepeated?, if_neg hseen]
      exact ih hbefore (by simpa [or_assoc, or_left_comm] using hname)

theorem firstRepeated?_eq_some_iff : firstRepeated? [] names = some name ↔ FirstRepeated names name := by
  constructor
  · intro h
    obtain ⟨before, after, hnames, hbefore, hname⟩ := exists_of_firstRepeated? h
    exact ⟨before, after, hnames, (firstRepeated?_eq_none_iff.1 hbefore).1,
      hname.resolve_left List.not_mem_nil⟩
  · rintro ⟨before, after, rfl, hnodup, hname⟩
    exact firstRepeated?_of_split (firstRepeated?_eq_none_iff.2 ⟨hnodup, by simp⟩) (.inr hname) after

theorem exists_firstRepeated_iff : (∃ name, FirstRepeated names name) ↔ ¬ names.Nodup := by
  simp [← firstRepeated?_eq_some_iff, ← Option.ne_none_iff_exists', firstRepeated?_eq_none_iff]

variable {dialect : MySql} {source : Source} {command : Command}

theorem requireDistinctColumns_of_firstRepeated {column : String}
    (h : FirstRepeated (source.columns.map (·.name)) column) :
    requireDistinctColumns source = .error (Malformed.repeatedColumn source.table column).error := by
  rw [requireDistinctColumns, firstRepeated?_eq_some_iff.2 h]

/-- A command is malformed exactly when there is something that is wrong with it. -/
theorem isMalformed_iff : source.IsMalformed command ↔ ∃ fault, source.Fault command fault := by
  constructor
  · intro h
    cases command with
    | create | add | change =>
      obtain ⟨column, hcolumn⟩ := exists_firstRepeated_iff.2 h
      exact ⟨_, .repeatedColumn (by simp) hcolumn⟩
    | dropColumns columns =>
      obtain rfl : columns = [] := h
      exact ⟨_, .noDroppedColumns⟩
    | primary new | unique new | index new => exact ⟨_, .noIndexColumns (by simp) h⟩
    | foreign key =>
      -- the missing table is reported before any missing column
      by_cases htarget : key.target = none
      · exact ⟨_, .noReferencedTable htarget⟩
      · exact ⟨_, .noKeyColumns htarget (h.resolve_left htarget)⟩
    | insert data => exact ⟨_, .noInsertData h⟩
    | update data => exact ⟨_, .noUpdateData h⟩
    | drop | dropIfExists | rename newName | renameColumn oldName newName | delete | find =>
      exact h.elim
  · rintro ⟨fault, hfault⟩
    cases hfault with
    | repeatedColumn hcommand hcolumn =>
      have hrepeated := exists_firstRepeated_iff.1 ⟨_, hcolumn⟩
      obtain rfl | rfl | rfl := hcommand <;> exact hrepeated
    | noDroppedColumns => exact rfl
    | noIndexColumns hcommand hcolumns =>
      obtain rfl | rfl | rfl := hcommand <;> exact hcolumns
    | noReferencedTable htarget => exact .inl htarget
    | noKeyColumns htarget hcolumns => exact .inr hcolumns
    | noInsertData hdata => exact hdata
    | noUpdateData hdata => exact hdata

theorem compile_of_fault {fault : Malformed} (h : source.Fault command fault) :
    dialect.compile source command = .error fault.error := by
  cases h with
  | repeatedColumn hcommand hcolumn =>
    have hrefused := requireDistinctColumns_of_firstRepeated hcolumn
    obtain rfl | rfl | rfl := hcommand <;>
      simp [compile, create, alterColumns, hrefused, bind, Except.bind]
  | noDroppedColumns => rfl
  | noIndexColumns hcommand hcolumns =>
    obtain rfl | rfl | rfl := hcommand <;>
      simp [compile, addIndex, hcolumns, throw, throwThe, MonadExceptOf.throw]
  | noReferencedTable htarget => simp [compile, addForeignKey, htarget]
  | @noKeyColumns key htarget hcolumns =>
    obtain ⟨target, htarget⟩ := Option.ne_none_iff_exists'.1 htarget
    have hempty : (key.columns.isEmpty || key.references.isEmpty) = true := by simpa using hcolumns
    simp [compile, addForeignKey, htarget, hempty, throw, throwThe, MonadExceptOf.throw]
  | noInsertData hdata =>
    simp [compile, insert, Bag.isEmpty, hdata, throw, throwThe, MonadExceptOf.throw]
  | noUpdateData hdata =>
    simp [compile, update, Bag.isEmpty, hdata, throw, throwThe, MonadExceptOf.throw]

theorem compile_eq_error_iff {error : Error} : dialect.compile source command = .error error ↔
    ∃ fault, source.Fault command fault ∧ error = .invalidCommand fault.message := by
  constructor
  · intro herror
    by_cases hmalformed : source.IsMalformed command
    · obtain ⟨fault, hfault⟩ := isMalformed_iff.1 hmalformed
      exact ⟨fault, hfault, Except.error.inj (herror.symm.trans (compile_of_fault hfault))⟩
    · cases herror.symm.trans (compile_of_not_malformed hmalformed)
  · rintro ⟨fault, hfault, rfl⟩
    exact compile_of_fault hfault

theorem compiles_iff : dialect.grammar.Compiles source command ↔ ¬ source.IsMalformed command := by
  constructor
  · intro hcompiles hmalformed
    obtain ⟨fault, hfault⟩ := isMalformed_iff.1 hmalformed
    exact Grammar.not_compiles_of_error (compile_of_fault hfault) hcompiles
  · exact fun h => Grammar.compiles_of_ok (compile_of_not_malformed h)

theorem flatMap_outputs {commands : List Command}
    (h : ∀ command ∈ commands, ¬ source.IsMalformed command) :
    commands.flatMap (dialect.grammar.outputs source) =
      (commands.filter (¬ source.IsIdle ·)).map fun command =>
        Piece.textAll (dialect.pieces source command) := by
  induction commands with
  | nil => rfl
  | cons command rest ih =>
    obtain ⟨hcommand, hrest⟩ := List.forall_mem_cons.1 h
    have hcompile : dialect.grammar.compile source command = _ := compile_of_not_malformed hcommand
    rw [List.flatMap_cons, ih hrest, Grammar.outputs_of_ok hcompile]
    by_cases hidle : source.IsIdle command <;> simp [hidle, Compiled.one, Compiled.toList]

theorem compileAll_eq_error_iff {error : Error} : dialect.grammar.compileAll source = .error error ↔
    ∃ command fault, source.commands.find? (source.IsMalformed ·) = some command ∧
      source.Fault command fault ∧ error = .invalidCommand fault.message := by
  have hfault : ∀ command, dialect.grammar.compile source command = .error error ↔
      ∃ fault, source.Fault command fault ∧ error = .invalidCommand fault.message :=
    fun command => compile_eq_error_iff
  simp only [Grammar.compileAll, Grammar.compileEach_eq_error_iff, compiles_iff, not_not, hfault,
    exists_and_left]

theorem compileAll_eq_ok_iff {statements : List String} :
    dialect.grammar.compileAll source = .ok statements ↔
      (∀ command ∈ source.commands, ¬ source.IsMalformed command) ∧
        statements = (source.commands.filter (¬ source.IsIdle ·)).map fun command =>
          Piece.textAll (dialect.pieces source command) := by
  simp only [Grammar.compileAll, Grammar.compileEach_eq_ok_iff, compiles_iff]
  refine and_congr_right fun h => ?_
  rw [flatMap_outputs h]

theorem exists_compileAll_error_iff : (∃ error, dialect.grammar.compileAll source = .error error) ↔
    ∃ command ∈ source.commands, source.IsMalformed command := by
  constructor
  · rintro ⟨error, herror⟩
    obtain ⟨command, fault, hfind, -⟩ := compileAll_eq_error_iff.1 herror
    exact ⟨command, List.mem_of_find?_eq_some hfind, by simpa using List.find?_some hfind⟩
  · rintro ⟨command, hcommand, hmalformed⟩
    cases hcompile : dialect.grammar.compileAll source with
    | error error => exact ⟨error, rfl⟩
    | ok statements => exact absurd hmalformed ((compileAll_eq_ok_iff.1 hcompile).1 command hcommand)

/-- A queue fails exactly when one of its commands is malformed, with the error of the first such
command. Otherwise every command has its statement, but for those that have nothing to add or
change. -/
theorem refused_iff_malformed (dialect : MySql) (source : Source) :
    ((∃ error, dialect.grammar.compileAll source = .error error) ↔
      ∃ command ∈ source.commands, source.IsMalformed command) ∧
    (∀ error, dialect.grammar.compileAll source = .error error ↔
      ∃ command fault, source.commands.find? (source.IsMalformed ·) = some command ∧
        source.Fault command fault ∧ error = .invalidCommand fault.message) ∧
    ∀ statements, dialect.grammar.compileAll source = .ok statements ↔
      (∀ command ∈ source.commands, ¬ source.IsMalformed command) ∧
        statements = (source.commands.filter (¬ source.IsIdle ·)).map fun command =>
          Piece.textAll (dialect.pieces source command) :=
  ⟨exists_compileAll_error_iff, fun _ => compileAll_eq_error_iff, fun _ => compileAll_eq_ok_iff⟩

end MySql

end SchemaLedger
