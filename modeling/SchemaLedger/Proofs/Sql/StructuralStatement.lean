import Mathlib.Data.List.Nodup
import SchemaLedger.Proofs.Sql.RecordStatement

/-! # Statements about structure are read in one way only

A statement that drops, renames or alters a table is made of words and quoted names. The words
before the table and those up to the next name tell its kind, and the names behind them tell the
rest: two such statements with the same text come from the same command on the same table, but for
the name of a primary key, which is not written. Algorithms of indexes and actions of foreign keys
are left out: callers spell them, and nothing marks where they end.
-/

namespace SchemaLedger

set_option autoImplicit false

open Text

namespace Command

/-- The command changes the structure of a table and holds no words that callers spell. -/
def Structural : Command → Prop
  | drop | dropIfExists | rename _ | dropColumns _ | renameColumn _ _ => True
  | primary new | unique new | index new => new.algorithm = none
  | foreign key => key.onDelete = none ∧ key.onUpdate = none
  | _ => False

/-- No list of columns is empty, and a foreign key refers to a table. -/
def Complete : Command → Prop
  | dropColumns columns => columns ≠ []
  | primary new | unique new | index new => new.columns ≠ []
  | foreign key => key.target ≠ none ∧ key.columns ≠ [] ∧ key.references ≠ []
  | _ => True

/-- The command without what its statement leaves out, the name of a primary key. -/
def written : Command → Command
  | primary new => primary { new with name := "" }
  | command => command

end Command

def CommandKind.structural : List CommandKind :=
  [drop, dropIfExists, rename, dropColumns, renameColumn, primary, unique, index, foreign]

theorem Command.Structural.kind_mem {command : Command} (h : command.Structural) :
    command.kind ∈ CommandKind.structural := by
  cases command <;> first | exact h.elim | simp [kind, CommandKind.structural]

theorem Text.joined_map_append {α : Type} (separator start : String) (write : α → String)
    {items : List α} (h : items ≠ []) :
    joined separator (items.map fun item => start ++ write item) =
      start ++ joined (separator ++ start) (items.map write) := by
  induction items with
  | nil => exact absurd rfl h
  | cons item rest ih =>
    cases rest with
    | nil => rfl
    | cons next rest =>
      have hlater := ih (List.cons_ne_nil next rest)
      simp only [List.map_cons] at hlater
      simp only [List.map_cons, joined, hlater, String.append_assoc]

/-- What is written before the same words is read together with what stands behind them. -/
theorem Text.Readable.before {α : Type} {quote : Char} {write : α → String}
    (hread : Readable (Apart quote) write) {words : List Char}
    (hwords : words ≠ [] ∧ Apart quote words) {a b : α} {r s : List Char}
    (h : (write a).toList ++ (words ++ r) = (write b).toList ++ (words ++ s)) : a = b ∧ r = s := by
  obtain ⟨hsame, hbehind⟩ := hread a b _ _ (apart_append r hwords) (apart_append s hwords) h
  exact ⟨hsame, List.append_cancel_left hbehind⟩

namespace MySql

variable (dialect : MySql)

def opening : CommandKind → String
  | .drop => "DROP TABLE "
  | .dropIfExists => "DROP TABLE IF EXISTS "
  | .rename => "RENAME TABLE "
  | _ => "ALTER TABLE "

def middle : CommandKind → String
  | .rename => " TO "
  | .dropColumns => " DROP "
  | .renameColumn => " RENAME COLUMN "
  | .primary => " ADD PRIMARY KEY ("
  | .unique => " ADD UNIQUE "
  | .index => " ADD INDEX "
  | .foreign => " ADD CONSTRAINT "
  | _ => ""

def ending : Command → String
  | .rename newName => dialect.tableName newName
  | .dropColumns columns => joined ", DROP " (columns.map identifier)
  | .renameColumn oldName newName => identifier oldName ++ " TO " ++ identifier newName
  | .primary new => identifiers new.columns ++ ")"
  | .unique new | .index new => identifier new.name ++ " (" ++ identifiers new.columns ++ ")"
  | .foreign key =>
      identifier key.name ++ " FOREIGN KEY (" ++ identifiers key.columns ++ ") REFERENCES " ++
        dialect.tableName (key.target.getD "") ++ " (" ++ identifiers key.references ++ ")"
  | _ => ""

def structureText (table : String) (command : Command) : String :=
  opening command.kind ++ dialect.tableName table ++ middle command.kind ++ dialect.ending command

variable {dialect} {source : Source}

theorem structureText_of_compile {command : Command} {compiled : Compiled}
    (hstructural : command.Structural) (h : dialect.compile source command = .ok compiled) :
    command.Complete ∧ compiled = .one (dialect.structureText source.table command) := by
  have htext : ∀ {text : String}, text.toList =
      (dialect.structureText source.table command).toList →
      Compiled.one text = .one (dialect.structureText source.table command) :=
    fun heq => congrArg Compiled.one (String.toList_inj.1 heq)
  cases command with
  | create | add | change | insert data | update data | delete | find => exact hstructural.elim
  | drop | dropIfExists | rename newName | renameColumn oldName newName =>
    obtain rfl := Except.ok.inj h
    refine ⟨trivial, htext ?_⟩
    simp [structureText, opening, middle, ending, Command.kind, alterTable]
  | dropColumns columns =>
    cases columns with
    | nil => cases h
    | cons column columns =>
      obtain rfl := Except.ok.inj h
      refine ⟨List.cons_ne_nil column columns, htext ?_⟩
      rw [joined_map_append ", " "DROP " identifier (List.cons_ne_nil column columns)]
      simp [structureText, opening, middle, ending, Command.kind, alterTable]
  | primary new | unique new | index new =>
    obtain ⟨name, columns, algorithm⟩ := new
    obtain rfl : algorithm = none := hstructural
    cases columns with
    | nil => cases h
    | cons column columns =>
      obtain rfl := Except.ok.inj h
      refine ⟨List.cons_ne_nil column columns, htext ?_⟩
      simp [structureText, opening, middle, ending, Command.kind, alterTable, optional]
  | foreign key =>
    obtain ⟨name, columns, references, target, onDelete, onUpdate⟩ := key
    obtain ⟨rfl, rfl⟩ : onDelete = none ∧ onUpdate = none := hstructural
    cases target with
    | none => cases h
    | some target =>
      cases columns with
      | nil => cases h
      | cons column columns =>
        cases references with
        | nil => cases h
        | cons reference references =>
          obtain rfl := Except.ok.inj h
          refine ⟨⟨by simp, by simp, by simp⟩, htext ?_⟩
          simp [structureText, opening, middle, ending, Command.kind, alterTable, optional]

/-- The text ends here or goes on with a name. -/
def Named (rest : List Char) : Prop :=
  ∀ c ∈ rest.head?, c = identifierQuote

theorem takeWhile_words {words rest : List Char} (hwords : identifierQuote ∉ words)
    (hrest : Named rest) : (words ++ rest).takeWhile (· ≠ identifierQuote) = words := by
  have hkept : ∀ c ∈ words, decide (c ≠ identifierQuote) = true := by
    intro c hc
    exact decide_eq_true fun heq => hwords (heq ▸ hc)
  rw [List.takeWhile_append_of_pos hkept]
  cases rest with
  | nil => simp
  | cons c rest =>
    have hc : c = identifierQuote := hrest c rfl
    simp [hc]

theorem eq_of_words {words others : String} {r s : List Char}
    (hwords : identifierQuote ∉ words.toList ∧ identifierQuote ∉ others.toList)
    (hr : Named r) (hs : Named s) (h : words.toList ++ r = others.toList ++ s) :
    words = others ∧ r = s := by
  have htaken := congrArg (List.takeWhile (· ≠ identifierQuote)) h
  rw [takeWhile_words hwords.1 hr, takeWhile_words hwords.2 hs] at htaken
  rw [htaken] at h
  exact ⟨String.toList_inj.1 htaken, List.append_cancel_left h⟩

theorem quote_notMem_opening (kind : CommandKind) : identifierQuote ∉ (opening kind).toList := by
  cases kind <;> decide

theorem quote_notMem_middle (kind : CommandKind) : identifierQuote ∉ (middle kind).toList := by
  cases kind <;> decide

theorem nodup_words :
    (CommandKind.structural.map fun kind => (opening kind, middle kind)).Nodup := by
  decide

theorem named_identifier (name : String) (rest : List Char) :
    Named ((identifier name).toList ++ rest) := by
  simp [Named, identifier, quoted]

theorem named_joined {separator : String} {names : List String} (h : names ≠ []) (rest : List Char) :
    Named ((joined separator (names.map identifier)).toList ++ rest) := by
  obtain ⟨name, names, rfl⟩ := List.exists_cons_of_ne_nil h
  cases names with
  | nil => exact named_identifier name rest
  | cons next names =>
    simp only [List.map_cons, joined, String.toList_append, List.append_assoc]
    exact named_identifier name _

theorem named_ending {command : Command} (h : command.Complete) :
    Named (dialect.ending command).toList := by
  cases command with
  | rename newName =>
    rw [← List.append_nil (dialect.ending _).toList]
    exact named_identifier _ []
  | dropColumns columns =>
    rw [← List.append_nil (dialect.ending _).toList]
    exact named_joined h []
  | primary new =>
    rw [ending, String.toList_append]
    exact named_joined h _
  | renameColumn oldName newName | unique new | index new | foreign key =>
    simp only [ending, String.toList_append, List.append_assoc]
    exact named_identifier _ _
  | _ => simp [ending, Named]

theorem apart_middle {command : Command} (h : command.Structural) :
    Apart identifierQuote ((middle command.kind).toList ++ (dialect.ending command).toList) := by
  cases command <;> first | exact h.elim | simp [middle, ending, Command.kind, Apart, identifierQuote]

theorem eq_of_structureText {table other : String} {c d : Command}
    (hc : c.Structural ∧ c.Complete) (hd : d.Structural ∧ d.Complete)
    (h : dialect.structureText table c = dialect.structureText other d) :
    table = other ∧ c.kind = d.kind ∧ dialect.ending c = dialect.ending d := by
  have htexts := congrArg String.toList h
  simp only [structureText, String.toList_append, List.append_assoc] at htexts
  obtain ⟨hopening, hnames⟩ := eq_of_words ⟨quote_notMem_opening _, quote_notMem_opening _⟩
    (named_identifier _ _) (named_identifier _ _) htexts
  obtain ⟨htable, hbehind⟩ :=
    dialect.readable_tableName _ _ _ _ (apart_middle hc.1) (apart_middle hd.1) hnames
  obtain ⟨hmiddle, hending⟩ := eq_of_words ⟨quote_notMem_middle _, quote_notMem_middle _⟩
    (named_ending hc.2) (named_ending hd.2) hbehind
  have hkind : c.kind = d.kind := List.inj_on_of_nodup_map nodup_words hc.1.kind_mem hd.1.kind_mem
    (Prod.ext hopening hmiddle)
  exact ⟨htable, hkind, String.toList_inj.1 hending⟩

theorem eq_of_columnList {names others : List String} (hnames : names ≠ []) (hothers : others ≠ [])
    {r s : List Char} (h : (identifiers names).toList ++ ')' :: r =
      (identifiers others).toList ++ ')' :: s) : names = others ∧ r = s := by
  have hclosing : ∀ rest, Apart identifierQuote (')' :: rest) ∧ ¬ ", ".toList <+: ')' :: rest := by
    intro rest
    simp [Apart, identifierQuote]
  obtain ⟨hsame, hrests⟩ := readable_identifier.joined_same (fun _ => apart_append _ (by decide))
    hnames hothers (hclosing r) (hclosing s) h
  exact ⟨hsame, (List.cons.inj hrests).2⟩

theorem eq_of_named_columns {name other : String} {columns others : List String}
    (hcolumns : columns ≠ []) (hothers : others ≠ [])
    (h : identifier name ++ " (" ++ identifiers columns ++ ")" =
      identifier other ++ " (" ++ identifiers others ++ ")") : name = other ∧ columns = others := by
  have htexts := congrArg String.toList h
  simp only [String.toList_append, List.append_assoc] at htexts
  obtain ⟨hname, hlists⟩ := readable_identifier.before (by decide) htexts
  exact ⟨hname, (eq_of_columnList hcolumns hothers hlists).1⟩

theorem eq_of_dropped {columns others : List String} (hcolumns : columns ≠ [])
    (hothers : others ≠ [])
    (h : joined ", DROP " (columns.map identifier) = joined ", DROP " (others.map identifier)) :
    columns = others := by
  have hend : Apart identifierQuote [] ∧ ¬ ", DROP ".toList <+: [] := by decide
  have htexts := congrArg (·.toList ++ []) h
  exact (readable_identifier.joined_same (fun _ => apart_append _ (by decide)) hcolumns hothers
    hend hend htexts).1

theorem eq_of_renamed {name other newName newOther : String}
    (h : identifier name ++ " TO " ++ identifier newName =
      identifier other ++ " TO " ++ identifier newOther) : name = other ∧ newName = newOther := by
  have htexts := congrArg (·.toList ++ []) h
  simp only [String.toList_append, List.append_assoc] at htexts
  obtain ⟨hname, hbehind⟩ := readable_identifier.before (by decide) htexts
  obtain ⟨hnew, -⟩ := readable_identifier _ _ _ _ (by decide) (by decide) hbehind
  exact ⟨hname, hnew⟩

theorem eq_of_foreignKey {key other : ForeignKey}
    (hkey : (Command.foreign key).Structural ∧ (Command.foreign key).Complete)
    (hother : (Command.foreign other).Structural ∧ (Command.foreign other).Complete)
    (h : dialect.ending (.foreign key) = dialect.ending (.foreign other)) : key = other := by
  obtain ⟨⟨hdelete, hupdate⟩, htarget, hcolumns, hreferences⟩ := hkey
  obtain ⟨⟨hdelete', hupdate'⟩, htarget', hcolumns', hreferences'⟩ := hother
  have htexts := congrArg String.toList h
  simp only [ending, String.toList_append, List.append_assoc] at htexts
  -- the name, the columns, the table and the columns referred to are read one after the other
  obtain ⟨hname, hlists⟩ := readable_identifier.before (by decide) htexts
  obtain ⟨hsame, hbehind⟩ := eq_of_columnList hcolumns hcolumns' hlists
  obtain ⟨htable, hlast⟩ := dialect.readable_tableName.before (by decide)
    ((List.append_right_inj " REFERENCES ".toList).1 hbehind)
  obtain ⟨hsame', -⟩ := eq_of_columnList hreferences hreferences' hlast
  obtain ⟨name, columns, references, target, onDelete, onUpdate⟩ := key
  obtain ⟨name', columns', references', target', onDelete', onUpdate'⟩ := other
  obtain ⟨table, rfl⟩ := Option.ne_none_iff_exists'.1 htarget
  obtain ⟨table', rfl⟩ := Option.ne_none_iff_exists'.1 htarget'
  dsimp only [Option.getD_some] at *
  subst hname hsame htable hsame' hdelete hdelete' hupdate hupdate'
  rfl

/-- Commands of one kind that are written alike are the same, but for the name of a primary key. -/
theorem written_eq_of_ending {c d : Command} (hkind : c.kind = d.kind)
    (hc : c.Structural ∧ c.Complete) (hd : d.Structural ∧ d.Complete)
    (h : dialect.ending c = dialect.ending d) : c.written = d.written := by
  cases c with
  | create | add | change | insert data | update data | delete | find => exact hc.1.elim
  | drop | dropIfExists => cases d <;> cases hkind; rfl
  | rename newName =>
    cases d <;> cases hkind
    next newOther =>
    have htexts := congrArg (·.toList ++ []) h
    obtain ⟨rfl, -⟩ := dialect.readable_tableName _ _ _ _ (by decide) (by decide) htexts
    rfl
  | dropColumns columns =>
    cases d <;> cases hkind
    next others =>
    obtain rfl := eq_of_dropped hc.2 hd.2 h
    rfl
  | renameColumn oldName newName =>
    cases d <;> cases hkind
    next oldOther newOther =>
    obtain ⟨rfl, rfl⟩ := eq_of_renamed h
    rfl
  | primary new =>
    cases d <;> cases hkind
    next other =>
    have htexts := congrArg String.toList h
    simp only [ending, String.toList_append] at htexts
    obtain ⟨hcolumns, -⟩ := eq_of_columnList hc.2 hd.2 htexts
    obtain ⟨hnone, hnone'⟩ : new.algorithm = none ∧ other.algorithm = none := ⟨hc.1, hd.1⟩
    simp [Command.written, hcolumns, hnone, hnone']
  | unique new | index new =>
    cases d <;> cases hkind
    next other =>
    obtain ⟨hname, hcolumns⟩ := eq_of_named_columns hc.2 hd.2 h
    obtain ⟨name, columns, algorithm⟩ := new
    obtain ⟨name', columns', algorithm'⟩ := other
    obtain ⟨rfl, rfl⟩ : algorithm = none ∧ algorithm' = none := ⟨hc.1, hd.1⟩
    obtain ⟨rfl, rfl⟩ : name = name' ∧ columns = columns' := ⟨hname, hcolumns⟩
    rfl
  | foreign key =>
    cases d <;> cases hkind
    next other =>
    rw [eq_of_foreignKey hc hd h]

/-- The text of a statement about structure fixes its table and its command. -/
theorem structural_statement_unambiguous {first second : Source} {c d : Command}
    {compiled : Compiled} (hc : c.Structural) (hd : d.Structural)
    (hfirst : dialect.compile first c = .ok compiled)
    (hsecond : dialect.compile second d = .ok compiled) :
    first.table = second.table ∧ c.written = d.written := by
  obtain ⟨hcomplete, rfl⟩ := structureText_of_compile hc hfirst
  obtain ⟨hcomplete', hsame⟩ := structureText_of_compile hd hsecond
  have htext : dialect.structureText first.table c = dialect.structureText second.table d := by
    simpa [Compiled.one] using hsame
  obtain ⟨htable, hkind, hending⟩ :=
    eq_of_structureText ⟨hc, hcomplete⟩ ⟨hd, hcomplete'⟩ htext
  exact ⟨htable, written_eq_of_ending hkind ⟨hc, hcomplete⟩ ⟨hd, hcomplete'⟩ hending⟩

theorem keys_written_alike :
    let dialect : MySql := { tablePrefix := "app_" }
    let first : Source := { table := "a` ADD UNIQUE (`b", commands := [] }
    let second : Source := { first with commands := [.drop], unbounded := true }
    let c := Command.primary { name := "key", columns := ["x`, `y", ") TO `z"] }
    let d := Command.primary { name := "x`, `y", columns := ["x`, `y", ") TO `z"] }
    let statement :=
      "ALTER TABLE `app_a`` ADD UNIQUE (``b` ADD PRIMARY KEY (`x``, ``y`, `) TO ``z`)"
    c.Structural ∧ d.Structural ∧ dialect.compile first c = .ok (.one statement) ∧
      dialect.compile second d = .ok (.one statement) ∧ c.written = d.written := by
  intro dialect first second c d statement
  have hfirst : dialect.compile first c = .ok (.one statement) := by decide +kernel
  have hsecond : dialect.compile second d = .ok (.one statement) := by decide +kernel
  exact ⟨rfl, rfl, hfirst, hsecond,
    (structural_statement_unambiguous (c := c) (d := d) rfl rfl hfirst hsecond).2⟩

end MySql

end SchemaLedger
