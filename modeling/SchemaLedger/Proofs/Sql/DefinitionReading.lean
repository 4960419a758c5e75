import Mathlib.Data.List.Chain
import SchemaLedger.Proofs.Plan.ColumnDefinitions

/-! # Column definitions are read in one way only

What a definition says of its column: the name, the type, whether it is unsigned and may be Null,
the default and whether the column counts up as the primary key. Two statements with the same text
that create, modify or add columns say the same of as many columns, whatever commas, quotes or whole
definitions their names and defaults hold. Types, charsets and collations that callers spell are
left out: nothing marks where they end.
-/

namespace SchemaLedger

set_option autoImplicit false

open Text

/-- What the definition of a column says. -/
structure Definition where
  name : String
  type : String
  unsigned : Bool
  nullable : Bool
  defaultText : Option String
  /-- The column is the primary key, and the database counts it up. -/
  counting : Bool
  deriving DecidableEq

namespace Column

def definition (column : Column) : Definition where
  name := column.name
  type := MySql.columnType column
  unsigned := column.unsigned
  nullable := column.nullable
  defaultText := column.defaultValue.map MySql.defaultText
  counting := column.type.isInteger && column.autoIncrement

/-- No part of the definition is spelled by callers. -/
structure Plain (column : Column) : Prop where
  type_ne : ∀ spelling, column.type ≠ .custom spelling
  charset_eq : column.charset = none
  collation_eq : column.collation = none

end Column

namespace Definer

def command : Definer → Command
  | create => .create
  | modify => .change
  | add => .add

/-- The columns that the statement lists. -/
def columns (source : Source) : Definer → List Column
  | create => source.columns
  | modify => source.changedColumns
  | add => source.addedColumns

end Definer

/-- The text goes on with a space and one of the letters. -/
def Opens (letters rest : List Char) : Prop :=
  ∃ c ∈ letters, [' ', c] <+: rest

/-- The text ends here or before a comma, or it goes on with a space and one of the letters. -/
def Onward (letters rest : List Char) : Prop :=
  rest = [] ∨ rest.head? = some ',' ∨ Opens letters rest

theorem Opens.apart {letters rest : List Char} (h : Opens letters rest) {quote : Char}
    (hquote : quote ≠ ' ') : Apart quote rest := by
  obtain ⟨c, -, more, rfl⟩ := h
  simp [Apart, hquote.symm]

theorem Opens.mono {letters more rest : List Char} (h : Opens letters rest)
    (hletters : letters ⊆ more) : Opens more rest := by
  obtain ⟨c, hc, hrest⟩ := h
  exact ⟨c, hletters hc, hrest⟩

theorem Onward.mono {letters more rest : List Char} (h : Onward letters rest)
    (hletters : letters ⊆ more) : Onward more rest :=
  h.imp_right (.imp_right (·.mono hletters))

theorem Onward.apart {letters rest : List Char} (h : Onward letters rest) {quote : Char}
    (hquote : quote ≠ ' ' ∧ quote ≠ ',') : Apart quote rest := by
  obtain rfl | hcomma | hopens := h
  · exact nofun
  · rw [Apart, hcomma]
    exact fun heq => hquote.2 (Option.some.inj heq).symm
  · exact hopens.apart hquote.1

theorem Onward.ne_append {letters rest : List Char} (h : Onward letters rest) {word : String}
    {c : Char} (hword : [' ', c] <+: word.toList) (hc : c ∉ letters) (more : List Char) :
    rest ≠ word.toList ++ more := by
  obtain ⟨behind, hbehind⟩ := hword
  rw [← hbehind]
  rintro rfl
  obtain hnil | hcomma | ⟨d, hd, hprefix⟩ := h
  · cases hnil
  · cases hcomma
  · have heq : d = c := by simpa using hprefix
    exact hc (heq ▸ hd)

/-- A word that stands there or not. -/
def wordIf (word : String) (flag : Bool) : String :=
  if flag then word else ""

theorem readable_wordIf {letters : List Char} {word : String} {c : Char}
    (hword : [' ', c] <+: word.toList) (hc : c ∉ letters) :
    Readable (Onward letters) (wordIf word) :=
  readable_flag fun _ s hr => hr.ne_append hword hc s

theorem onward_wordIf {letters rest : List Char} {word : String} {c : Char}
    (hword : [' ', c] <+: word.toList) (h : Onward letters rest) (flag : Bool) :
    Onward (c :: letters) ((wordIf word flag).toList ++ rest) := by
  cases flag with
  | false => exact h.mono (List.subset_cons_self c letters)
  | true => exact .inr (.inr ⟨c, List.mem_cons_self, hword.trans (List.prefix_append ..)⟩)

/-- No space of the text stands at its end, or before a letter with which a modifier begins. -/
def Compact (text : List Char) : Prop :=
  (text ++ ['N']).IsChain fun c d => ¬ (c = ' ' ∧ d ∈ ['U', 'N'])

instance (text : List Char) : Decidable (Compact text) :=
  inferInstanceAs (Decidable (List.IsChain _ _))

/-- Reads up to the first space before a modifier. -/
def readType : List Char → List Char × List Char
  | c :: d :: rest =>
      if c = ' ' ∧ d ∈ ['U', 'N'] then ([], c :: d :: rest)
      else (c :: (readType (d :: rest)).1, (readType (d :: rest)).2)
  | rest => (rest, [])

theorem readType_append {text rest : List Char} (htext : Compact text)
    (hrest : Opens ['U', 'N'] rest) : readType (text ++ rest) = (text, rest) := by
  induction text with
  | nil =>
    obtain ⟨d, hd, more, rfl⟩ := hrest
    exact if_pos ⟨rfl, hd⟩
  | cons c text ih =>
    -- the reader looks one letter ahead, and behind the last letter it sees the space of the rest
    have hinner : ∃ d behind, text ++ rest = d :: behind ∧ ¬ (c = ' ' ∧ d ∈ ['U', 'N']) := by
      cases text with
      | nil =>
        obtain ⟨d, -, more, rfl⟩ := hrest
        exact ⟨' ', d :: more, rfl, by simp⟩
      | cons d text => exact ⟨d, text ++ rest, rfl, (List.isChain_cons_cons.1 htext).1⟩
    obtain ⟨d, behind, hbehind, hgoes⟩ := hinner
    have hread := ih htext.tail
    rw [List.cons_append, hbehind, readType, if_neg hgoes, ← hbehind, hread]

theorem compact_of_letters {text : List Char} (hletters : ∀ c ∈ text, c ∉ ['U', 'N'])
    (hlast : text.getLast? ≠ some ' ') : Compact text := by
  refine List.isChain_append.2 ⟨?_, List.isChain_singleton 'N', ?_⟩
  · refine (List.pairwise_of_forall_mem_list fun c _ d hd hspace => ?_).isChain
    exact hletters d hd hspace.2
  · rintro c hc d - ⟨rfl, -⟩
    exact hlast hc

theorem Text.mem_joined {separator : String} {texts : List String} {c : Char}
    (h : c ∈ (joined separator texts).toList) :
    c ∈ separator.toList ∨ ∃ text ∈ texts, c ∈ text.toList := by
  fun_induction joined separator texts with
  | case1 => simp at h
  | case2 text => exact .inr ⟨text, List.mem_singleton_self text, h⟩
  | case3 text next rest ih =>
    simp only [String.toList_append, List.mem_append] at h
    obtain (htext | hseparator) | hrest := h
    · exact .inr ⟨text, List.mem_cons_self, htext⟩
    · exact .inl hseparator
    · obtain hseparator | ⟨other, hother, hc⟩ := ih hrest
      · exact .inl hseparator
      · exact .inr ⟨other, List.mem_cons_of_mem text hother, hc⟩

namespace MySql

theorem eq_separator_or_isDigit_of_mem_sizes {sizes : List UInt32} {c : Char}
    (h : c ∈ (joined ", " (sizes.map fun size => toString size.toNat)).toList) :
    c ∈ [',', ' '] ∨ c.isDigit := by
  obtain hseparator | ⟨text, htext, hdigit⟩ := mem_joined h
  · exact .inl hseparator
  · obtain ⟨size, -, rfl⟩ := List.mem_map.1 htext
    rw [Nat.toString_eq_ofList_toDigits, String.toList_ofList] at hdigit
    exact .inr (isDigit_of_mem_toDigits hdigit)

theorem compact_sized {type : String} (hletters : ∀ c ∈ type.toList, c ∉ ['U', 'N'])
    (sizes : List UInt32) : Compact (sized type sizes).toList := by
  have hsizes : ∀ c ∈ (joined ", " (sizes.map fun size => toString size.toNat)).toList,
      c ∉ ['U', 'N'] := by
    rintro c hc hletter
    obtain hseparator | hisDigit := eq_separator_or_isDigit_of_mem_sizes hc
    · have hapart : ∀ c ∈ [',', ' '], c ∉ ['U', 'N'] := by simp
      exact hapart c hseparator hletter
    · obtain rfl | rfl : c = 'U' ∨ c = 'N' := by simpa using hletter
      all_goals cases hisDigit
  apply compact_of_letters
  · intro c hc
    simp only [sized, String.toList_append, List.mem_append] at hc
    obtain ((htype | hopening) | hsize) | hclosing := hc
    · exact hletters c htype
    · obtain rfl : c = '(' := by simpa using hopening
      decide
    · exact hsizes c hsize
    · obtain rfl : c = ')' := by simpa using hclosing
      decide
  · have hlast : (sized type sizes).toList.getLast? = some ')' := by
      rw [sized, String.toList_append, List.getLast?_append]
      rfl
    rw [hlast]
    decide

theorem compact_columnType {column : Column} (h : column.Plain) :
    Compact (columnType column).toList := by
  unfold columnType
  -- spaces stand before digits and before the words of a current timestamp only
  cases htype : column.type with
  | char | string => exact compact_sized (by simp) _
  | decimal => exact compact_sized (by simp) _
  | float | double =>
    dsimp only
    split
    · exact compact_sized (by simp) _
    · decide
  | timestamp =>
    dsimp only
    split <;> decide
  | custom spelling => exact absurd htype (h.type_ne spelling)
  | _ =>
    dsimp only
    decide

abbrev TypeText := { text : String // Compact text.toList }

/-- A default as it is written: a truth value without quotes, or a text between them. -/
abbrev DefaultReading := Bool ⊕ String

def defaultReading : Value → DefaultReading
  | .bool flag => .inl flag
  | value => .inr value.sqlText

def writtenDefault : DefaultReading → String :=
  Sum.elim (fun flag => if flag then "1" else "0") (quoted '\'')

def defaultClause (default : Option DefaultReading) : String :=
  default.elim "" fun reading => " DEFAULT " ++ writtenDefault reading

def nullableClause (nullable : Bool) : String :=
  if nullable then " NULL" else " NOT NULL"

def fromDefault (parts : Option DefaultReading × Bool) : String :=
  defaultClause parts.1 ++ wordIf " AUTO_INCREMENT PRIMARY KEY" parts.2

def fromNullable (parts : Bool × Option DefaultReading × Bool) : String :=
  nullableClause parts.1 ++ fromDefault parts.2

def fromUnsigned (parts : Bool × Bool × Option DefaultReading × Bool) : String :=
  wordIf " UNSIGNED" parts.1 ++ fromNullable parts.2

def fromType (parts : TypeText × Bool × Bool × Option DefaultReading × Bool) : String :=
  parts.1.val ++ fromUnsigned parts.2

/-- The parts in the order in which they are written. -/
abbrev Parts := String × TypeText × Bool × Bool × Option DefaultReading × Bool

def Parts.text (parts : Parts) : String :=
  identifier parts.1 ++ (" " ++ fromType parts.2)

def Parts.definition : Parts → Definition
  | (name, type, unsigned, nullable, default, counting) =>
      ⟨name, type.val, unsigned, nullable, default.map writtenDefault, counting⟩

def partsOf (column : Column) (h : column.Plain) : Parts :=
  (column.name, ⟨columnType column, compact_columnType h⟩, column.unsigned, column.nullable,
    column.defaultValue.map defaultReading, column.type.isInteger && column.autoIncrement)

theorem defaultText_eq (value : Value) :
    defaultText value = writtenDefault (defaultReading value) := by
  cases value <;> rfl

theorem definition_partsOf {column : Column} (h : column.Plain) :
    (partsOf column h).definition = column.definition := by
  have hdefault : (column.defaultValue.map defaultReading).map writtenDefault =
      column.defaultValue.map defaultText := by
    rw [Option.map_map]
    exact congrArg (column.defaultValue.map ·) (funext fun value => (defaultText_eq value).symm)
  simp [Parts.definition, partsOf, Column.definition, hdefault]

theorem text_partsOf {column : Column} (h : column.Plain) :
    (partsOf column h).text = columnDefinition column := by
  have hdefault : optional " DEFAULT " (column.defaultValue.map defaultText) =
      defaultClause (column.defaultValue.map defaultReading) := by
    cases column.defaultValue with
    | none => rfl
    | some value => exact congrArg (" DEFAULT " ++ ·) (defaultText_eq value)
  simp only [columnDefinition, modifiers, h.charset_eq, h.collation_eq, hdefault]
  simp only [Parts.text, fromType, fromUnsigned, fromNullable, fromDefault, partsOf, optional,
    wordIf, nullableClause, String.append_assoc, String.empty_append]
  rfl

theorem readable_type : Readable (Opens ['U', 'N']) (fun type : TypeText => type.val) := by
  intro type other r s hr hs h
  have hread := congrArg readType h
  rw [readType_append type.property hr, readType_append other.property hs] at hread
  obtain ⟨htexts, hrests⟩ := Prod.mk.inj hread
  exact ⟨Subtype.ext (String.toList_inj.1 htexts), hrests⟩

theorem readable_writtenDefault : Readable (Apart '\'') writtenDefault := by
  have hflag : Readable (Apart '\'') fun flag : Bool => if flag then "1" else "0" :=
    readable_flag fun r s _ => by simp
  refine hflag.sum (readable_quoted '\'') fun flag text r s => ?_
  cases flag <;> simp [quoted]

theorem readable_defaultClause : Readable (Onward ['A', ')']) defaultClause := by
  have hdefault := (readable_writtenDefault.behind " DEFAULT ").mono
    fun r (hr : Onward ['A', ')'] r) => hr.apart (by decide)
  refine hdefault.option fun reading r s hr => ?_
  rw [String.toList_append, List.append_assoc]
  exact hr.ne_append (c := 'D') (by decide) (by decide) _

theorem readable_nullableClause : Readable (fun _ => True) nullableClause :=
  readable_flag fun r s _ => by simp

theorem readable_fromDefault : Readable (Onward [')']) fromDefault := by
  refine readable_defaultClause.pair (readable_wordIf (c := 'A') ?_ ?_) fun counting r hr => ?_
  · decide
  · decide
  · exact onward_wordIf (by decide) hr counting

theorem readable_fromNullable : Readable (Onward [')']) fromNullable :=
  readable_nullableClause.pair readable_fromDefault fun _ _ _ => trivial

theorem opens_fromNullable (parts : Bool × Option DefaultReading × Bool) (rest : List Char) :
    Opens ['N'] ((fromNullable parts).toList ++ rest) := by
  refine ⟨'N', by decide, ?_⟩
  cases hnullable : parts.1 <;> simp [fromNullable, nullableClause, hnullable]

theorem readable_fromUnsigned : Readable (Onward [')']) fromUnsigned := by
  have hunsigned : Readable (Onward ['N']) (wordIf " UNSIGNED") :=
    readable_wordIf (c := 'U') (by decide) (by decide)
  exact hunsigned.pair readable_fromNullable fun parts r _ =>
    .inr (.inr (opens_fromNullable parts r))

theorem opens_fromUnsigned (parts : Bool × Bool × Option DefaultReading × Bool)
    (rest : List Char) : Opens ['U', 'N'] ((fromUnsigned parts).toList ++ rest) := by
  rw [fromUnsigned, String.toList_append, List.append_assoc]
  cases parts.1 with
  | false => exact (opens_fromNullable parts.2 rest).mono (by decide)
  | true => exact ⟨'U', by decide, by simp [wordIf]⟩

theorem readable_fromType : Readable (Onward [')']) fromType :=
  readable_type.pair readable_fromUnsigned fun parts r _ => opens_fromUnsigned parts r

theorem readable_parts : Readable (Onward [')']) Parts.text := by
  have hbehind : Readable (Onward [')']) fun parts => " " ++ fromType parts :=
    readable_fromType.behind " "
  refine (readable_identifier.pair hbehind ?_ :)
  intro parts r _
  rw [String.toList_append, List.append_assoc]
  exact apart_append _ (by decide)

theorem map_pmap_partsOf {β : Type} {f : Parts → β} {g : Column → β}
    (hfg : ∀ column (h : column.Plain), f (partsOf column h) = g column) {columns : List Column}
    (h : ∀ column ∈ columns, column.Plain) : (columns.pmap partsOf h).map f = columns.map g := by
  rw [List.map_pmap, List.pmap_congr_left columns fun column _ hplain _ => hfg column hplain]
  exact List.pmap_eq_map h

theorem eq_of_definitions {verb : String} {xs ys : List Column} (hxs : ∀ column ∈ xs, column.Plain)
    (hys : ∀ column ∈ ys, column.Plain) (hxs' : xs ≠ []) (hys' : ys ≠ []) {r s : List Char}
    (hr : Onward [')'] r ∧ ¬ ", ".toList <+: r) (hs : Onward [')'] s ∧ ¬ ", ".toList <+: s)
    (h : (joined ", " (xs.map fun column => verb ++ columnDefinition column)).toList ++ r =
      (joined ", " (ys.map fun column => verb ++ columnDefinition column)).toList ++ s) :
    xs.map Column.definition = ys.map Column.definition := by
  have hwritten {columns : List Column} (hplain : ∀ column ∈ columns, column.Plain) :
      (columns.pmap partsOf hplain).map (fun parts => verb ++ parts.text) =
        columns.map fun column => verb ++ columnDefinition column :=
    map_pmap_partsOf (fun _ h => congrArg (verb ++ ·) (text_partsOf h)) hplain
  rw [← hwritten hxs, ← hwritten hys] at h
  obtain ⟨hparts, -⟩ := (readable_parts.behind verb).joined_same (fun _ => .inr (.inl rfl))
    (by simpa using hxs') (by simpa using hys') hr hs h
  have hdefinitions := congrArg (List.map Parts.definition) hparts
  rwa [map_pmap_partsOf (fun _ => definition_partsOf) hxs,
    map_pmap_partsOf (fun _ => definition_partsOf) hys] at hdefinitions

variable {dialect : MySql}

theorem definitions_ne_closing {columns : List Column} (h : columns ≠ []) :
    (joined ", " (columns.map columnDefinition)).toList ++ " )".toList ≠ " )".toList := by
  obtain ⟨column, columns, rfl⟩ := List.exists_cons_of_ne_nil h
  obtain ⟨behind, hbehind⟩ :=
    exists_joined_cons ", " (columnDefinition column) (columns.map columnDefinition)
  rw [List.map_cons, hbehind]
  simp [columnDefinition, identifier, quoted, identifierQuote]

theorem eq_of_creation {table other : String} {xs ys : List Column}
    (hxs : ∀ column ∈ xs, column.Plain) (hys : ∀ column ∈ ys, column.Plain)
    (h : Definer.create.text (dialect.tableName table) (xs.map columnDefinition) =
      Definer.create.text (dialect.tableName other) (ys.map columnDefinition)) :
    table = other ∧ xs.map Column.definition = ys.map Column.definition := by
  have htexts := congrArg String.toList h
  unfold Definer.text at htexts
  simp only [String.toList_append, List.append_assoc, List.append_cancel_left_eq] at htexts
  obtain ⟨htable, hbehind⟩ := dialect.readable_tableName _ _ _ _ (apart_append _ (by decide))
    (apart_append _ (by decide)) htexts
  have hlists := List.append_cancel_left hbehind
  refine ⟨htable, ?_⟩
  -- a list without columns has no name in it, so both lists are empty or neither is
  by_cases hempty : xs = [] ∨ ys = []
  · obtain rfl | rfl := hempty
    · have hys' : ys = [] := by_contra fun hne => definitions_ne_closing hne hlists.symm
      rw [hys']
    · have hxs' : xs = [] := by_contra fun hne => definitions_ne_closing hne hlists
      rw [hxs']
  · obtain ⟨hxs', hys'⟩ := not_or.1 hempty
    have hclosing : Onward [')'] " )".toList ∧ ¬ ", ".toList <+: " )".toList :=
      ⟨.inr (.inr ⟨')', by simp⟩), by decide⟩
    have hwritten : (columnDefinition : Column → String) = fun column =>
        "" ++ columnDefinition column := funext fun column => String.empty_append.symm
    rw [hwritten] at hlists
    exact eq_of_definitions hxs hys hxs' hys' hclosing hclosing hlists

theorem eq_of_alteration {verb table other : String} {xs ys : List Column}
    (hxs : ∀ column ∈ xs, column.Plain) (hys : ∀ column ∈ ys, column.Plain) (hxs' : xs ≠ [])
    (hys' : ys ≠ [])
    (h : "ALTER TABLE " ++ dialect.tableName table ++ " " ++
        joined ", " ((xs.map columnDefinition).map (verb ++ ·)) =
      "ALTER TABLE " ++ dialect.tableName other ++ " " ++
        joined ", " ((ys.map columnDefinition).map (verb ++ ·))) :
    table = other ∧ xs.map Column.definition = ys.map Column.definition := by
  have htexts := congrArg (·.toList ++ []) h
  simp only [String.toList_append, List.append_assoc, List.append_cancel_left_eq,
    List.map_map] at htexts
  obtain ⟨htable, hbehind⟩ := dialect.readable_tableName _ _ _ _ (apart_append _ (by decide))
    (apart_append _ (by decide)) htexts
  have hend : Onward [')'] [] ∧ ¬ ", ".toList <+: [] := ⟨.inl rfl, by decide⟩
  exact ⟨htable, eq_of_definitions hxs hys hxs' hys' hend hend (List.append_cancel_left hbehind)⟩

theorem eq_text_of_alterColumns {source : Source} {columns : List Column} {verb statement : String}
    (h : dialect.alterColumns source columns verb = .ok (.one statement)) :
    statement = "ALTER TABLE " ++ dialect.tableName source.table ++ " " ++
      joined ", " ((columns.map columnDefinition).map (verb ++ " " ++ ·)) ∧ columns ≠ [] := by
  obtain ⟨-, hstatement⟩ := alterColumns_eq_ok_iff.1 h
  cases columns with
  | nil => cases hstatement
  | cons column columns =>
    rw [if_neg (List.cons_ne_nil column columns), Compiled.one_inj] at hstatement
    rw [hstatement, List.map_map]
    exact ⟨rfl, List.cons_ne_nil column columns⟩

theorem eq_text_of_compile {definer : Definer} {source : Source} {statement : String}
    (h : dialect.compile source definer.command = .ok (.one statement)) :
    statement = definer.text (dialect.tableName source.table)
        ((definer.columns source).map columnDefinition) ∧
      (definer = .create ∨ definer.columns source ≠ []) := by
  cases definer with
  | create => exact ⟨Compiled.one_inj.1 (create_eq_ok_iff.1 h).2, .inl rfl⟩
  | modify | add => exact (eq_text_of_alterColumns h).imp_right .inr

/-- The text of a statement fixes how many columns it lists and what it says of each, in order. -/
theorem definitions_unambiguous (dialect : MySql) (definer : Definer) {first second : Source}
    {statement : String} (hfirst : dialect.compile first definer.command = .ok (.one statement))
    (hsecond : dialect.compile second definer.command = .ok (.one statement))
    (hplain : ∀ column ∈ definer.columns first, column.Plain)
    (hplain' : ∀ column ∈ definer.columns second, column.Plain) :
    first.table = second.table ∧
      (definer.columns first).map Column.definition =
        (definer.columns second).map Column.definition := by
  obtain ⟨hstatement, hlisted⟩ := eq_text_of_compile hfirst
  obtain ⟨hstatement', hlisted'⟩ := eq_text_of_compile hsecond
  have htext := hstatement.symm.trans hstatement'
  cases definer with
  | create => exact eq_of_creation hplain hplain' htext
  | modify | add =>
    exact eq_of_alteration hplain hplain' (hlisted.resolve_left nofun) (hlisted'.resolve_left nofun)
      htext

theorem prices_defined_alike :
    let dialect : MySql := { tablePrefix := "app_" }
    let price : Column :=
      { type := .decimal, name := "price, `tax`", defaultValue := some (.int 5) }
    let rate : Column :=
      { type := .float, name := "rate", unsigned := true
        defaultValue := some (.text "0', `tax` int NULL") }
    let first : Source := { table := "a` ( `b", commands := [], columns := [price, rate] }
    let second : Source :=
      { first with
        columns := [{ price with total := some 8, defaultValue := some (.text "5") },
          { rate with type := .double, useCurrent := true }] }
    let statement := "CREATE TABLE `app_a`` ( ``b` ( `price, ``tax``` decimal(8, 2) NOT NULL " ++
      "DEFAULT '5', `rate` double UNSIGNED NOT NULL DEFAULT '0'', `tax` int NULL' )"
    dialect.compile first .create = .ok (.one statement) ∧
      dialect.compile second .create = .ok (.one statement) ∧
      first.columns.map Column.definition = second.columns.map Column.definition := by
  intro dialect price rate first second statement
  have hfirst : dialect.compile first .create = .ok (.one statement) := by decide +kernel
  have hsecond : dialect.compile second .create = .ok (.one statement) := by decide +kernel
  have hplain : ∀ column ∈ first.columns, column.Plain :=
    List.forall_mem_cons.2 ⟨⟨nofun, rfl, rfl⟩, List.forall_mem_singleton.2 ⟨nofun, rfl, rfl⟩⟩
  have hplain' : ∀ column ∈ second.columns, column.Plain :=
    List.forall_mem_cons.2 ⟨⟨nofun, rfl, rfl⟩, List.forall_mem_singleton.2 ⟨nofun, rfl, rfl⟩⟩
  have h := definitions_unambiguous dialect .create hfirst hsecond hplain hplain'
  exact ⟨hfirst, hsecond, h.2⟩

end MySql

end SchemaLedger
