import SchemaLedger.Proofs.Sql.DefinitionReading
import SchemaLedger.Proofs.Text.Pieces

/-! # The clauses of a column definition

A definition is read word by word, in upper case and with each quoted piece as one word. What its
words say of the default and of Null does not depend on names, literals, charsets or collations,
whatever words these hold.
-/

namespace SchemaLedger

set_option autoImplicit false

open Text

namespace Text

def quotes : List Char :=
  ['\x60', '\'']

/-- The text without what its quotes enclose. A quote inside a quoted piece is written twice: it
ends the piece and begins it again. -/
def outside : Option Char → List Char → List Char
  | _, [] => []
  | none, c :: rest => c :: outside (if c ∈ quotes then some c else none) rest
  | some quote, c :: rest => if c = quote then outside none rest else outside (some quote) rest

def isBreak (c : Char) : Bool :=
  c.isWhitespace || c ∈ ['(', ')', ',']

def capitals (word : List Char) : String :=
  String.ofList (word.map Char.toUpper)

/-- The words between the breaks, in upper case. -/
def words (text : List Char) : List String :=
  ((text.splitOnP isBreak).filter (!·.isEmpty)).map capitals

def Unquoted (text : List Char) : Prop :=
  ∀ c ∈ text, c ∉ quotes

instance (text : List Char) : Decidable (Unquoted text) :=
  List.decidableBAll (· ∉ quotes) text

/-- A word as it may stand without quotes. -/
structure PlainWord (word : List Char) : Prop where
  ne_nil : word ≠ []
  not_break : word.any isBreak = false
  unquoted : Unquoted word

instance (word : List Char) : Decidable (PlainWord word) :=
  decidable_of_iff (word ≠ [] ∧ word.any isBreak = false ∧ Unquoted word)
    ⟨fun ⟨hnil, hbreak, hquote⟩ => ⟨hnil, hbreak, hquote⟩,
      fun ⟨hnil, hbreak, hquote⟩ => ⟨hnil, hbreak, hquote⟩⟩

theorem eq_of_mem_quotes {c : Char} (h : c ∈ quotes) : c = '\x60' ∨ c = '\'' := by
  simpa [quotes] using h

theorem outside_append_of_plain {text : List Char} (h : Unquoted text) (rest : List Char) :
    outside none (text ++ rest) = text ++ outside none rest := by
  induction text with
  | nil => rfl
  | cons c text ih =>
    obtain ⟨hc, htext⟩ := List.forall_mem_cons.1 h
    rw [List.cons_append, outside, if_neg hc, ih htext, List.cons_append]

theorem outside_of_plain {text : List Char} (h : Unquoted text) : outside none text = text := by
  simpa [outside] using outside_append_of_plain h []

/-- Of a text between quotes its own quotes are seen. -/
theorem outside_doubled {quote : Char} (h : quote ∈ quotes) (text rest : List Char) :
    outside (some quote) (doubled quote text ++ quote :: rest) =
      text.filter (· = quote) ++ outside none rest := by
  induction text with
  | nil => simp [doubled, outside]
  | cons c text ih =>
    by_cases hc : c = quote
    · simp [doubled, outside, hc, h, ih]
    · simp [doubled, outside, hc, ih]

theorem outside_quoted {quote : Char} (h : quote ∈ quotes) (text : String) (rest : List Char) :
    outside none ((quoted quote text).toList ++ rest) =
      quote :: text.toList.filter (· = quote) ++ outside none rest := by
  simp [quoted, outside, h, outside_doubled h]

theorem outside_quoted_self {quote : Char} (h : quote ∈ quotes) (text : String) :
    outside none (quoted quote text).toList = quote :: text.toList.filter (· = quote) := by
  simpa [outside] using outside_quoted h text []

theorem eq_of_mem_outside_quoted {quote : Char} (h : quote ∈ quotes) {text : String} {c : Char}
    (hc : c ∈ outside none (quoted quote text).toList) : c = quote := by
  rw [outside_quoted_self h, List.mem_cons, List.mem_filter, decide_eq_true_iff] at hc
  exact hc.elim id And.right

/-- The text ends outside of quotes. -/
def Settled (text : String) : Prop :=
  ∀ rest, outside none (text.toList ++ rest) = outside none text.toList ++ outside none rest

theorem settled_of_plain {text : String} (h : Unquoted text.toList) : Settled text := by
  intro rest
  rw [outside_append_of_plain h, outside_of_plain h]

theorem settled_quoted {quote : Char} (h : quote ∈ quotes) (text : String) :
    Settled (quoted quote text) := by
  intro rest
  rw [outside_quoted h, outside_quoted_self h]

section

variable {text next : String} (htext : Settled text) (hnext : Settled next)

include htext

theorem outside_append_blank :
    outside none (text ++ (" " ++ next)).toList =
      outside none text.toList ++ ' ' :: outside none next.toList := by
  rw [String.toList_append, htext]
  simp [outside, quotes]

include hnext

theorem Settled.append_blank : Settled (text ++ (" " ++ next)) := by
  intro rest
  rw [outside_append_blank htext, String.toList_append, List.append_assoc, htext,
    List.append_assoc, List.cons_append, ← hnext]
  simp [outside, quotes]

end

theorem words_append_break {c : Char} (hc : isBreak c) (text rest : List Char) :
    words (text ++ c :: rest) = words text ++ words rest := by
  simp [words, List.splitOnP_append_cons text rest hc]

theorem words_of_no_break {word : List Char} (hword : word ≠ []) (h : word.any isBreak = false) :
    words word = [capitals word] := by
  have hnone : ∀ c ∈ word, isBreak c = false := by simpa using h
  simp [words, List.splitOnP_eq_singleton hnone, hword]

theorem not_alpha_of_isDigit {c : Char} (h : c.isDigit) : c.isAlpha = false := by
  have hdigits : ∀ n ≤ '9'.toNat, '0'.toNat ≤ n → (Char.ofNat n).isAlpha = false := by decide
  obtain ⟨hfrom, hto⟩ := Char.isDigit_iff_toNat.1 h
  rw [← Char.ofNat_toNat c]
  exact hdigits c.toNat hto hfrom

theorem toUpper_of_not_alpha {c : Char} (h : c.isAlpha = false) : c.toUpper = c := by
  have hlower : c.isLower = false := (Bool.or_eq_false_iff.1 h).2
  refine dif_neg fun ⟨hfrom, hto⟩ => ?_
  have hletter : c.isLower = true :=
    Bool.and_eq_true_iff.2 ⟨decide_eq_true hfrom, decide_eq_true hto⟩
  exact Bool.false_ne_true (hlower.symm.trans hletter)

/-- Words of what has no letters have none either. -/
theorem not_alpha_of_mem_words {text : List Char} (h : ∀ c ∈ text, c.isAlpha = false)
    {word : String} (hword : word ∈ words text) : ∀ c ∈ word.toList, c.isAlpha = false := by
  obtain ⟨piece, hpiece, rfl⟩ := List.mem_map.1 hword
  intro c hc
  rw [capitals, String.toList_ofList, List.mem_map] at hc
  obtain ⟨d, hd, rfl⟩ := hc
  have hletter := h d (of_mem_splitOnP (List.mem_filter.1 hpiece).1 hd).1
  rwa [toUpper_of_not_alpha hletter]

end Text

/-- What a definition says of the default and of Null. -/
inductive Clause where
  | default
  | null
  | notNull
  deriving DecidableEq

namespace Clause

def keywords : List String :=
  ["CHARACTER", "COLLATE", "DEFAULT", "NOT", "NULL"]

/-- The word behind a charset, a collation or a default is of the caller and says nothing. -/
def ofWords : List String → List Clause
  | "CHARACTER" :: "SET" :: _ :: rest => ofWords rest
  | "COLLATE" :: _ :: rest => ofWords rest
  | "DEFAULT" :: _ :: rest => default :: ofWords rest
  | "NOT" :: "NULL" :: rest => notNull :: ofWords rest
  | "NULL" :: rest => null :: ofWords rest
  | _ :: rest => ofWords rest
  | [] => []

def ofText (text : String) : List Clause :=
  ofWords (words (outside none text.toList))

theorem ofWords_cons_of_notMem {word : String} (h : word ∉ keywords) (rest : List String) :
    ofWords (word :: rest) = ofWords rest := by
  simp only [keywords, List.mem_cons, List.not_mem_nil, or_false, not_or] at h
  rw [ofWords.eq_def]
  split <;> simp_all

theorem ofWords_append_of_notMem {found : List String} (h : ∀ word ∈ found, word ∉ keywords)
    (rest : List String) : ofWords (found ++ rest) = ofWords rest := by
  induction found with
  | nil => rfl
  | cons word found ih =>
    obtain ⟨hword, hfound⟩ := List.forall_mem_cons.1 h
    rw [List.cons_append, ofWords_cons_of_notMem hword, ih hfound]

theorem notMem_keywords {word : String} (h : ∀ c ∈ word.toList, c.isAlpha = false) :
    word ∉ keywords := by
  have hletters : ∀ keyword ∈ keywords, keyword.toList.any Char.isAlpha := by decide
  rintro hword
  obtain ⟨c, hc, hletter⟩ := List.any_eq_true.1 (hletters word hword)
  rw [h c hc] at hletter
  cases hletter

/-- The text ends outside of quotes, and its words say these clauses before all other words. -/
structure Says (text : String) (clauses : List Clause) : Prop where
  settled : Settled text
  complete : ∀ rest, ofWords (words (outside none text.toList) ++ rest) = clauses ++ ofWords rest

theorem Says.ofText_eq {text : String} {clauses : List Clause} (h : Says text clauses) :
    ofText text = clauses := by
  have hcomplete := h.complete []
  rwa [List.append_nil, ofWords, List.append_nil] at hcomplete

theorem Says.append_blank {text next : String} {clauses later : List Clause}
    (h : Says text clauses) (hnext : Says next later) :
    Says (text ++ (" " ++ next)) (clauses ++ later) where
  settled := h.settled.append_blank hnext.settled
  complete := by
    intro rest
    rw [outside_append_blank h.settled, words_append_break rfl, List.append_assoc, h.complete,
      hnext.complete, List.append_assoc]

theorem says_of_words {text : String} {found : List String} {clauses : List Clause}
    (hplain : Unquoted text.toList) (hfound : words text.toList = found)
    (hwords : ∀ rest, ofWords (found ++ rest) = clauses ++ ofWords rest) : Says text clauses where
  settled := settled_of_plain hplain
  complete := by rwa [outside_of_plain hplain, hfound]

theorem says_nothing {text : String} (hplain : Unquoted text.toList)
    (hwords : ∀ word ∈ words text.toList, word ∉ keywords) : Says text [] :=
  says_of_words hplain rfl (ofWords_append_of_notMem hwords)

theorem says_quoted {quote : Char} (h : quote ∈ quotes) (text : String) :
    Says (quoted quote text) [] where
  settled := settled_quoted h text
  complete := by
    refine ofWords_append_of_notMem fun word hword =>
      notMem_keywords (not_alpha_of_mem_words (fun c hc => ?_) hword)
    rw [eq_of_mem_outside_quoted h hc]
    obtain rfl | rfl := eq_of_mem_quotes h <;> rfl

/-- The text is read as one word. -/
structure IsWord (text : String) : Prop where
  settled : Settled text
  exists_word : ∃ word, words (outside none text.toList) = [word]

theorem isWord_of_plainWord {text : String} (h : PlainWord text.toList) : IsWord text where
  settled := settled_of_plain h.unquoted
  exists_word := by
    rw [outside_of_plain h.unquoted]
    exact ⟨_, words_of_no_break h.ne_nil h.not_break⟩

theorem isWord_quoted {quote : Char} (h : quote ∈ quotes) (text : String) :
    IsWord (quoted quote text) where
  settled := settled_quoted h text
  exists_word := by
    refine ⟨_, words_of_no_break (by simp [quoted, outside]) (List.any_eq_false.2 fun c hc => ?_)⟩
    rw [eq_of_mem_outside_quoted h hc]
    obtain rfl | rfl := eq_of_mem_quotes h <;> decide

/-- The words before a word that callers choose decide what is said. -/
theorem IsWord.says_behind {text lead : String} (h : IsWord text) {found : List String}
    {clauses : List Clause} (hplain : Unquoted lead.toList)
    (hfound : words lead.toList = found)
    (hwords : ∀ word rest, ofWords (found ++ word :: rest) = clauses ++ ofWords rest) :
    Says (lead ++ (" " ++ text)) clauses where
  settled := (settled_of_plain hplain).append_blank h.settled
  complete := by
    intro rest
    obtain ⟨word, hword⟩ := h.exists_word
    rw [outside_append_blank (settled_of_plain hplain), outside_of_plain hplain,
      words_append_break rfl, hfound, hword, List.append_assoc]
    exact hwords word rest

/-- Behind every text that says something, the part adds these clauses. -/
def Adds (part : String) (clauses : List Clause) : Prop :=
  ∀ text found, Says text found → Says (text ++ part) (found ++ clauses)

theorem Adds.append {part next : String} {clauses later : List Clause} (h : Adds part clauses)
    (hnext : Adds next later) : Adds (part ++ next) (clauses ++ later) := by
  intro text found htext
  rw [← String.append_assoc, ← List.append_assoc]
  exact hnext _ _ (h _ _ htext)

theorem adds_empty : Adds "" [] := by
  intro text found htext
  rwa [String.append_empty, List.append_nil]

theorem Says.adds {phrase part : String} {clauses : List Clause} (h : Says phrase clauses)
    (hpart : part = " " ++ phrase) : Adds part clauses :=
  fun _ _ htext => hpart ▸ htext.append_blank h

theorem adds_flag {part : String} (h : Adds part []) (flag : Bool) :
    Adds (if flag then part else "") [] := by
  cases flag with
  | true => exact h
  | false => exact adds_empty

end Clause

namespace MySql

open Clause

theorem says_sized {type : String} (hplain : Unquoted type.toList)
    (hwords : ∀ word ∈ words type.toList, word ∉ keywords) (sizes : List UInt32) :
    Says (sized type sizes) [] := by
  have hshape : (sized type sizes).toList = type.toList ++
      '(' :: ((joined ", " (sizes.map fun size => toString size.toNat)).toList ++ [')']) := by
    simp [sized]
  have hsizes : ∀ c ∈ (joined ", " (sizes.map fun size => toString size.toNat)).toList ++ [')'],
      c ∉ quotes ∧ c.isAlpha = false := by
    intro c hc
    obtain hsize | hclosing := List.mem_append.1 hc
    · obtain hseparator | hdigit := eq_separator_or_isDigit_of_mem_sizes hsize
      · obtain rfl | rfl : c = ',' ∨ c = ' ' := by simpa using hseparator
        all_goals decide
      · refine ⟨fun hquote => ?_, not_alpha_of_isDigit hdigit⟩
        obtain rfl | rfl := eq_of_mem_quotes hquote <;> cases hdigit
    · rw [List.mem_singleton.1 hclosing]
      decide
  apply says_nothing
  · intro c hc
    rw [hshape, List.mem_append, List.mem_cons] at hc
    obtain htype | rfl | hsize := hc
    · exact hplain c htype
    · decide
    · exact (hsizes c hsize).1
  · intro word hword
    rw [hshape, words_append_break rfl, List.mem_append] at hword
    obtain htype | hsize := hword
    · exact hwords word htype
    · exact notMem_keywords (not_alpha_of_mem_words (fun c hc => (hsizes c hc).2) hsize)

/-- Of all types, the current timestamp alone says something of the default. -/
theorem says_columnType {column : Column} (h : ∀ spelling, column.type ≠ .custom spelling) :
    Says (columnType column)
      (if column.type = .timestamp ∧ column.useCurrent then [.default] else []) := by
  unfold columnType
  cases htype : column.type with
  | char | string => exact says_sized (by decide) (by decide) _
  | decimal => exact says_sized (by decide) (by decide) _
  | float | double =>
    dsimp only
    split
    · exact says_sized (by decide) (by decide) _
    · exact says_nothing (by decide) (by decide)
  | timestamp =>
    have hcurrent : Says "timestamp default CURRENT_TIMESTAMP" [.default] :=
      says_of_words (by decide)
        (by decide : _ = ["TIMESTAMP", "DEFAULT", "CURRENT_TIMESTAMP"]) fun _ => rfl
    cases column.useCurrent with
    | true => exact hcurrent
    | false => exact (says_nothing (by decide) (by decide) : Says "timestamp" [])
  | custom spelling => exact absurd htype (h spelling)
  | _ =>
    dsimp only
    exact says_nothing (by decide) (by decide)

theorem isWord_defaultText (value : Value) : IsWord (defaultText value) := by
  cases value with
  | bool flag =>
    apply isWord_of_plainWord
    cases flag <;> decide
  | _ => exact isWord_quoted (by decide) _

theorem adds_optional {lead : String} (phrase : String) {found : List String}
    {clauses : List Clause} (hlead : lead = " " ++ (phrase ++ " "))
    (hplain : Unquoted phrase.toList) (hfound : words phrase.toList = found)
    (hwords : ∀ word rest, ofWords (found ++ word :: rest) = clauses ++ ofWords rest)
    {text : Option String} (htext : ∀ word ∈ text, IsWord word) :
    Adds (optional lead text) (if text.isSome then clauses else []) := by
  cases text with
  | none => exact adds_empty
  | some word =>
    refine ((htext word rfl).says_behind hplain hfound hwords).adds ?_
    rw [optional, hlead, String.append_assoc, String.append_assoc]

theorem adds_nullable (nullable : Bool) :
    Adds (if nullable then " NULL" else " NOT NULL") [if nullable then .null else .notNull] := by
  cases nullable with
  | true =>
    have hnull : Says "NULL" [.null] :=
      says_of_words (by decide) (by decide : _ = ["NULL"]) fun _ => rfl
    exact hnull.adds (by decide)
  | false =>
    have hnot : Says "NOT NULL" [.notNull] :=
      says_of_words (by decide) (by decide : _ = ["NOT", "NULL"]) fun _ => rfl
    exact hnot.adds (by decide)

theorem adds_default (value : Option Value) :
    Adds (optional " DEFAULT " (value.map defaultText)) (if value.isSome then [.default] else []) := by
  rw [← Option.isSome_map]
  refine adds_optional "DEFAULT" (by decide) (by decide) (by decide : _ = ["DEFAULT"])
    (fun _ _ => rfl) fun word hword => ?_
  obtain ⟨value, -, rfl⟩ := Option.map_eq_some_iff.1 hword
  exact isWord_defaultText value

section

variable {column : Column} (hcharset : ∀ charset ∈ column.charset, PlainWord charset.toList)
  (hcollation : ∀ collation ∈ column.collation, PlainWord collation.toList)

include hcharset hcollation

theorem adds_modifiers : Adds (modifiers column) ([if column.nullable then .null else .notNull] ++
    if column.defaultValue.isSome then [.default] else []) := by
  have hunsigned : Says "UNSIGNED" [] := says_nothing (by decide) (by decide)
  have hcounting : Says "AUTO_INCREMENT PRIMARY KEY" [] := says_nothing (by decide) (by decide)
  have hcharsetPart : Adds (optional " CHARACTER SET " column.charset)
      (if column.charset.isSome then [] else []) :=
    adds_optional "CHARACTER SET" (by decide) (by decide)
      (by decide : _ = ["CHARACTER", "SET"]) (fun _ _ => rfl)
      fun charset h => isWord_of_plainWord (hcharset charset h)
  have hcollationPart : Adds (optional " COLLATE " column.collation)
      (if column.collation.isSome then [] else []) :=
    adds_optional "COLLATE" (by decide) (by decide) (by decide : _ = ["COLLATE"]) (fun _ _ => rfl)
      fun collation h => isWord_of_plainWord (hcollation collation h)
  have hunsignedPart := adds_flag (hunsigned.adds (by decide : " UNSIGNED" = _)) column.unsigned
  have hcountingPart := adds_flag (hcounting.adds (by decide : " AUTO_INCREMENT PRIMARY KEY" = _))
    (column.type.isInteger && column.autoIncrement)
  have hmodifiers := ((((hunsignedPart.append hcharsetPart).append hcollationPart).append
    (adds_nullable column.nullable)).append (adds_default column.defaultValue)).append hcountingPart
  -- a charset and a collation say nothing, whether they are there or not
  rw [ite_self, ite_self, List.append_nil] at hmodifiers
  exact hmodifiers

theorem ofText_columnDefinition (htype : ∀ spelling, column.type ≠ .custom spelling) :
    ofText (columnDefinition column) =
      (if column.type = .timestamp ∧ column.useCurrent then [.default] else []) ++
        [if column.nullable then .null else .notNull] ++
        if column.defaultValue.isSome then [.default] else [] := by
  have hname : Says (identifier column.name) [] := says_quoted (by decide) column.name
  have hsays := adds_modifiers hcharset hcollation _ _ (hname.append_blank (says_columnType htype))
  rw [← String.append_assoc, List.nil_append, ← List.append_assoc] at hsays
  exact hsays.ofText_eq

/-- A definition has one clause on Null and at most one default, except that a timestamp of the
current time with a default of its own has both. Where callers spell a part without quotes it is one
word. -/
theorem default_clauses (htype : ∀ spelling, column.type ≠ .custom spelling) :
    let found := ofText (columnDefinition column)
    found =
        (if column.type = .timestamp ∧ column.useCurrent then [.default] else []) ++
          [if column.nullable then .null else .notNull] ++
          (if column.defaultValue.isSome then [.default] else []) ∧
      found.count .default ≤ 2 ∧
      (found.count .default = 2 ↔
        column.type = .timestamp ∧ column.useCurrent ∧ column.defaultValue.isSome) ∧
      found.count .null + found.count .notNull = 1 := by
  intro found
  have hfound : found = _ := ofText_columnDefinition hcharset hcollation htype
  refine ⟨hfound, ?_⟩
  rw [hfound, ← and_assoc (b := column.useCurrent)]
  by_cases hcurrent : column.type = .timestamp ∧ column.useCurrent <;>
    cases column.defaultValue.isSome <;> cases column.nullable <;> simp [hcurrent]

end

theorem literal_says_no_clause :
    let column : Column := {
      type := .string, name := "not null", charset := some "DEFAULT",
      defaultValue := some (.text "'NULL' default 0") }
    columnDefinition column =
        "`not null` varchar(255) CHARACTER SET DEFAULT NOT NULL DEFAULT '''NULL'' default 0'" ∧
      (∀ spelling, column.type ≠ .custom spelling) ∧
      (∀ charset ∈ column.charset, PlainWord charset.toList) ∧
      (∀ collation ∈ column.collation, PlainWord collation.toList) ∧
      ofText (columnDefinition column) = [.notNull, .default] := by
  intro column
  have htype : ∀ spelling, column.type ≠ .custom spelling := nofun
  have hcharset : ∀ charset ∈ column.charset, PlainWord charset.toList := by
    rintro charset ⟨⟩
    decide
  have hcollation : ∀ collation ∈ column.collation, PlainWord collation.toList := nofun
  refine ⟨?_, htype, hcharset, hcollation, (default_clauses hcharset hcollation htype).1⟩
  decide +kernel

/-- The current time is the default of the type, and the caller adds another one. -/
theorem two_defaults :
    let column : Column := {
      type := .timestamp, name := "created", useCurrent := true,
      defaultValue := some (.text "2020-01-01") }
    columnDefinition column =
        "`created` timestamp default CURRENT_TIMESTAMP NOT NULL DEFAULT '2020-01-01'" ∧
      ofText (columnDefinition column) = [.default, .notNull, .default] := by
  decide +kernel

end MySql

end SchemaLedger
