import SchemaLedger.Proofs.Text.IntegerText
import SchemaLedger.Sql.MySql

/-! # Literals as the server reads them

A literal is written with its quotes doubled and everything else as it is. To the server a backslash
is an escape sequence together with the character behind it, so it reads what was written exactly
when every backslash stands before a percent sign or an underscore, where the sequence stands for
itself.
-/

namespace SchemaLedger

set_option autoImplicit false

open Decimal Text

namespace MySql

/-- What a backslash stands for together with the character behind it. -/
def escaped : Char → List Char
  | '0' => ['\x00']
  | 'b' => ['\x08']
  | 'n' => ['\n']
  | 'r' => ['\r']
  | 't' => ['\t']
  | 'Z' => ['\x1a']
  | '%' => ['\\', '%']
  | '_' => ['\\', '_']
  | c => [c]

def prepend (start : List Char) (read : Option (List Char × List Char)) :
    Option (List Char × List Char) :=
  read.map fun (text, rest) => (start ++ text, rest)

/-- Reads from behind an opening quote to the first quote that is neither doubled nor escaped. -/
def readBody? : List Char → Option (List Char × List Char)
  | [] => none
  | [c] => if c = '\'' then some ([], []) else none
  | c :: d :: rest =>
      if c = '\\' then prepend (escaped d) (readBody? rest)
      else if c = '\'' then
        if d = '\'' then prepend ['\''] (readBody? rest) else some ([], d :: rest)
      else prepend [c] (readBody? (d :: rest))

/-- Reads a literal at the start of a text. Gives its content and what follows it. -/
def readLiteral? : List Char → Option (List Char × List Char)
  | '\'' :: rest => readBody? rest
  | _ => none

/-- Every backslash stands before a character with which it stands for itself. -/
def KeepsBackslashes (text : List Char) : Prop :=
  ∀ before after, text = before ++ '\\' :: after →
    after.head? = some '%' ∨ after.head? = some '_'

theorem keepsBackslashes_nil : KeepsBackslashes [] := by
  intro before after h
  simp at h

theorem keepsBackslashes_cons {c : Char} {text : List Char} : KeepsBackslashes (c :: text) ↔
    (c = '\\' → text.head? = some '%' ∨ text.head? = some '_') ∧ KeepsBackslashes text := by
  constructor
  · intro h
    refine ⟨fun hc => h [] text (by rw [hc]; rfl), fun before after htext => ?_⟩
    exact h (c :: before) after (by rw [htext]; rfl)
  · rintro ⟨hhead, htail⟩ before after h
    cases before with
    | nil =>
      obtain ⟨hc, rfl⟩ := List.cons.inj h
      exact hhead hc
    | cons b before => exact htail before after (List.cons.inj h).2

theorem keepsBackslashes_of_notMem {text : List Char} (h : '\\' ∉ text) :
    KeepsBackslashes text := by
  rintro before after rfl
  exact absurd (List.mem_append_right before List.mem_cons_self) h

theorem prepend_eq_some {start content rest : List Char} {read : Option (List Char × List Char)} :
    prepend start read = some (content, rest) ↔
      ∃ text, read = some (text, rest) ∧ start ++ text = content := by
  cases read with
  | none => simp [prepend]
  | some found =>
    obtain ⟨text, behind⟩ := found
    simp only [prepend, Option.map_some, Option.some.injEq, Prod.mk.injEq]
    constructor
    · rintro ⟨htext, hbehind⟩
      exact ⟨text, ⟨rfl, hbehind⟩, htext⟩
    · rintro ⟨_, ⟨rfl, hbehind⟩, htext⟩
      exact ⟨htext, hbehind⟩

theorem prepend_append_eq_some {start text rest : List Char}
    {read : Option (List Char × List Char)} :
    prepend start read = some (start ++ text, rest) ↔ read = some (text, rest) := by
  simp [prepend_eq_some]

theorem readBody?_backslash (c : Char) (rest : List Char) :
    readBody? ('\\' :: c :: rest) = prepend (escaped c) (readBody? rest) := by
  rw [readBody?, if_pos rfl]

theorem readBody?_doubled (rest : List Char) :
    readBody? ('\'' :: '\'' :: rest) = prepend ['\''] (readBody? rest) := by
  simp [readBody?]

theorem readBody?_plain {c : Char} (hslash : c ≠ '\\') (hquote : c ≠ '\'') (rest : List Char) :
    readBody? (c :: rest) = prepend [c] (readBody? rest) := by
  cases rest with
  | nil => simp [readBody?, prepend, hquote]
  | cons d rest => rw [readBody?, if_neg hslash, if_neg hquote]

theorem doubled_append (quote : Char) (start text : List Char) :
    doubled quote (start ++ text) = doubled quote start ++ doubled quote text := by
  induction start with
  | nil => rfl
  | cons c start ih =>
    by_cases hc : c = quote <;> simp [doubled, hc, ih]

theorem length_doubled_singleton (quote c : Char) : (doubled quote [c]).length ≤ 2 := by
  by_cases hc : c = quote <;> simp [doubled, hc]

theorem length_doubled_escaped (c : Char) : (doubled '\'' (escaped c)).length ≤ 2 := by
  unfold escaped
  split <;> simp [doubled]
  split <;> simp

theorem length_doubled_of_prepend {start content rest : List Char}
    {read : Option (List Char × List Char)} {cost bound : Nat}
    (hstart : (doubled '\'' start).length ≤ cost)
    (hread : ∀ text, read = some (text, rest) → (doubled '\'' text).length < bound)
    (h : prepend start read = some (content, rest)) :
    (doubled '\'' content).length < bound + cost := by
  obtain ⟨text, hsome, rfl⟩ := prepend_eq_some.1 h
  have htext := hread text hsome
  rw [doubled_append, List.length_append]
  omega

/-- What is read is shorter, with its quotes doubled again, than what it is read from. -/
theorem length_doubled_of_readBody? {raw content rest : List Char}
    (h : readBody? raw = some (content, rest)) : (doubled '\'' content).length < raw.length := by
  fun_induction readBody? raw generalizing content with
  | case1 | case3 => cases h
  | case2 | case6 =>
    cases h
    simp [doubled]
  | case4 d rest ih =>
    have hcontent : (doubled '\'' content).length < rest.length + 2 :=
      length_doubled_of_prepend (length_doubled_escaped d) (fun _ => ih) h
    exact hcontent
  | case5 rest _ ih =>
    have hcontent : (doubled '\'' content).length < rest.length + 2 :=
      length_doubled_of_prepend (length_doubled_singleton '\'' '\'') (fun _ => ih) h
    exact hcontent
  | case7 c d rest _ hquote ih =>
    have hstart : (doubled '\'' [c]).length ≤ 1 := by simp [doubled, hquote]
    exact length_doubled_of_prepend hstart (fun _ => ih) h

/-- What stands behind the opening quote of a literal. -/
def written (text : List Char) : List Char :=
  doubled '\'' text ++ ['\'']

theorem readBody?_written_cons {c : Char} (hslash : c ≠ '\\') (text : List Char) :
    readBody? (written (c :: text)) = prepend [c] (readBody? (written text)) := by
  by_cases hquote : c = '\''
  · subst hquote
    exact readBody?_doubled (written text)
  · have hwritten : written (c :: text) = c :: written text := by simp [written, doubled, hquote]
    rw [hwritten, readBody?_plain hslash hquote]

theorem escaped_singleton {c : Char} (hpercent : c ≠ '%') (hunderscore : c ≠ '_') :
    ∃ d, escaped c = [d] := by
  unfold escaped
  split <;> first | exact ⟨_, rfl⟩ | contradiction

theorem readBody?_written_wildcard {c : Char} (hc : c = '%' ∨ c = '_') (text : List Char) :
    readBody? (written ('\\' :: c :: text)) = prepend ['\\', c] (readBody? (written text)) := by
  obtain rfl | rfl := hc <;> exact readBody?_backslash _ _

theorem written_eq_cons (text : List Char) :
    ∃ c raw, written text = c :: raw ∧ (text.head? = some c ∨ c = '\'') := by
  cases text with
  | nil => exact ⟨'\'', [], rfl, .inr rfl⟩
  | cons c text =>
    by_cases hquote : c = '\''
    · exact ⟨'\'', '\'' :: written text, by simp [written, doubled, hquote], .inr rfl⟩
    · exact ⟨c, written text, by simp [written, doubled, hquote], .inl rfl⟩

/-- A sequence that does not stand for itself leaves too little behind it for the rest of the
text. -/
theorem head?_of_readBody?_backslash {text : List Char}
    (h : readBody? (written ('\\' :: text)) = some ('\\' :: text, [])) :
    text.head? = some '%' ∨ text.head? = some '_' := by
  by_cases hwildcard : text.head? = some '%' ∨ text.head? = some '_'
  · exact hwildcard
  obtain ⟨hpercent, hunderscore⟩ := not_or.1 hwildcard
  obtain ⟨c, raw, hraw, hhead⟩ := written_eq_cons text
  have hc : c ≠ '%' ∧ c ≠ '_' := by
    obtain hhead | rfl := hhead
    · rw [hhead] at hpercent hunderscore
      exact ⟨fun hc => hpercent (congrArg some hc), fun hc => hunderscore (congrArg some hc)⟩
    · decide
  -- one character is read for the two, so the text is read from what is as long as it is written
  obtain ⟨d, hd⟩ := escaped_singleton hc.1 hc.2
  have hread : readBody? ('\\' :: written text) = some ('\\' :: text, []) := h
  rw [hraw, readBody?_backslash, hd] at hread
  obtain ⟨content, hcontent, heq⟩ := prepend_eq_some.1 hread
  have htext : content = text := (List.cons.inj heq).2
  have hshort := length_doubled_of_readBody? (htext ▸ hcontent)
  have hlength := congrArg List.length hraw
  simp only [written, List.length_append, List.length_cons, List.length_nil] at hlength
  omega

/-- Before a wildcard both characters are read, and the reading goes on with the text behind. -/
theorem readBody?_before_wildcard {text : List Char}
    (hhead : text.head? = some '%' ∨ text.head? = some '_') :
    readBody? (written ('\\' :: text)) = some ('\\' :: text, []) ↔
      readBody? (written text) = some (text, []) := by
  cases text with
  | nil => simp at hhead
  | cons c more =>
    have hc : c = '%' ∨ c = '_' := by simpa using hhead
    have hslash : c ≠ '\\' := by obtain rfl | rfl := hc <;> decide
    rw [readBody?_written_wildcard hc, readBody?_written_cons hslash]
    exact prepend_append_eq_some.trans prepend_append_eq_some.symm

theorem readBody?_written_iff (text : List Char) :
    readBody? (written text) = some (text, []) ↔ KeepsBackslashes text := by
  induction text with
  | nil => exact iff_of_true rfl keepsBackslashes_nil
  | cons c text ih =>
    rw [keepsBackslashes_cons]
    by_cases hslash : c = '\\'
    · subst hslash
      constructor
      · intro h
        have hhead := head?_of_readBody?_backslash h
        exact ⟨fun _ => hhead, ih.1 ((readBody?_before_wildcard hhead).1 h)⟩
      · rintro ⟨hhead, hkeeps⟩
        exact (readBody?_before_wildcard (hhead rfl)).2 (ih.2 hkeeps)
    · have hread : readBody? (written (c :: text)) = some (c :: text, []) ↔
          readBody? (written text) = some (text, []) := by
        rw [readBody?_written_cons hslash]
        exact prepend_append_eq_some
      rw [hread, ih]
      exact ⟨fun hkeeps => ⟨fun hc => absurd hc hslash, hkeeps⟩, And.right⟩

theorem readLiteral?_quoted_iff (text : String) :
    readLiteral? (quoted '\'' text).toList = some (text.toList, []) ↔
      KeepsBackslashes text.toList := by
  have hquoted : (quoted '\'' text).toList = '\'' :: written text.toList := by
    simp [quoted, written]
  rw [hquoted, readLiteral?, readBody?_written_iff]

end MySql

theorem backslash_notMem_toDigits (n : Nat) : '\\' ∉ Nat.toDigits 10 n := by
  intro h
  have hdigit := isDigit_of_mem_toDigits h
  exact absurd hdigit (by decide)

theorem backslash_notMem_toString (n : Int) : '\\' ∉ (toString n).toList := by
  intro h
  obtain hdash | hdigit := eq_dash_or_isDigit_of_mem_toString h
  · exact absurd hdash (by decide)
  · exact absurd hdigit (by decide)

namespace Decimal

theorem backslash_notMem_ofScaled (n : Nat) (exponent : Int) :
    '\\' ∉ (Digits.ofScaled n exponent).digits := by
  intro h
  have hkept : '\\' ∈ (Nat.toDigits 10 n).reverse.dropWhile (· = '0') := List.mem_reverse.1 h
  have hdigits := List.mem_reverse.1 ((List.dropWhile_sublist _).subset hkept)
  exact backslash_notMem_toDigits n hdigits

theorem backslash_notMem_shortest (value : Magnitude) (tie : Tie) :
    '\\' ∉ (value.shortest tie).digits := by
  unfold Magnitude.shortest
  dsimp only
  split <;> exact backslash_notMem_ofScaled _ _

theorem backslash_notMem_positional {number : Digits} (h : '\\' ∉ number.digits) :
    '\\' ∉ number.positional [] := by
  have hzeros : ∀ count, '\\' ∉ zeros count := by
    intro count hmem
    exact absurd (List.eq_of_mem_replicate hmem) (by decide)
  unfold Digits.positional
  split
  · simp [hzeros, h]
  · split
    · simp [hzeros, h]
    · have htake : '\\' ∉ number.digits.take number.point.toNat := fun hmem =>
        h (List.mem_of_mem_take hmem)
      have hdrop : '\\' ∉ number.digits.drop number.point.toNat := fun hmem =>
        h (List.mem_of_mem_drop hmem)
      simp [htake, hdrop]

end Decimal

namespace Value

theorem backslash_notMem_floatingText (reading : Reading) :
    '\\' ∉ (floatingText reading).toList := by
  cases reading with
  | nan => decide
  | infinite negative => cases negative <;> decide
  | finite negative magnitude =>
    have hmagnitude : '\\' ∉ statementLayout.magnitude magnitude := by
      unfold Layout.magnitude
      split
      · decide
      · exact backslash_notMem_positional (backslash_notMem_shortest magnitude _)
    cases negative <;> simp [floatingText, Layout.finite, hmagnitude]

/-- Texts, and bytes that are written as one. -/
def isTextual : Value → Bool
  | text _ | bytes _ => true
  | _ => false

theorem backslash_notMem_sqlText {value : Value} (h : value.isTextual = false) :
    '\\' ∉ value.sqlText.toList := by
  cases value with
  | null => decide
  | bool flag => cases flag <;> decide
  | int n => exact backslash_notMem_toString _
  | long n => exact backslash_notMem_toString _
  | timestamp seconds => exact backslash_notMem_toString _
  | float bits => exact backslash_notMem_floatingText _
  | double bits => exact backslash_notMem_floatingText _
  | text content => cases h
  | bytes content => cases h

/-- A literal is read back exactly when its backslashes stand for themselves, as they do in every
value that is not a text. -/
theorem readLiteral?_literal (value : Value) :
    (MySql.readLiteral? value.literal.toList = some (value.sqlText.toList, []) ↔
        MySql.KeepsBackslashes value.sqlText.toList) ∧
      (value.isTextual = false →
        MySql.readLiteral? value.literal.toList = some (value.sqlText.toList, [])) := by
  refine ⟨MySql.readLiteral?_quoted_iff value.sqlText, fun htextual => ?_⟩
  have hbackslash := backslash_notMem_sqlText htextual
  exact (MySql.readLiteral?_quoted_iff value.sqlText).2
    (MySql.keepsBackslashes_of_notMem hbackslash)

theorem not_readLiteral?_literal :
    ¬ ∀ value : Value, value ≠ .null →
      MySql.readLiteral? value.literal.toList = some (value.sqlText.toList, []) := by
  intro h
  have hread := h (.text "\\") (by decide)
  exact absurd hread (by decide)

end Value

end SchemaLedger
