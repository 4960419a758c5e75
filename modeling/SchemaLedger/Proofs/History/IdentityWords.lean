import SchemaLedger.History.Migration
import SchemaLedger.Proofs.Text.LowerCase
import SchemaLedger.Proofs.Text.Pieces

/-! # Names and the words of an identity

A name joins the words of an identity by dashes, and tells its words. A second pass over a name
changes it only where lower case left a mark that is no letter.
-/

namespace SchemaLedger

set_option autoImplicit false

open Text

def cutsRuns (c : Char) : Bool :=
  !isAlphanumeric c

/-- The longest runs of letters and digits, in their order. -/
def alphanumericRuns (text : List Char) : List (List Char) :=
  (text.splitOnP cutsRuns).filter (!·.isEmpty)

def lowered (run : List Char) : List Char :=
  run.flatMap lowerChar

def identityWords (identity : String) : List (List Char) :=
  (alphanumericRuns identity.toList).map lowered

theorem alphanumericRuns_of_gap {c : Char} (hc : ¬ isAlphanumeric c) (text : List Char) :
    alphanumericRuns (c :: text) = alphanumericRuns text := by
  simp [alphanumericRuns, List.splitOnP_cons_eq_if_modifyHead, cutsRuns, hc]

theorem alphanumericRuns_of_letter {c : Char} (hc : isAlphanumeric c) {text first : List Char}
    {others : List (List Char)} (h : text.splitOnP cutsRuns = first :: others) :
    alphanumericRuns (c :: text) = (c :: first) :: others.filter (!·.isEmpty) := by
  simp [alphanumericRuns, List.splitOnP_cons_eq_if_modifyHead, cutsRuns, hc, h]

theorem of_mem_alphanumericRuns {text run : List Char} (h : run ∈ alphanumericRuns text) :
    run ≠ [] ∧ ∀ c ∈ run, c ∈ text ∧ isAlphanumeric c := by
  obtain ⟨hpiece, hnonempty⟩ := List.mem_filter.1 h
  refine ⟨by simpa using hnonempty, fun c hc => ?_⟩
  simpa [cutsRuns] using of_mem_splitOnP hpiece hc

theorem not_isAlphanumeric_dash : isAlphanumeric '-' = false :=
  rfl

/-- Lower case keeps a letter apart from the words around it. -/
theorem lowerChar_within_word {c : Char} (h : isAlphanumeric c) :
    lowerChar c ≠ [] ∧ '-' ∉ lowerChar c := by
  by_cases hdotted : c = 'İ'
  · rw [hdotted, lowerChar_dotted.2.1]
    decide
  · obtain ⟨d, hd, halphanumeric, -⟩ := lowerChar_of_alphanumeric h hdotted
    rw [hd]
    refine ⟨List.cons_ne_nil d [], fun hdash => ?_⟩
    rw [← List.mem_singleton.1 hdash, not_isAlphanumeric_dash] at halphanumeric
    cases halphanumeric

theorem of_mem_identityWords {identity : String} {word : List Char}
    (h : word ∈ identityWords identity) : word ≠ [] ∧ ∀ c ∈ word, (c == '-') = false := by
  obtain ⟨run, hrun, rfl⟩ := List.mem_map.1 h
  obtain ⟨hnonempty, hletters⟩ := of_mem_alphanumericRuns hrun
  obtain ⟨first, others, rfl⟩ := List.exists_cons_of_ne_nil hnonempty
  constructor
  · rw [lowered, List.flatMap_cons]
    exact List.append_ne_nil_of_left_ne_nil
      (lowerChar_within_word (hletters first List.mem_cons_self).2).1 _
  · intro c hc
    obtain ⟨d, hd, hlower⟩ := List.mem_flatMap.1 hc
    rw [beq_eq_false_iff_ne]
    rintro rfl
    exact (lowerChar_within_word (hletters d hd).2).2 hlower

/-- The words with a dash before each of them. -/
def dashed (runs : List (List Char)) : List Char :=
  (runs.map lowered).flatMap ('-' :: ·)

/-- Once a word was written, the rest of the text continues it unless something stands between. -/
theorem sanitizeFrom_started {text first : List Char} {others : List (List Char)}
    (h : text.splitOnP cutsRuns = first :: others) :
    sanitizeFrom true false text = lowered first ++ dashed (others.filter (!·.isEmpty)) ∧
      sanitizeFrom true true text = dashed (alphanumericRuns text) := by
  -- Both states at once: a gap leads from the first to the second, a letter back to the first.
  induction text generalizing first others with
  | nil =>
    obtain ⟨rfl, rfl⟩ := List.cons.inj h
    exact ⟨rfl, rfl⟩
  | cons c text ih =>
    obtain ⟨next, rest, hsplit⟩ := List.exists_cons_of_ne_nil (List.splitOnP_ne_nil cutsRuns text)
    obtain ⟨hcontinued, hapart⟩ := ih hsplit
    rw [List.splitOnP_cons_eq_if_modifyHead] at h
    by_cases hc : isAlphanumeric c
    · rw [if_neg (by simp [cutsRuns, hc]), hsplit] at h
      obtain ⟨rfl, rfl⟩ := List.cons.inj h
      rw [alphanumericRuns_of_letter hc hsplit]
      simp [sanitizeFrom, hc, hcontinued, lowered, dashed]
    · rw [if_pos (by simp [cutsRuns, hc])] at h
      obtain ⟨rfl, rfl⟩ := List.cons.inj h
      rw [alphanumericRuns_of_gap hc]
      simp [sanitizeFrom, hc, hapart, lowered, alphanumericRuns]

theorem sanitizeFrom_fresh (apart : Bool) (text : List Char) :
    sanitizeFrom false apart text = ['-'].intercalate ((alphanumericRuns text).map lowered) := by
  induction text generalizing apart with
  | nil => rfl
  | cons c text ih =>
    by_cases hc : isAlphanumeric c
    · obtain ⟨next, rest, hsplit⟩ :=
        List.exists_cons_of_ne_nil (List.splitOnP_ne_nil cutsRuns text)
      obtain ⟨hcontinued, -⟩ := sanitizeFrom_started hsplit
      rw [alphanumericRuns_of_letter hc hsplit, List.map_cons, intercalate_cons]
      simp [sanitizeFrom, hc, hcontinued, lowered, dashed]
    · rw [alphanumericRuns_of_gap hc, ← ih true]
      simp [sanitizeFrom, hc]

theorem toList_sanitizeIdentity (identity : String) :
    (sanitizeIdentity identity).toList = ['-'].intercalate (identityWords identity) := by
  rw [sanitizeIdentity, String.toList_ofList, sanitizeFrom_fresh, identityWords]

theorem splitOn_sanitizeIdentity (identity : String) :
    ((sanitizeIdentity identity).toList.splitOn '-').filter (!·.isEmpty) =
      identityWords identity := by
  rw [toList_sanitizeIdentity, List.splitOn_eq_splitOnP]
  exact filter_splitOnP_intercalate (· == '-') (beq_self_eq_true '-') fun word hword =>
    of_mem_identityWords hword

theorem dashes_separate (identity : String) :
    (sanitizeIdentity identity).toList.head? ≠ some '-' ∧
      (sanitizeIdentity identity).toList.getLast? ≠ some '-' ∧
      ¬ ['-', '-'] <:+: (sanitizeIdentity identity).toList := by
  by_cases hnone : identityWords identity = []
  · rw [toList_sanitizeIdentity, hnone]
    decide
  · apply separated_of_nil_not_mem_splitOn
    rw [toList_sanitizeIdentity, List.splitOn_eq_splitOnP,
      splitOnP_intercalate (· == '-') (beq_self_eq_true '-')
        (fun word hword => (of_mem_identityWords hword).2) hnone]
    exact fun hempty => (of_mem_identityWords hempty).1 rfl

/-- A name is made of the words of its identity, and of nothing else about it. -/
theorem name_joins_words :
    (∀ identity, sanitizeIdentity identity =
      String.ofList (['-'].intercalate (identityWords identity))) ∧
    (∀ identity,
      (sanitizeIdentity identity).toList.head? ≠ some '-' ∧
      (sanitizeIdentity identity).toList.getLast? ≠ some '-' ∧
      ¬ ['-', '-'] <:+: (sanitizeIdentity identity).toList) ∧
    (∀ identity other,
      sanitizeIdentity identity = sanitizeIdentity other ↔
        identityWords identity = identityWords other) := by
  have hjoined : ∀ identity, sanitizeIdentity identity =
      String.ofList (['-'].intercalate (identityWords identity)) := fun identity => by
    rw [← toList_sanitizeIdentity, String.ofList_toList]
  refine ⟨hjoined, dashes_separate, fun identity other => ⟨fun hname => ?_, fun hwords => ?_⟩⟩
  · rw [← splitOn_sanitizeIdentity, hname, splitOn_sanitizeIdentity]
  · rw [hjoined, hjoined, hwords]

theorem mem_sanitizeFrom_iff {c : Char} (hc : c ≠ '-') (started apart : Bool) (text : List Char) :
    c ∈ sanitizeFrom started apart text ↔ ∃ d ∈ text, isAlphanumeric d ∧ c ∈ lowerChar d := by
  induction text generalizing started apart with
  | nil => simp [sanitizeFrom]
  | cons d text ih =>
    by_cases hd : isAlphanumeric d
    · simp [sanitizeFrom, hd, hc, ih]
    · simp [sanitizeFrom, hd, ih]

theorem mem_sanitizeIdentity_iff {c : Char} (hc : c ≠ '-') (identity : String) :
    c ∈ (sanitizeIdentity identity).toList ↔
      ∃ d ∈ identity.toList, isAlphanumeric d ∧ c ∈ lowerChar d := by
  rw [sanitizeIdentity, String.toList_ofList]
  exact mem_sanitizeFrom_iff hc false false identity.toList

theorem mark_mem_sanitizeIdentity {identity : String} (h : 'İ' ∈ identity.toList) :
    '\u0307' ∈ (sanitizeIdentity identity).toList := by
  obtain ⟨hletter, hlower, -⟩ := lowerChar_dotted
  rw [mem_sanitizeIdentity_iff (by decide)]
  refine ⟨'İ', h, hletter, ?_⟩
  rw [hlower]
  decide

/-- Lower case has no capital letter with a dot. -/
theorem dotted_not_mem_sanitizeIdentity (identity : String) :
    'İ' ∉ (sanitizeIdentity identity).toList := by
  rw [mem_sanitizeIdentity_iff (by decide)]
  rintro ⟨d, -, hd, hlower⟩
  by_cases hdotted : d = 'İ'
  · rw [hdotted, lowerChar_dotted.2.1] at hlower
    exact absurd hlower (by decide)
  · obtain ⟨e, he, -, hagain⟩ := lowerChar_of_alphanumeric hd hdotted
    rw [he, List.mem_singleton] at hlower
    rw [← hlower, lowerChar_dotted.2.1] at hagain
    exact absurd hagain (by decide)

theorem lowered_eq_self {run : List Char} (h : ∀ c ∈ run, lowerChar c = [c]) : lowered run = run := by
  induction run with
  | nil => rfl
  | cons c rest ih =>
    obtain ⟨hc, hrest⟩ := List.forall_mem_cons.1 h
    rw [lowered, List.flatMap_cons, hc, List.singleton_append]
    exact congrArg (c :: ·) (ih hrest)

section

variable {identity : String} (h : 'İ' ∉ identity.toList)
include h

theorem letters_of_mem_identityWords {word : List Char} (hword : word ∈ identityWords identity) :
    ∀ c ∈ word, isAlphanumeric c ∧ lowerChar c = [c] := by
  obtain ⟨run, hrun, rfl⟩ := List.mem_map.1 hword
  intro c hc
  obtain ⟨d, hd, hlower⟩ := List.mem_flatMap.1 hc
  obtain ⟨hmem, halphanumeric⟩ := (of_mem_alphanumericRuns hrun).2 d hd
  obtain ⟨e, he, hletter⟩ := lowerChar_of_alphanumeric halphanumeric fun hdotted => h (hdotted ▸ hmem)
  rw [he, List.mem_singleton] at hlower
  exact hlower ▸ hletter

theorem identityWords_sanitizeIdentity :
    identityWords (sanitizeIdentity identity) = identityWords identity := by
  have hruns : alphanumericRuns (sanitizeIdentity identity).toList = identityWords identity := by
    rw [toList_sanitizeIdentity]
    refine filter_splitOnP_intercalate cutsRuns ?_ fun word hword => ?_
    · rw [cutsRuns, not_isAlphanumeric_dash]
      rfl
    · refine ⟨(of_mem_identityWords hword).1, fun c hc => ?_⟩
      rw [cutsRuns, (letters_of_mem_identityWords h hword c hc).1]
      rfl
  rw [identityWords, hruns]
  refine (List.map_congr_left fun word hword => ?_).trans (List.map_id _)
  exact lowered_eq_self fun c hc => (letters_of_mem_identityWords h hword c hc).2

theorem sanitizeIdentity_again :
    sanitizeIdentity (sanitizeIdentity identity) = sanitizeIdentity identity := by
  rw [← String.toList_inj, toList_sanitizeIdentity, identityWords_sanitizeIdentity h,
    toList_sanitizeIdentity]

theorem letters_of_mem_sanitizeIdentity :
    ∀ c ∈ (sanitizeIdentity identity).toList, isAlphanumeric c ∨ c = '-' := by
  intro c hc
  by_cases hdash : c = '-'
  · exact .inr hdash
  · obtain ⟨d, hd, halphanumeric, hlower⟩ := (mem_sanitizeIdentity_iff hdash identity).1 hc
    obtain ⟨e, he, hletter, -⟩ := lowerChar_of_alphanumeric halphanumeric fun hdotted =>
      h (hdotted ▸ hd)
    rw [he, List.mem_singleton] at hlower
    exact .inl (hlower ▸ hletter)

end

/-- A name consists of letters, digits and dashes, and is its own name, unless its identity has a
capital I with a dot. What is left of the dot is gone after a second pass. -/
theorem name_settled_iff (identity : String) :
    let name := sanitizeIdentity identity
    (sanitizeIdentity name = name ↔ 'İ' ∉ identity.toList) ∧
      ((∀ c ∈ name.toList, isAlphanumeric c ∨ c = '-') ↔ 'İ' ∉ identity.toList) ∧
      sanitizeIdentity (sanitizeIdentity name) = sanitizeIdentity name := by
  intro name
  have hname : 'İ' ∉ name.toList := dotted_not_mem_sanitizeIdentity identity
  have hunmarked : ∀ {text : String}, (∀ c ∈ text.toList, isAlphanumeric c ∨ c = '-') →
      '\u0307' ∉ text.toList := by
    intro text hletters hmark
    obtain hletter | hdash := hletters '\u0307' hmark
    · exact lowerChar_dotted.2.2 hletter
    · exact absurd hdash (by decide)
  refine ⟨⟨fun hagain hdotted => ?_, sanitizeIdentity_again⟩,
    ⟨fun hletters hdotted => ?_, letters_of_mem_sanitizeIdentity⟩, sanitizeIdentity_again hname⟩
  · refine hunmarked (letters_of_mem_sanitizeIdentity hname) ?_
    rw [hagain]
    exact mark_mem_sanitizeIdentity hdotted
  · exact hunmarked hletters (mark_mem_sanitizeIdentity hdotted)

/-- The mark counts as a gap in the second pass. -/
theorem mark_becomes_dash :
    sanitizeIdentity "İstanbul" = "i\u0307stanbul" ∧
      ¬ (∀ c ∈ (sanitizeIdentity "İstanbul").toList, isAlphanumeric c ∨ c = '-') ∧
      sanitizeIdentity (sanitizeIdentity "İstanbul") = "i-stanbul" := by
  refine ⟨by decide +kernel, fun hletters => ?_, by decide +kernel⟩
  have hmark := hletters '\u0307' (by decide +kernel)
  exact absurd hmark (by decide +kernel)

end SchemaLedger
