/-! # Pieces of a text

A text is cut at the characters of one kind. Pieces without such characters are found again in what
they were joined to.
-/

namespace SchemaLedger.Text

set_option autoImplicit false

variable {p : Char → Bool} {separator : Char}

theorem of_mem_splitOnP {text piece : List Char} {c : Char} (hpiece : piece ∈ text.splitOnP p)
    (hc : c ∈ piece) : c ∈ text ∧ p c = false := by
  induction text generalizing piece with
  | nil =>
    rw [List.splitOnP_nil, List.mem_singleton] at hpiece
    rw [hpiece] at hc
    exact absurd hc List.not_mem_nil
  | cons d text ih =>
    rw [List.splitOnP_cons_eq_if_modifyHead] at hpiece
    split at hpiece
    · obtain rfl | hrest := List.mem_cons.1 hpiece
      · exact absurd hc List.not_mem_nil
      · exact (ih hrest hc).imp_left (List.mem_cons_of_mem d)
    · next hd =>
      obtain ⟨first, others, hsplit⟩ := List.exists_cons_of_ne_nil (List.splitOnP_ne_nil p text)
      rw [hsplit] at ih hpiece
      obtain rfl | hother := List.mem_cons.1 hpiece
      · obtain rfl | hfirst := List.mem_cons.1 hc
        · exact ⟨List.mem_cons_self, by simpa using hd⟩
        · exact (ih List.mem_cons_self hfirst).imp_left (List.mem_cons_of_mem d)
      · exact (ih (List.mem_cons_of_mem first hother) hc).imp_left (List.mem_cons_of_mem d)

theorem intercalate_cons (word : List Char) (words : List (List Char)) :
    [separator].intercalate (word :: words) = word ++ words.flatMap (separator :: ·) := by
  induction words generalizing word with
  | nil => simp
  | cons next words ih => simp [List.intercalate_cons_cons, ih]

theorem splitOnP_intercalate (p : Char → Bool) (hseparator : p separator) {words : List (List Char)}
    (hwords : ∀ word ∈ words, ∀ c ∈ word, p c = false) (hne : words ≠ []) :
    ([separator].intercalate words).splitOnP p = words := by
  induction words with
  | nil => exact absurd rfl hne
  | cons word words ih =>
    obtain ⟨hword, hrest⟩ := List.forall_mem_cons.1 hwords
    cases words with
    | nil => rw [List.intercalate_singleton, List.splitOnP_eq_singleton hword]
    | cons next words =>
      rw [List.intercalate_cons_cons, List.append_assoc, List.singleton_append,
        List.splitOnP_append_cons_of_forall_mem hword separator hseparator,
        ih hrest (List.cons_ne_nil next words)]

/-- No words at all are joined to an empty text, whose only piece is empty. -/
theorem filter_splitOnP_intercalate (p : Char → Bool) (hseparator : p separator) {words : List (List Char)}
    (hwords : ∀ word ∈ words, word ≠ [] ∧ ∀ c ∈ word, p c = false) :
    (([separator].intercalate words).splitOnP p).filter (!·.isEmpty) = words := by
  by_cases hne : words = []
  · rw [hne]
    rfl
  · rw [splitOnP_intercalate p hseparator (fun word hword => (hwords word hword).2) hne,
      List.filter_eq_self]
    intro word hword
    simpa using (hwords word hword).1

/-- A separator at an end of the text, or behind another one, leaves an empty piece. -/
theorem separated_of_nil_not_mem_splitOn {text : List Char} (h : [] ∉ text.splitOn separator) :
    text.head? ≠ some separator ∧ text.getLast? ≠ some separator ∧
      ¬ [separator, separator] <:+: text := by
  refine ⟨fun hhead => h ?_, fun hlast => h ?_, fun hdouble => h ?_⟩
  · obtain ⟨rest, rfl⟩ := List.head?_eq_some_iff.1 hhead
    rw [← List.nil_append (separator :: rest), List.splitOn_append_cons_self, List.splitOn_nil]
    exact List.mem_append_left _ List.mem_cons_self
  · obtain ⟨rest, rfl⟩ := List.getLast?_eq_some_iff.1 hlast
    rw [List.splitOn_append_cons_self, List.splitOn_nil]
    exact List.mem_append_right _ List.mem_cons_self
  · obtain ⟨before, after, rfl⟩ := hdouble
    rw [List.append_assoc, List.cons_append, List.cons_append, List.nil_append,
      List.splitOn_append_cons_self, ← List.nil_append (separator :: after),
      List.splitOn_append_cons_self, List.splitOn_nil]
    exact List.mem_append_right _ (List.mem_append_left _ List.mem_cons_self)

end SchemaLedger.Text
