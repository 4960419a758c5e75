/-! # Texts and their parts

Texts joined by a separator, texts that stand somewhere in others, and quoted texts: between two
quotes, with a quote of the text itself written twice.
-/

namespace SchemaLedger.Text

set_option autoImplicit false

def joined (separator : String) : List String → String
  | [] => ""
  | [text] => text
  | text :: next :: rest => text ++ separator ++ joined separator (next :: rest)

/-- Whether the pattern stands somewhere in the text. The empty pattern stands everywhere. -/
def occursIn (pattern : List Char) : List Char → Bool
  | [] => pattern.isEmpty
  | c :: rest => pattern.isPrefixOf (c :: rest) || occursIn pattern rest

theorem occursIn_iff (pattern text : List Char) : occursIn pattern text = true ↔ pattern <:+: text := by
  induction text with
  | nil => simp [occursIn]
  | cons c rest ih => simp [occursIn, ih, List.infix_cons_iff]

def afterStart? : List Char → List Char → Option (List Char)
  | [], text => some text
  | _ :: _, [] => none
  | c :: start, d :: text => if c = d then afterStart? start text else none

/-- What stands between a beginning and an end of the text that do not overlap. -/
def between? (start finish text : String) : Option String := do
  let rest ← afterStart? start.toList text.toList
  let middle ← afterStart? finish.toList.reverse rest.reverse
  return String.ofList middle.reverse

def doubled (quote : Char) : List Char → List Char
  | [] => []
  | c :: rest =>
      if c = quote then quote :: quote :: doubled quote rest else c :: doubled quote rest

def quoted (quote : Char) (text : String) : String :=
  String.ofList (quote :: doubled quote text.toList ++ [quote])

/-- Reads from behind an opening quote to the first quote that stands alone. Gives the text and what
follows its closing quote; nothing when there is no such quote. -/
def readDoubled? (quote : Char) : List Char → Option (List Char × List Char)
  | [] => none
  | [c] => if c = quote then some ([], []) else none
  | c :: d :: rest =>
      if c = quote then
        if d = quote then
          (readDoubled? quote rest).map fun (text, rest) => (quote :: text, rest)
        else
          some ([], d :: rest)
      else
        (readDoubled? quote (d :: rest)).map fun (text, rest) => (c :: text, rest)

/-- Reading takes back what quoting wrote, when no further quote follows. -/
theorem readDoubled?_doubled {quote : Char} (text rest : List Char) (h : rest.head? ≠ some quote) :
    readDoubled? quote (doubled quote text ++ quote :: rest) = some (text, rest) := by
  induction text with
  | nil =>
    cases rest with
    | nil => simp [doubled, readDoubled?]
    | cons d rest =>
      have hne : d ≠ quote := fun e => h (by simp [e])
      simp [doubled, readDoubled?, hne]
  | cons c text ih =>
    by_cases hc : c = quote
    · subst hc
      simp [doubled, readDoubled?, ih]
    · simp only [doubled, if_neg hc, List.cons_append]
      cases htail : doubled quote text ++ quote :: rest with
      | nil => simp at htail
      | cons d more =>
        rw [htail] at ih
        simp [readDoubled?, hc, ih]

end SchemaLedger.Text
