import SchemaLedger.Text.CaseRuns

/-! # Lower and upper case

Full case mapping of characters and texts. One character may become several, and in a text a
capital sigma at the end of a word becomes the final small sigma.
-/

namespace SchemaLedger.Text

set_option autoImplicit false

def lowerChar (c : Char) : List Char :=
  if c.toNat < 0x80 then
    [c.toLower]
  else if c.toNat = 0x130 then
    ['i', Char.ofNat 0x307]
  else
    [(lowerRuns.shifted? c).getD c]

def upperChar (c : Char) : List Char :=
  if c.toNat < 0x80 then
    [c.toUpper]
  else
    match upperSequences.lookup c.toNat with
    | some points => points.map Char.ofNat
    | none => [(upperRuns.shifted? c).getD c]

/-- Whether the first character that casing does not ignore is a cased letter. -/
def meetsCased (text : List Char) : Bool :=
  match text.dropWhile caseIgnorablePoints.has with
  | [] => false
  | c :: _ => casedPoints.has c

/-- Lower case of a text whose reversed beginning is `before`: a capital sigma is final when a cased
letter stands before it and none after it. -/
def lowerFrom (before : List Char) : List Char → List Char
  | [] => []
  | c :: rest =>
      (if c = 'Σ' then
        [if meetsCased before && !meetsCased rest then 'ς' else 'σ']
      else
        lowerChar c) ++ lowerFrom (c :: before) rest

def lower (text : String) : String :=
  String.ofList (lowerFrom [] text.toList)

def upper (text : String) : String :=
  String.ofList (text.toList.flatMap upperChar)

end SchemaLedger.Text
