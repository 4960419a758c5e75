/-! # Bytes as UTF-8 text

A byte sequence is cut into characters and invalid parts. An invalid part is as long as some
character could still begin with it, so reading resumes at the first byte that rules the part out.
-/

namespace SchemaLedger.Text

set_option autoImplicit false

/-- How a lead byte continues: how many bytes follow, and the range of the first of them. -/
structure Continuation where
  count : Nat
  least : UInt8
  greatest : UInt8

def Continuation.of? (lead : UInt8) : Option Continuation :=
  if 0xC2 ≤ lead && lead ≤ 0xDF then some ⟨1, 0x80, 0xBF⟩
  else if lead = 0xE0 then some ⟨2, 0xA0, 0xBF⟩
  else if lead = 0xED then some ⟨2, 0x80, 0x9F⟩
  else if 0xE1 ≤ lead && lead ≤ 0xEF then some ⟨2, 0x80, 0xBF⟩
  else if lead = 0xF0 then some ⟨3, 0x90, 0xBF⟩
  else if 0xF1 ≤ lead && lead ≤ 0xF3 then some ⟨3, 0x80, 0xBF⟩
  else if lead = 0xF4 then some ⟨3, 0x80, 0x8F⟩
  else none

def leadBits (lead : UInt8) (count : Nat) : Nat :=
  lead.toNat % Nat.pow 2 (6 - count)

def takeTail : Nat → UInt8 → UInt8 → Nat → List UInt8 → Option Nat × List UInt8
  | 0, _, _, bits, bytes => (some bits, bytes)
  | _ + 1, _, _, _, [] => (none, [])
  | count + 1, least, greatest, bits, byte :: bytes =>
      if least ≤ byte && byte ≤ greatest then
        takeTail count 0x80 0xBF (bits * 64 + (byte.toNat - 0x80)) bytes
      else
        (none, byte :: bytes)

theorem length_takeTail (count : Nat) (least greatest : UInt8) (bits : Nat) (bytes : List UInt8) :
    (takeTail count least greatest bits bytes).2.length ≤ bytes.length := by
  induction count generalizing least greatest bits bytes with
  | zero => simp [takeTail]
  | succ count ih =>
    cases bytes with
    | nil => simp [takeTail]
    | cons byte bytes =>
      simp only [takeTail]
      split
      · exact Nat.le_succ_of_le (ih ..)
      · simp

/-- The first character, or nothing for an invalid part, and the bytes behind it. -/
def takeChar (lead : UInt8) (bytes : List UInt8) : Option Char × List UInt8 :=
  if lead < 0x80 then
    (some (Char.ofNat lead.toNat), bytes)
  else
    match Continuation.of? lead with
    | none => (none, bytes)
    | some ⟨count, least, greatest⟩ =>
        let (code, rest) := takeTail count least greatest (leadBits lead count) bytes
        (code.map Char.ofNat, rest)

theorem length_takeChar (lead : UInt8) (bytes : List UInt8) :
    (takeChar lead bytes).2.length ≤ bytes.length := by
  unfold takeChar
  split
  · simp
  · split
    · simp
    · exact length_takeTail ..

def utf8Parts : List UInt8 → List (Option Char)
  | [] => []
  | lead :: bytes =>
      have := length_takeChar lead bytes
      (takeChar lead bytes).1 :: utf8Parts (takeChar lead bytes).2
termination_by bytes => bytes.length

/-- The text of the bytes, with the replacement character for each invalid part. -/
def ofUtf8Lossy (bytes : List UInt8) : String :=
  String.ofList ((utf8Parts bytes).map (·.getD '\uFFFD'))

def ofUtf8? (bytes : List UInt8) : Option String :=
  ((utf8Parts bytes).mapM id).map String.ofList

end SchemaLedger.Text
