import Mathlib.Tactic.SplitIfs
import SchemaLedger.Json.Scan
import SchemaLedger.Json.Writer
import SchemaLedger.Proofs.Text.IntegerText

/-! # Written JSON is read back

What is written for a text, a truth value or a natural number of 64 bits is read back in front of
whatever follows it, and exactly that much of the input is taken. Of a number the end is known only
by what follows, so this must not go on with it.
-/

namespace SchemaLedger.Json

set_option autoImplicit false

open Text

theorem not_zero_head_toDigits {n : Nat} (h : n ≠ 0) : (Nat.toDigits 10 n).head? ≠ some '0' := by
  induction n using Nat.strongRecOn with
  | ind n ih =>
    rw [Nat.toDigits_eq_if (by decide)]
    split
    · next hsmall =>
      have hdigit : ∀ d, d < 10 → d ≠ 0 → Nat.digitChar d ≠ '0' := by decide
      simpa using hdigit n hsmall h
    · next hlarge =>
      have hhead := ih (n / 10) (Nat.div_lt_self (by omega) (by decide)) (by omega)
      rw [List.head?_append]
      cases hfirst : (Nat.toDigits 10 (n / 10)).head? with
      | none => exact absurd (List.head?_eq_none_iff.1 hfirst) Nat.toDigits_ne_nil
      | some c => rwa [hfirst] at hhead

theorem le_foldl_digits (n : Nat) (digits : List Char) :
    n ≤ digits.foldl (fun n c => 10 * n + (c.toNat - '0'.toNat)) n := by
  induction digits generalizing n with
  | nil => exact Nat.le_refl n
  | cons c rest ih =>
    have hlonger := ih (10 * n + (c.toNat - '0'.toNat))
    rw [List.foldl_cons]
    omega

/-- All digits are taken when 64 bits hold the whole number. -/
theorem appendDigits_of_lt {n : Nat} {digits : List Char}
    (h : digits.foldl (fun n c => 10 * n + (c.toNat - '0'.toNat)) n < UInt64.size) :
    appendDigits n digits =
      (digits.foldl (fun n c => 10 * n + (c.toNat - '0'.toNat)) n, []) := by
  induction digits generalizing n with
  | nil => rfl
  | cons c rest ih =>
    have hlonger : 10 * n + (c.toNat - '0'.toNat) < UInt64.size :=
      Nat.lt_of_le_of_lt (le_foldl_digits _ rest) h
    rw [appendDigits, if_pos hlonger, ih h]
    rfl

theorem appendDigits_toDigits {n : Nat} (h : n < UInt64.size) :
    appendDigits 0 (Nat.toDigits 10 n) = (n, []) := by
  have hvalue : (Nat.toDigits 10 n).foldl (fun n c => 10 * n + (c.toNat - '0'.toNat)) 0 = n :=
    naturalOfDigits_toDigits n
  rw [appendDigits_of_lt (by rwa [hvalue]), hvalue]

/-- What can follow a whole number without becoming a part of it. -/
def EndsNumber (rest : List Char) : Prop :=
  ∀ c ∈ rest.head?, c.isDigit = false ∧ c ≠ '.' ∧ c ≠ 'e' ∧ c ≠ 'E'

theorem takeWhile_digits {digits rest : List Char} (hdigits : ∀ c ∈ digits, c.isDigit = true)
    (hrest : EndsNumber rest) :
    (digits ++ rest).takeWhile Char.isDigit = digits ∧
      (digits ++ rest).dropWhile Char.isDigit = rest := by
  rw [List.takeWhile_append_of_pos hdigits, List.dropWhile_append_of_pos hdigits]
  cases rest with
  | nil => simp
  | cons c rest =>
    have hc := (hrest c rfl).1
    simp [hc]

theorem readNumber_toDigits {n : Nat} (h : n < UInt64.size) {rest : List Char}
    (hrest : EndsNumber rest) :
    readNumber true (Nat.toDigits 10 n ++ rest) = .ok (.natural n, rest) := by
  have hdigits : ∀ c ∈ Nat.toDigits 10 n, c.isDigit = true := fun c hc =>
    isDigit_of_mem_toDigits hc
  obtain ⟨htake, hdrop⟩ := takeWhile_digits hdigits hrest
  have hzero : ¬ ((Nat.toDigits 10 n).head? = some '0' ∧ Nat.toDigits 10 n ≠ ['0']) := by
    rintro ⟨hhead, hne⟩
    by_cases hn : n = 0
    · subst hn
      exact hne rfl
    · exact not_zero_head_toDigits hn hhead
  simp only [readNumber, htake, hdrop, if_neg Nat.toDigits_ne_nil, if_neg hzero,
    appendDigits_toDigits h]
  split
  · next hhead => exact absurd rfl (hrest '.' rfl).2.1
  · next hhead => exact absurd rfl (hrest 'e' rfl).2.2.1
  · next hhead => exact absurd rfl (hrest 'E' rfl).2.2.2
  · rfl

theorem toList_ofText (text : String) :
    (ofText text).toList = '"' :: (text.toList.flatMap escaped ++ ['"']) := by
  rw [ofText, String.toList_ofList, List.cons_append]

/-- A character is written as an escape by its letter, as an escape by its number, or as it is. -/
theorem escaped_cases (c : Char) :
    (∃ letter, letter ≠ 'u' ∧ Scan.letterEscape? letter = some c ∧ escaped c = ['\\', letter]) ∨
    (c.toNat < 0x20 ∧
      escaped c = ['\\', 'u', '0', '0', hexDigit (c.toNat / 16), hexDigit (c.toNat % 16)]) ∨
    (c ≠ '"' ∧ c ≠ '\\' ∧ ¬ c.toNat < 0x20 ∧ escaped c = [c]) := by
  unfold escaped
  split_ifs with hquote hslash hline hreturn htab hback hfeed hcontrol
  · exact .inl ⟨'"', by decide, by rw [hquote]; rfl, rfl⟩
  · exact .inl ⟨'\\', by decide, by rw [hslash]; rfl, rfl⟩
  · exact .inl ⟨'n', by decide, by rw [hline]; rfl, rfl⟩
  · exact .inl ⟨'r', by decide, by rw [hreturn]; rfl, rfl⟩
  · exact .inl ⟨'t', by decide, by rw [htab]; rfl, rfl⟩
  · exact .inl ⟨'b', by decide, by rw [hback]; rfl, rfl⟩
  · exact .inl ⟨'f', by decide, by rw [hfeed]; rfl, rfl⟩
  · exact .inr (.inl ⟨hcontrol, rfl⟩)
  · exact .inr (.inr ⟨hquote, hslash, hcontrol, rfl⟩)

namespace Scan

theorem hexDigit?_hexDigit : ∀ n, n < 16 → hexDigit? (hexDigit n) = some n := by
  decide

theorem hexCode_hexDigits {n : Nat} (h : n < 256) (rest : List Char) :
    hexCode ('0' :: '0' :: hexDigit (n / 16) :: hexDigit (n % 16) :: rest) = .ok (n, rest) := by
  have hzero : hexDigit? '0' = some 0 := rfl
  have hhigh := hexDigit?_hexDigit (n / 16) (by omega)
  have hlow := hexDigit?_hexDigit (n % 16) (by omega)
  have hvalue : ((0 * 16 + 0) * 16 + n / 16) * 16 + n % 16 = n := by omega
  simp only [hexCode, hzero, hhigh, hlow, hvalue]

theorem codeEscape_control {c : Char} (h : c.toNat < 0x20) (rest : List Char) :
    codeEscape ('0' :: '0' :: hexDigit (c.toNat / 16) :: hexDigit (c.toNat % 16) :: rest) =
      .ok (c, rest) := by
  have htrailing : isTrailing c.toNat = false := by
    simp only [isTrailing, Bool.and_eq_false_iff, decide_eq_false_iff_not]
    omega
  have hleading : isLeading c.toNat = false := by
    simp only [isLeading, Bool.and_eq_false_iff, decide_eq_false_iff_not]
    omega
  rw [codeEscape, hexCode_hexDigits (by omega)]
  change (if isTrailing c.toNat = true then _ else if isLeading c.toNat = true then _ else
    Except.ok (Char.ofNat c.toNat, rest)) = _
  rw [htrailing, hleading, Char.ofNat_toNat]
  rfl

theorem escape_letter {letter c : Char} (hletter : letter ≠ 'u')
    (h : letterEscape? letter = some c) (rest : List Char) :
    escape (letter :: rest) = .ok (c, rest) := by
  unfold escape
  split
  · next heq => cases heq
  · next heq => exact absurd (List.cons.inj heq).1 hletter
  · next heq =>
    obtain ⟨rfl, rfl⟩ := List.cons.inj heq
    rw [h]

/-- One step reads what was written for one character. -/
theorem stringFrom_escaped (steps : Nat) (read : List Char) (c : Char) (rest : List Char) :
    stringFrom (steps + 1) read (escaped c ++ rest) = stringFrom steps (c :: read) rest := by
  obtain ⟨letter, hletter, hmeans, hwritten⟩ | ⟨hcontrol, hwritten⟩ |
    ⟨hquote, hslash, hcontrol, hwritten⟩ := escaped_cases c
  · rw [hwritten]
    simp [stringFrom, escape_letter hletter hmeans]
  · rw [hwritten]
    simp [stringFrom, escape, codeEscape_control hcontrol]
  · rw [hwritten]
    simp [stringFrom, hquote, hslash, hcontrol]

theorem stringFrom_written {steps : Nat} {text : List Char} (h : text.length < steps)
    (read rest : List Char) :
    stringFrom steps read (text.flatMap escaped ++ '"' :: rest) =
      .ok (read.reverse ++ text, rest) := by
  induction text generalizing steps read with
  | nil =>
    obtain ⟨steps, rfl⟩ := Nat.exists_eq_add_of_lt h
    simp [stringFrom]
  | cons c text ih =>
    obtain ⟨steps, rfl⟩ := Nat.exists_eq_add_of_lt h
    have hsteps : text.length < (c :: text).length + steps := by
      rw [List.length_cons]
      omega
    rw [List.flatMap_cons, List.append_assoc, stringFrom_escaped, ih hsteps]
    simp

theorem length_le_length_escaped (text : List Char) :
    text.length ≤ (text.flatMap escaped).length := by
  induction text with
  | nil => exact Nat.le_refl 0
  | cons c text ih =>
    have hone : 1 ≤ (escaped c).length := by
      obtain ⟨letter, -, -, hwritten⟩ | ⟨-, hwritten⟩ | ⟨-, -, -, hwritten⟩ := escaped_cases c <;>
        simp [hwritten]
    rw [List.flatMap_cons, List.length_append, List.length_cons]
    omega

variable {α β : Type} {scan : Scan α} {a : α} {text rest : List Char}

theorem bind_of_ok (h : scan text = .ok (a, rest)) (next : α → Scan β) :
    (scan >>= next) text = next a rest := by
  change (scan text >>= fun found => next found.1 found.2) = _
  rw [h]
  rfl

theorem map_of_ok (h : scan text = .ok (a, rest)) (f : α → β) :
    (f <$> scan) text = .ok (f a, rest) := by
  rw [map_eq_pure_bind, bind_of_ok h]
  rfl

theorem get_eq (text : List Char) : (get : Scan (List Char)) text = .ok (text, text) := rfl

theorem set_eq (text rest : List Char) : (set rest : Scan PUnit) text = .ok (.unit, rest) := rfl

theorem lift_of_ok {result : Except Fault α} (h : result = .ok a) (text : List Char) :
    (liftM result : Scan α) text = .ok (a, text) := by
  subst h
  rfl

theorem require_cons {c : Char} (h : isBlank c = false) (rest : List Char) :
    require (c :: rest) = .ok (c, c :: rest) := by
  have hpeek : peek (c :: rest) = .ok (some c, c :: rest) := by
    change Except.ok (((c :: rest).dropWhile isBlank).head?, (c :: rest).dropWhile isBlank) = _
    rw [List.dropWhile_cons_of_neg (by simp [h])]
    rfl
  rw [require, bind_of_ok hpeek]
  rfl

theorem skip_cons (c : Char) (rest : List Char) : skip (c :: rest) = .ok ((), rest) := rfl

theorem colon_cons (rest : List Char) : colon (':' :: rest) = .ok ((), rest) := by
  rw [colon, bind_of_ok (require_cons (by decide) rest)]
  rfl

theorem word_append (word rest : List Char) : Scan.word word (word ++ rest) = .ok ((), rest) := by
  induction word with
  | nil => rfl
  | cons c word ih =>
    rw [Scan.word, bind_of_ok (get_eq _)]
    simp only [List.cons_append]
    exact ih

theorem text_ofText (content : String) (rest : List Char) :
    Scan.text ((ofText content).toList ++ rest) = .ok (content, rest) := by
  have hwritten : (ofText content).toList ++ rest =
      '"' :: (content.toList.flatMap escaped ++ '"' :: rest) := by
    rw [toList_ofText, List.cons_append, List.append_assoc, List.singleton_append]
  have hbound : content.toList.length <
      (content.toList.flatMap escaped ++ '"' :: rest).length := by
    have hlength := length_le_length_escaped content.toList
    rw [List.length_append, List.length_cons]
    omega
  have hstring : string (content.toList.flatMap escaped ++ '"' :: rest) = .ok (content, rest) := by
    have hread := stringFrom_written hbound [] rest
    rw [List.reverse_nil, List.nil_append] at hread
    rw [string, bind_of_ok (get_eq _), bind_of_ok (lift_of_ok hread _)]
    simp only [bind_of_ok (set_eq _ _), String.ofList_toList]
    rfl
  rw [hwritten, Scan.text, bind_of_ok (require_cons (by decide) _), if_pos rfl,
    bind_of_ok (skip_cons _ _), hstring]

theorem boolean_ofBool (flag : Bool) (rest : List Char) :
    boolean ((ofBool flag).toList ++ rest) = .ok (flag, rest) := by
  cases flag with
  | false =>
    have hword : word "false".toList ('f' :: 'a' :: 'l' :: 's' :: 'e' :: rest) = .ok ((), rest) :=
      word_append _ rest
    change boolean ('f' :: 'a' :: 'l' :: 's' :: 'e' :: rest) = _
    rw [boolean, bind_of_ok (require_cons (by decide) _), if_neg (by decide), if_pos rfl,
      bind_of_ok hword]
    rfl
  | true =>
    have hword : word "true".toList ('t' :: 'r' :: 'u' :: 'e' :: rest) = .ok ((), rest) :=
      word_append _ rest
    change boolean ('t' :: 'r' :: 'u' :: 'e' :: rest) = _
    rw [boolean, bind_of_ok (require_cons (by decide) _), if_pos rfl, bind_of_ok hword]
    rfl

theorem not_isBlank_of_isDigit {c : Char} (h : c.isDigit = true) : isBlank c = false := by
  cases hblank : isBlank c with
  | false => rfl
  | true =>
    simp only [isBlank, Bool.or_eq_true, decide_eq_true_eq] at hblank
    obtain ((rfl | rfl) | rfl) | rfl := hblank <;> exact absurd h (by decide)

theorem number_toDigits {n : Nat} (h : n < UInt64.size) {rest : List Char}
    (hrest : EndsNumber rest) :
    anyNumber (Nat.toDigits 10 n ++ rest) = .ok (.natural n, rest) := by
  have hne : Nat.toDigits 10 n ≠ [] := Nat.toDigits_ne_nil
  obtain ⟨d, digits, hdigits⟩ := List.exists_cons_of_ne_nil hne
  have hdigit : d.isDigit = true :=
    isDigit_of_mem_toDigits (hdigits ▸ List.mem_cons_self)
  have hdash : d ≠ '-' := by
    rintro rfl
    exact absurd hdigit (by decide)
  have hread := readNumber_toDigits h hrest
  have hrequire := require_cons (not_isBlank_of_isDigit hdigit) (digits ++ rest)
  rw [hdigits, List.cons_append] at hread ⊢
  rw [anyNumber, bind_of_ok hrequire, if_pos (by simp [hdigit]), number, bind_of_ok hrequire]
  simp only [ne_eq, hdash, not_false_eq_true, decide_true, if_false]
  rw [bind_of_ok (get_eq _), bind_of_ok (lift_of_ok hread _)]
  simp only [bind_of_ok (set_eq _ _)]
  rfl

theorem integer_toString {n greatest : Nat} (h : n ≤ greatest) (hgreatest : greatest < UInt64.size)
    {rest : List Char} (hrest : EndsNumber rest) :
    integer 0 greatest ((toString n).toList ++ rest) = .ok (n, rest) := by
  have hnumber := number_toDigits (Nat.lt_of_le_of_lt h hgreatest) hrest
  have htext : (toString n).toList = Nat.toDigits 10 n := String.toList_ofList
  rw [htext, integer, bind_of_ok hnumber]
  have hbounds : (0 : Int) ≤ n ∧ (n : Int) ≤ greatest := by omega
  simp only [Number.toInt?, if_pos hbounds]
  rfl

end Scan

end SchemaLedger.Json
