import Mathlib.Data.List.DropRight
import Mathlib.Data.List.Induction
import Mathlib.Data.List.TakeWhile
import Mathlib.Data.Nat.Digits.Defs
import SchemaLedger.Proofs.Text.IntegerText
import SchemaLedger.Text.CharacterSets

/-! # Integers as numerals between white space

A numeral has at most one sign and then digits, one at least. An integer is read from a text exactly
when the text is a numeral of it: a sign of its own, a second sign or a digit of another script is
no part of a numeral, and zeros in front count nothing. What trimming leaves is told by what it
takes away.
-/

namespace SchemaLedger.Text

set_option autoImplicit false

inductive Sign where
  | plus
  | minus

/-- The parts of a written integer. -/
structure IntegerNumeral where
  sign : Option Sign
  digits : List (Fin 10)
  nonempty : digits ≠ []

namespace IntegerNumeral

def signText : Option Sign → List Char
  | none => []
  | some .plus => ['+']
  | some .minus => ['-']

def digitText (digits : List (Fin 10)) : List Char :=
  digits.map fun d : Fin 10 => Nat.digitChar d

def text (numeral : IntegerNumeral) : List Char :=
  signText numeral.sign ++ digitText numeral.digits

/-- What digits count in the decimal system, in which the last one counts ones. -/
def magnitude (digits : List (Fin 10)) : Nat :=
  Nat.ofDigits 10 (digits.reverse.map Fin.val)

def number (numeral : IntegerNumeral) : Int :=
  match numeral.sign with
  | some .minus => -(magnitude numeral.digits : Int)
  | _ => magnitude numeral.digits

end IntegerNumeral

open IntegerNumeral

theorem isDigit_iff_exists {c : Char} : c.isDigit = true ↔ ∃ d : Fin 10, Nat.digitChar d = c := by
  constructor
  · intro h
    obtain ⟨hzero, hnine⟩ := Char.isDigit_iff_toNat.1 h
    have hbounds : 48 ≤ c.toNat ∧ c.toNat ≤ 57 := ⟨hzero, hnine⟩
    have hlt : c.toNat - 48 < 10 := by omega
    refine ⟨⟨c.toNat - 48, hlt⟩, Char.toNat_inj.1 ?_⟩
    rw [Nat.toNat_digitChar_of_lt_ten hlt]
    omega
  · rintro ⟨d, rfl⟩
    rw [Nat.isDigit_digitChar]
    exact decide_eq_true d.isLt

theorem all_isDigit_iff_exists {text : List Char} :
    text.all Char.isDigit = true ↔ ∃ digits, digitText digits = text := by
  constructor
  · intro h
    induction text with
    | nil => exact ⟨[], rfl⟩
    | cons c rest ih =>
      obtain ⟨hc, hrest⟩ := Bool.and_eq_true_iff.1 h
      obtain ⟨d, rfl⟩ := isDigit_iff_exists.1 hc
      obtain ⟨digits, rfl⟩ := ih hrest
      exact ⟨d :: digits, rfl⟩
  · rintro ⟨digits, rfl⟩
    rw [digitText, List.all_map, List.all_eq_true]
    exact fun d _ => isDigit_iff_exists.2 ⟨d, rfl⟩

theorem naturalOfDigits_concat (text : List Char) (c : Char) :
    naturalOfDigits (text ++ [c]) = 10 * naturalOfDigits text + (c.toNat - '0'.toNat) := by
  rw [naturalOfDigits, List.foldl_append]
  rfl

theorem magnitude_concat (digits : List (Fin 10)) (d : Fin 10) :
    magnitude (digits ++ [d]) = 10 * magnitude digits + d := by
  rw [magnitude, List.reverse_append, List.reverse_singleton, List.singleton_append, List.map_cons,
    Nat.ofDigits_cons, Nat.add_comm]
  rfl

theorem naturalOfDigits_digitText (digits : List (Fin 10)) :
    naturalOfDigits (digitText digits) = magnitude digits := by
  induction digits using List.reverseRecOn with
  | nil => rfl
  | append_singleton digits d ih =>
    have htext : digitText (digits ++ [d]) = digitText digits ++ [Nat.digitChar d] :=
      List.map_append
    have hvalue : (Nat.digitChar d).toNat - '0'.toNat = d := by
      rw [Nat.toNat_digitChar_of_lt_ten d.isLt]
      exact Nat.add_sub_cancel_left 48 d
    rw [htext, naturalOfDigits_concat, magnitude_concat, ih, hvalue]

theorem readNatural?_eq_some_iff {text : List Char} {n : Nat} :
    readNatural? text = some n ↔
      ∃ digits, digits ≠ [] ∧ digitText digits = text ∧ magnitude digits = n := by
  constructor
  · intro h
    rw [readNatural?, Option.ite_none_right_eq_some] at h
    obtain ⟨⟨hne, hall⟩, hvalue⟩ := h
    obtain ⟨digits, rfl⟩ := all_isDigit_iff_exists.1 hall
    refine ⟨digits, ?_, rfl, ?_⟩
    · rintro rfl
      exact hne rfl
    · rw [← naturalOfDigits_digitText]
      exact Option.some.inj hvalue
  · rintro ⟨digits, hne, rfl, rfl⟩
    have htext : digitText digits ≠ [] := mt List.map_eq_nil_iff.1 hne
    rw [readNatural?, if_pos ⟨htext, all_isDigit_iff_exists.2 ⟨digits, rfl⟩⟩,
      naturalOfDigits_digitText]

theorem map_readNatural?_eq_some_iff {text : List Char} {f : Nat → Int} {n : Int} :
    (readNatural? text).map f = some n ↔
      ∃ digits, digits ≠ [] ∧ digitText digits = text ∧ f (magnitude digits) = n := by
  rw [Option.map_eq_some_iff]
  constructor
  · rintro ⟨_, hread, rfl⟩
    obtain ⟨digits, hne, htext, rfl⟩ := readNatural?_eq_some_iff.1 hread
    exact ⟨digits, hne, htext, rfl⟩
  · rintro ⟨digits, hne, htext, rfl⟩
    exact ⟨magnitude digits, readNatural?_eq_some_iff.2 ⟨digits, hne, htext, rfl⟩, rfl⟩

/-- Integers are read from numerals only, and from each numeral the one that it denotes. -/
theorem readInteger?_eq_some_iff {text : List Char} {n : Int} :
    readInteger? text = some n ↔
      ∃ numeral : IntegerNumeral, numeral.text = text ∧ numeral.number = n := by
  constructor
  · intro h
    by_cases hplus : '+' ∈ text.head?
    · obtain ⟨rest, rfl⟩ := List.head?_eq_some_iff.1 hplus
      rw [readInteger?_plus] at h
      obtain ⟨digits, hne, rfl, rfl⟩ := map_readNatural?_eq_some_iff.1 h
      exact ⟨⟨some .plus, digits, hne⟩, rfl, rfl⟩
    by_cases hminus : '-' ∈ text.head?
    · obtain ⟨rest, rfl⟩ := List.head?_eq_some_iff.1 hminus
      rw [readInteger?_minus] at h
      obtain ⟨digits, hne, rfl, rfl⟩ := map_readNatural?_eq_some_iff.1 h
      exact ⟨⟨some .minus, digits, hne⟩, rfl, Int.negOfNat_eq.symm⟩
    · rw [readInteger?_of_no_sign hplus hminus] at h
      obtain ⟨digits, hne, rfl, rfl⟩ := map_readNatural?_eq_some_iff.1 h
      exact ⟨⟨none, digits, hne⟩, rfl, rfl⟩
  · rintro ⟨⟨sign, digits, hne⟩, rfl, rfl⟩
    match sign with
    | some .plus =>
      exact (readInteger?_plus _).trans (map_readNatural?_eq_some_iff.2 ⟨digits, hne, rfl, rfl⟩)
    | some .minus =>
      refine (readInteger?_minus _).trans (map_readNatural?_eq_some_iff.2 ⟨digits, hne, rfl, ?_⟩)
      exact Int.negOfNat_eq
    | none =>
      have hdigits := List.all_eq_true.1 (all_isDigit_iff_exists.2 ⟨digits, rfl⟩)
      refine (readInteger?_of_isDigit fun c hc => hdigits c (List.mem_of_mem_head? hc)).trans ?_
      exact map_readNatural?_eq_some_iff.2 ⟨digits, hne, rfl, rfl⟩

theorem map_toInt_int64? (n : Int) :
    (int64? n).map Int64.toInt = if -2 ^ 63 ≤ n ∧ n ≤ 2 ^ 63 - 1 then some n else none := by
  have hrange : (Int64.minValue.toInt ≤ n ∧ n ≤ Int64.maxValue.toInt) ↔
      (-2 ^ 63 ≤ n ∧ n ≤ 2 ^ 63 - 1) := Iff.rfl
  rw [int64?]
  simp only [hrange]
  split
  · next h => exact congrArg some (Int64.toInt_ofInt_of_le h.1 (by omega))
  · rfl

/-- Nothing but white space stands around the inner text, which has none at its own ends. -/
structure Trimmed (text inner : List Char) : Prop where
  around : ∃ before after, before ++ inner ++ after = text ∧ ∀ c ∈ before ++ after, isBlank c = true
  first : ∀ c ∈ inner.head?, isBlank c = false
  last : ∀ c ∈ inner.getLast?, isBlank c = false

theorem dropWhile_eq_iff {α : Type} {p : α → Bool} {list rest : List α} :
    list.dropWhile p = rest ↔
      (∃ before, before ++ rest = list ∧ ∀ a ∈ before, p a = true) ∧
        ∀ a ∈ rest.head?, p a = false := by
  constructor
  · rintro rfl
    refine ⟨⟨list.takeWhile p, List.takeWhile_append_dropWhile, fun a => List.mem_takeWhile_imp⟩, ?_⟩
    intro a ha
    have hhead := List.head?_dropWhile_not p list
    rw [Option.mem_def.1 ha] at hhead
    exact hhead
  · rintro ⟨⟨before, rfl, hbefore⟩, hrest⟩
    rw [List.dropWhile_append_of_pos hbefore]
    cases rest with
    | nil => rfl
    | cons a rest => rw [List.dropWhile_cons_of_neg (by simp [hrest a rfl])]

theorem rdropWhile_eq_iff {α : Type} {p : α → Bool} {list rest : List α} :
    list.rdropWhile p = rest ↔
      (∃ after, rest ++ after = list ∧ ∀ a ∈ after, p a = true) ∧
        ∀ a ∈ rest.getLast?, p a = false := by
  rw [List.rdropWhile, List.reverse_eq_iff, dropWhile_eq_iff, List.head?_reverse]
  refine and_congr_left' ⟨?_, ?_⟩
  · rintro ⟨after, hlist, hafter⟩
    refine ⟨after.reverse, ?_, fun a ha => hafter a (List.mem_reverse.1 ha)⟩
    rw [← List.reverse_reverse list, ← hlist, List.reverse_append, List.reverse_reverse]
  · rintro ⟨after, rfl, hafter⟩
    exact ⟨after.reverse, List.reverse_append.symm, fun a ha => hafter a (List.mem_reverse.1 ha)⟩

theorem trimBlank_eq_iff {text inner : List Char} : trimBlank text = inner ↔ Trimmed text inner := by
  change (text.dropWhile isBlank).rdropWhile isBlank = inner ↔ _
  rw [rdropWhile_eq_iff]
  constructor
  · rintro ⟨⟨after, htext, hafter⟩, hlast⟩
    obtain ⟨⟨before, rfl, hbefore⟩, hfirst⟩ := dropWhile_eq_iff.1 htext.symm
    refine ⟨⟨before, after, List.append_assoc .., ?_⟩, fun c hc => hfirst c ?_, hlast⟩
    · exact List.forall_mem_append.2 ⟨hbefore, hafter⟩
    · rw [List.head?_append, Option.mem_def.1 hc]
      rfl
  · rintro ⟨⟨before, after, rfl, hblank⟩, hfirst, hlast⟩
    obtain ⟨hbefore, hafter⟩ := List.forall_mem_append.1 hblank
    refine ⟨?_, hlast⟩
    cases inner with
    | nil =>
      -- white space alone is dropped from the front as a whole
      have hall : (before ++ [] ++ after).dropWhile isBlank = [] :=
        dropWhile_eq_iff.2 ⟨⟨before ++ after, by simp, hblank⟩, nofun⟩
      exact ⟨[], hall.symm, nofun⟩
    | cons c inner =>
      have htext : before ++ (c :: inner ++ after) = before ++ (c :: inner) ++ after :=
        (List.append_assoc ..).symm
      exact ⟨after, (dropWhile_eq_iff.2 ⟨⟨before, htext, hbefore⟩, hfirst⟩).symm, hafter⟩

theorem isBlank_eq_false_of_isDigit {c : Char} (h : c.isDigit = true) : isBlank c = false := by
  obtain ⟨d, rfl⟩ := isDigit_iff_exists.1 h
  revert d
  decide

theorem trimBlank_toString (n : Int) : trimBlank (toString n).toList = (toString n).toList := by
  have hblank : ∀ c ∈ (toString n).toList, isBlank c = false := by
    intro c hc
    obtain rfl | hdigit := eq_dash_or_isDigit_of_mem_toString hc
    · decide
    · exact isBlank_eq_false_of_isDigit hdigit
  refine trimBlank_eq_iff.2 ⟨⟨[], [], List.append_nil _, nofun⟩, ?_, ?_⟩
  · exact fun c hc => hblank c (List.mem_of_mem_head? hc)
  · exact fun c hc => hblank c (List.mem_of_getLast? hc)

end SchemaLedger.Text
