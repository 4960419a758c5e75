import SchemaLedger.Proofs.Text.Numeral
import SchemaLedger.Value.Basic

/-! # Values as whole numbers

Truth values, timestamps and integers of both widths are whole numbers by themselves, and what a
statement quotes for one of them is a text of the same number. Any other text is a whole number
exactly when it is a numeral between white space, of a number within 64 bits.
-/

namespace SchemaLedger

set_option autoImplicit false

open Text

namespace Value

/-- The kinds of value that are whole numbers by themselves, with the number of each. -/
inductive Whole : Value → Int → Prop where
  | bool (flag : Bool) : Whole (.bool flag) flag.toInt
  | int (n : Int32) : Whole (.int n) n.toInt
  | long (n : Int64) : Whole (.long n) n.toInt
  | timestamp (seconds : Int64) : Whole (.timestamp seconds) seconds.toInt

variable {value : Value} {n : Int}

theorem Whole.map_asLong? (h : Whole value n) : value.asLong?.map Int64.toInt = some n := by
  cases h with
  | bool flag => cases flag <;> rfl
  | int n =>
    have hleast := n.le_toInt
    have hgreatest := n.toInt_lt
    exact congrArg some (Int64.toInt_ofInt_of_le (by omega) (by omega))
  | long => rfl
  | timestamp => rfl

theorem Whole.sqlText_eq (h : Whole value n) : value.sqlText = toString n := by
  cases h with
  | bool flag => cases flag <;> rfl
  | int => rfl
  | long => rfl
  | timestamp => rfl

theorem Whole.bounds (h : Whole value n) : -2 ^ 63 ≤ n ∧ n ≤ 2 ^ 63 - 1 := by
  obtain ⟨number, -, rfl⟩ := Option.map_eq_some_iff.1 h.map_asLong?
  have hleast := number.le_toInt
  have hgreatest := number.toInt_lt
  omega

theorem map_asLong?_text_eq_some_iff {content : String} :
    (text content).asLong?.map Int64.toInt = some n ↔
      readInteger? (trimBlank content.toList) = some n ∧ -2 ^ 63 ≤ n ∧ n ≤ 2 ^ 63 - 1 := by
  change (readInt64? (trimBlank content.toList)).map Int64.toInt = some n ↔ _
  rw [readInt64?, Option.map_bind, Option.bind_eq_some_iff]
  simp only [Function.comp_apply, map_toInt_int64?, Option.ite_none_right_eq_some,
    Option.some.injEq]
  constructor
  · rintro ⟨_, hread, hbounds, rfl⟩
    exact ⟨hread, hbounds⟩
  · rintro ⟨hread, hbounds⟩
    exact ⟨n, hread, hbounds, rfl⟩

theorem map_asLong?_text_toString (hbounds : -2 ^ 63 ≤ n ∧ n ≤ 2 ^ 63 - 1) :
    (text (toString n)).asLong?.map Int64.toInt = some n := by
  refine map_asLong?_text_eq_some_iff.2 ⟨?_, hbounds⟩
  rw [trimBlank_toString, readInteger?_toString]

theorem map_asLong?_text_eq_some_iff_numeral {content : String} :
    (text content).asLong?.map Int64.toInt = some n ↔
      (∃ numeral : IntegerNumeral, Trimmed content.toList numeral.text ∧ numeral.number = n) ∧
        -2 ^ 63 ≤ n ∧ n ≤ 2 ^ 63 - 1 := by
  simp only [map_asLong?_text_eq_some_iff, readInteger?_eq_some_iff,
    eq_comm (b := trimBlank content.toList), trimBlank_eq_iff]

/-- A whole number of any kind, and at either end of its range, is the number of its text. Of all
texts those are whole numbers that are, without the white space around them, at most one sign and
one or more ASCII digits, and count no less than `-2 ^ 63` and no more than `2 ^ 63 - 1`. -/
theorem whole_numbers_read_back :
    (∀ (value : Value) (n : Int), Whole value n →
      (text value.sqlText).asLong? = value.asLong? ∧ value.asLong?.map Int64.toInt = some n) ∧
    ∀ content : String,
      (∀ n : Int, (text content).asLong?.map Int64.toInt = some n ↔
        (∃ numeral : IntegerNumeral,
          Trimmed content.toList numeral.text ∧ numeral.number = n) ∧
        -2 ^ 63 ≤ n ∧ n ≤ 2 ^ 63 - 1) ∧
      ((text content).asLong? = none ↔
        ¬ ∃ numeral : IntegerNumeral, Trimmed content.toList numeral.text ∧
          -2 ^ 63 ≤ numeral.number ∧ numeral.number ≤ 2 ^ 63 - 1) := by
  refine ⟨fun value n h => ⟨?_, h.map_asLong?⟩, fun content => ?_⟩
  · have hread := map_asLong?_text_toString h.bounds
    rw [← h.sqlText_eq, ← h.map_asLong?] at hread
    exact Option.map_injective (fun _ _ => Int64.toInt_inj.1) hread
  · refine ⟨fun n => map_asLong?_text_eq_some_iff_numeral, ?_⟩
    rw [← Option.map_eq_none_iff (f := Int64.toInt), Option.eq_none_iff_forall_ne_some]
    constructor
    · rintro hnone ⟨numeral, htrimmed, hbounds⟩
      exact hnone _ (map_asLong?_text_eq_some_iff_numeral.2 ⟨⟨numeral, htrimmed, rfl⟩, hbounds⟩)
    · rintro hnone n hread
      obtain ⟨⟨numeral, htrimmed, rfl⟩, hbounds⟩ := map_asLong?_text_eq_some_iff_numeral.1 hread
      exact hnone ⟨numeral, htrimmed, hbounds⟩

/-- The least number of 64 bits has no positive counterpart, and is read back all the same. -/
theorem least_number_read_back :
    let least : Value := .timestamp Int64.minValue
    let numeral : IntegerNumeral := ⟨some .plus, [0, 0, 4, 2], by decide⟩
    let content := "\u00a0+0042\n"
    Whole least (-2 ^ 63) ∧ least.sqlText = "-9223372036854775808" ∧
      (text least.sqlText).asLong? = least.asLong? ∧
      least.asLong?.map Int64.toInt = some (-2 ^ 63) ∧
      Trimmed content.toList numeral.text ∧ (text content).asLong?.map Int64.toInt = some 42 := by
  intro least numeral content
  have hwhole : Whole least (-2 ^ 63) := .timestamp Int64.minValue
  have htrimmed : Trimmed content.toList numeral.text := trimBlank_eq_iff.1 (by decide +kernel)
  obtain ⟨hread, hnumber⟩ := whole_numbers_read_back.1 least _ hwhole
  refine ⟨hwhole, by decide +kernel, hread, hnumber, htrimmed, ?_⟩
  exact ((whole_numbers_read_back.2 content).1 42).2
    ⟨⟨numeral, htrimmed, by decide +kernel⟩, by decide, by decide⟩

end Value

end SchemaLedger
