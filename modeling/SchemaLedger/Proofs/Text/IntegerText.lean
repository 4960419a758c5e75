import SchemaLedger.Text.Integer

/-! # Integers are read back from their text -/

namespace SchemaLedger.Text

set_option autoImplicit false

theorem isDigit_of_mem_toDigits {n : Nat} {c : Char} (h : c ∈ Nat.toDigits 10 n) :
    c.isDigit = true :=
  Nat.isDigit_of_mem_toDigits (by decide) (by decide) h

theorem naturalOfDigits_toDigits (n : Nat) : naturalOfDigits (Nat.toDigits 10 n) = n := by
  have hdigits : naturalOfDigits (Nat.toDigits 10 n) = Nat.ofDigitChars 10 (Nat.toDigits 10 n) 0 :=
    Nat.ofDigitChars_eq_foldl.symm
  rw [hdigits, Nat.ofDigitChars_ten_toDigits]

theorem readNatural?_toDigits (n : Nat) : readNatural? (Nat.toDigits 10 n) = some n := by
  have hdigit : (Nat.toDigits 10 n).all Char.isDigit = true := by
    rw [List.all_eq_true]
    exact fun c hc => isDigit_of_mem_toDigits hc
  rw [readNatural?, if_pos ⟨Nat.toDigits_ne_nil, hdigit⟩, naturalOfDigits_toDigits]

theorem toList_toString_ofNat (n : Nat) :
    (toString (Int.ofNat n)).toList = Nat.toDigits 10 n :=
  String.toList_ofList

theorem toList_toString_negSucc (n : Nat) :
    (toString (Int.negSucc n)).toList = '-' :: Nat.toDigits 10 (n + 1) := by
  change ("-" ++ String.ofList (Nat.toDigits 10 (n + 1))).toList = _
  simp

theorem eq_dash_or_isDigit_of_mem_toString {n : Int} {c : Char} (h : c ∈ (toString n).toList) :
    c = '-' ∨ c.isDigit = true := by
  cases n with
  | ofNat n =>
    rw [toList_toString_ofNat] at h
    exact .inr (isDigit_of_mem_toDigits h)
  | negSucc n =>
    rw [toList_toString_negSucc, List.mem_cons] at h
    exact h.imp_right isDigit_of_mem_toDigits

theorem exists_last_digit (n : Int) :
    ∃ d, (toString n).toList.getLast? = some d ∧ d.isDigit = true := by
  have hnatural : ∀ n, ∃ d, (Nat.toDigits 10 n).getLast? = some d ∧ d.isDigit = true := by
    intro n
    have hlast := List.getLast?_eq_some_getLast (Nat.toDigits_ne_nil : Nat.toDigits 10 n ≠ [])
    exact ⟨_, hlast, isDigit_of_mem_toDigits (List.mem_of_getLast? hlast)⟩
  cases n with
  | ofNat n =>
    rw [toList_toString_ofNat]
    exact hnatural n
  | negSucc n =>
    obtain ⟨d, hlast, hdigit⟩ := hnatural (n + 1)
    refine ⟨d, ?_, hdigit⟩
    rw [toList_toString_negSucc, List.getLast?_cons, hlast]
    rfl

theorem readInteger?_plus (digits : List Char) :
    readInteger? ('+' :: digits) = (readNatural? digits).map Int.ofNat := by
  rw [readInteger?]
  cases readNatural? digits <;> rfl

theorem readInteger?_minus (digits : List Char) :
    readInteger? ('-' :: digits) = (readNatural? digits).map Int.negOfNat := by
  rw [readInteger?]
  cases readNatural? digits <;> rfl

/-- A text that begins with none of the signs is read as digits. -/
theorem readInteger?_of_no_sign {text : List Char} (hplus : '+' ∉ text.head?)
    (hminus : '-' ∉ text.head?) : readInteger? text = (readNatural? text).map Int.ofNat := by
  unfold readInteger?
  split
  · exact absurd rfl hminus
  · exact absurd rfl hplus
  · cases readNatural? text <;> rfl

theorem readInteger?_of_isDigit {text : List Char} (h : ∀ c ∈ text.head?, c.isDigit = true) :
    readInteger? text = (readNatural? text).map Int.ofNat :=
  readInteger?_of_no_sign (fun hplus => nomatch h _ hplus) (fun hminus => nomatch h _ hminus)

theorem readInteger?_toString (n : Int) : readInteger? (toString n).toList = some n := by
  cases n with
  | ofNat n =>
    have hhead : ∀ c ∈ (Nat.toDigits 10 n).head?, c.isDigit = true := by
      intro c hc
      exact isDigit_of_mem_toDigits (List.mem_of_mem_head? hc)
    rw [toList_toString_ofNat, readInteger?_of_isDigit hhead, readNatural?_toDigits]
    rfl
  | negSucc n =>
    rw [toList_toString_negSucc, readInteger?_minus, readNatural?_toDigits]
    rfl

theorem toString_int_injective : Function.Injective (toString : Int → String) := by
  intro m n h
  have hread := readInteger?_toString m
  rw [h, readInteger?_toString] at hread
  exact (Option.some.inj hread).symm

end SchemaLedger.Text
