import SchemaLedger.Proofs.Plan.Limits

/-! # Limits that a database takes

Any value may stand among the clause maps under the name of the limit. A read ends in a limit that
this value alone decides exactly when the value is a number, and it can be used when the number is
not negative: negative numbers are written as they are, and a value that is no number is passed
over.
-/

namespace SchemaLedger

set_option autoImplicit false

open Text

namespace MySql

open Query

/-- The last words of the statement are this limit. -/
def EndsInLimit (statement : String) (limit : Int) : Prop :=
  (limitText (some limit)).toList <:+ statement.toList

instance (statement : String) (limit : Int) : Decidable (EndsInLimit statement limit) :=
  inferInstanceAs (Decidable (_ <:+ _))

theorem endsInLimit_append (start : String) (limit : Int) :
    EndsInLimit (start ++ limitText (some limit)) limit := by
  rw [EndsInLimit, String.toList_append]
  exact List.suffix_append ..

theorem takeWhile_of_endsInLimit {statement : String} {limit : Int}
    (h : EndsInLimit statement limit) :
    statement.toList.reverse.takeWhile (· ≠ ' ') = (toString limit).toList.reverse := by
  obtain ⟨start, hstart⟩ := h
  have hreverse : statement.toList.reverse =
      (toString limit).toList.reverse ++ ' ' :: ("TIMIL ".toList ++ start.reverse) := by
    simp [← hstart, limitText]
  have hnumber : ∀ c ∈ (toString limit).toList.reverse, decide (c ≠ ' ') = true := by
    rintro c hc
    obtain rfl | hdigit := eq_dash_or_isDigit_of_mem_toString (List.mem_reverse.1 hc)
    · decide
    · refine decide_eq_true fun hspace => ?_
      rw [hspace] at hdigit
      cases hdigit
  rw [hreverse, List.takeWhile_append_of_pos hnumber, List.takeWhile_cons_of_neg (by decide),
    List.append_nil]

theorem EndsInLimit.unique {statement : String} {limit other : Int}
    (h : EndsInLimit statement limit) (hother : EndsInLimit statement other) : limit = other := by
  have htexts := (takeWhile_of_endsInLimit h).symm.trans (takeWhile_of_endsInLimit hother)
  exact toString_int_injective (String.toList_inj.1 (List.reverse_injective htexts))

theorem not_endsInLimit_of_closed {statement : String} (h : Closed statement) (limit : Int) :
    ¬ EndsInLimit statement limit := by
  rintro ⟨start, hstart⟩
  refine h.not_number (String.ofList start ++ " LIMIT ") limit (String.toList_inj.1 ?_)
  rw [← hstart]
  simp [limitText]

/-- What a read selects is told before its limit, by a text that does not end in a number. -/
theorem exists_compile_find (dialect : MySql) (source : Source) : ∃ select, Closed select ∧
    dialect.compile source .find =
      .ok (.one (select ++ limitText (dialect.rowLimit source))) := by
  refine ⟨_, ?_, dialect.compile_find source⟩
  rw [whereClause_eq]
  exact closed_whereText ((closed_quoted rfl _).behind "SELECT * FROM ") _ _

variable {table : String} {calls : List Call} {entry : Value}

theorem exists_find_of_entry
    (h : (ofCalls table calls).source.clause.get? "limit" = some entry) (dialect : MySql) :
    ∃ statement,
      dialect.compile (ofCalls table calls).source .find = .ok (.one statement) ∧
      match entry.asLong? with
      | some number => EndsInLimit statement number.toInt
      | none =>
          if .unlimited ∈ calls then ∀ limit, ¬ EndsInLimit statement limit
          else EndsInLimit statement dialect.defaultLimit.toNat := by
  obtain ⟨select, hselect, hcompile⟩ := exists_compile_find dialect (ofCalls table calls).source
  rw [get?_limit] at h
  rw [rowLimit_ofCalls table h] at hcompile
  refine ⟨_, hcompile, ?_⟩
  cases entry.asLong? with
  | some number => exact endsInLimit_append select number.toInt
  | none =>
    by_cases hunlimited : .unlimited ∈ calls
    · simpa [hunlimited, limitText] using not_endsInLimit_of_closed hselect
    · simpa [hunlimited] using endsInLimit_append select dialect.defaultLimit.toNat

/-- For every query with an entry for the limit: whatever the default limit is and whether or not
the query is unlimited, a read ends in one and the same usable limit exactly when the entry is this
number. Limits that are set as such are of this kind. Any other number is written with its sign, and
an entry that is no number leaves the default limit, or none. -/
theorem usable_limit_iff
    (h : (ofCalls table calls).source.clause.get? "limit" = some entry) :
    let source := (ofCalls table calls).source
    (∀ count : Nat,
      (∀ dialect : MySql, ∃ statement, dialect.compile source .find = .ok (.one statement) ∧
        EndsInLimit statement count) ↔
      ∃ number, entry.asLong? = some number ∧ number.toInt = count) ∧
    (∀ given : UInt64, (Call.limit given).limit? = some entry →
      ∀ dialect : MySql, ∃ statement, dialect.compile source .find = .ok (.one statement) ∧
        EndsInLimit statement ↑(min given.toNat Int64.maxValue.toInt.toNat)) ∧
    ∀ dialect : MySql, ∃ statement, dialect.compile source .find = .ok (.one statement) ∧
      match entry.asLong? with
      | some number => EndsInLimit statement number.toInt
      | none =>
          if .unlimited ∈ calls then ∀ limit, ¬ EndsInLimit statement limit
          else EndsInLimit statement dialect.defaultLimit.toNat := by
  intro source
  have hfind := exists_find_of_entry h
  have hnumber : ∀ number, entry.asLong? = some number → ∀ dialect : MySql, ∃ statement,
      dialect.compile source .find = .ok (.one statement) ∧
        EndsInLimit statement number.toInt := by
    intro number hentry
    simpa only [hentry] using hfind
  refine ⟨fun count => ⟨fun hends => ?_, ?_⟩, ?_, hfind⟩
  · -- two default limits are enough to see that an entry which is no number decides nothing
    have hsame : ∀ dialect : MySql, ∀ limit, (∃ statement,
        dialect.compile source .find = .ok (.one statement) ∧ EndsInLimit statement limit) →
        limit = count := by
      rintro dialect limit ⟨statement, hcompile, hlimit⟩
      obtain ⟨other, hother, hcount⟩ := hends dialect
      obtain rfl := Compiled.one_inj.1 (Except.ok.inj (hcompile.symm.trans hother))
      exact hlimit.unique hcount
    cases hentry : entry.asLong? with
    | some number => exact ⟨number, rfl, hsame { tablePrefix := "" } _ (hnumber number hentry _)⟩
    | none =>
      simp only [hentry] at hfind
      by_cases hunlimited : .unlimited ∈ calls
      · obtain ⟨statement, hcompile, hnone⟩ := hfind { tablePrefix := "" }
        rw [if_pos hunlimited] at hnone
        obtain ⟨other, hother, hcount⟩ := hends { tablePrefix := "" }
        obtain rfl := Compiled.one_inj.1 (Except.ok.inj (hcompile.symm.trans hother))
        exact absurd hcount (hnone count)
      · simp only [if_neg hunlimited] at hfind
        have hone := hsame { tablePrefix := "", defaultLimit := 1 } _ (hfind _)
        have htwo := hsame { tablePrefix := "", defaultLimit := 2 } _ (hfind _)
        exact absurd (hone.trans htwo.symm) (by decide)
  · rintro ⟨number, hentry, hcount⟩
    exact hcount ▸ hnumber number hentry
  · intro given hgiven
    obtain ⟨number, hset, htoInt⟩ := Call.exists_limit? given
    obtain rfl : .long number = entry := Option.some.inj (hset.symm.trans hgiven)
    exact htoInt ▸ hnumber number rfl

theorem padded_limit_read :
    let calls : List Call := [.limit 5, .unlimited, .whereEq "limit" (.text " 7 "), .find]
    let source := (ofCalls "t" calls).source
    source.clause.get? "limit" = some (.text " 7 ") ∧
      ∀ dialect : MySql, ∃ statement,
        dialect.compile source .find = .ok (.one statement) ∧ EndsInLimit statement 7 := by
  intro calls source
  have hentry : source.clause.get? "limit" = some (.text " 7 ") := by decide +kernel
  refine ⟨hentry, ((usable_limit_iff hentry).1 7).2 ⟨7, ?_, ?_⟩⟩ <;> decide +kernel

/-- Five rows are asked for by a floating-point number, and ten are read, or all of them.
A number below zero is asked for as it is. -/
theorem limit_passed_over :
    let dialect : MySql := { tablePrefix := "" }
    let calls (limit : Value) : List Call := [.find, .whereEq "limit" limit]
    let five : Value := .double 0x4014000000000000
    five.sqlText = "5" ∧ (ofCalls "t" (calls five)).source.clause.get? "limit" = some five ∧
      (ofCalls "t" (calls five)).toSql dialect.grammar = .ok ["SELECT * FROM `t` LIMIT 10"] ∧
      (ofCalls "t" (.unlimited :: calls five)).toSql dialect.grammar =
        .ok ["SELECT * FROM `t`"] ∧
      (ofCalls "t" (calls (.long (-5)))).toSql dialect.grammar =
        .ok ["SELECT * FROM `t` LIMIT -5"] := by
  decide +kernel

end MySql

end SchemaLedger
