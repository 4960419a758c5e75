import Mathlib.Data.List.Basic
import SchemaLedger.Proofs.Json.ReadBack
import SchemaLedger.Setup.Config

/-! # Stored configurations

A configuration that is written as JSON is read back unchanged exactly when it is usable, and a text
is read only as a usable configuration: its ledger table is not blank and its limit not zero.
-/

namespace SchemaLedger

set_option autoImplicit false

open Json Text

namespace Config

/-- The ledger table has a name that shows, and reads without a limit ask for some row. -/
structure Usable (config : Config) : Prop where
  table : ∃ c ∈ config.ledgerTable.toList, isBlank c = false
  limit : 1 ≤ config.defaultLimit

variable {config : Config}

theorem validate_eq_ok_iff : config.validate = .ok () ↔ config.Usable := by
  have hblank : config.ledgerTable.toList.all isBlank = true ↔
      ¬ ∃ c ∈ config.ledgerTable.toList, isBlank c = false := by
    simp
  have hlimit : config.defaultLimit = 0 ↔ ¬ 1 ≤ config.defaultLimit := by
    rw [UInt64.le_iff_toNat_le, ← UInt64.toNat_inj]
    change config.defaultLimit.toNat = 0 ↔ ¬ 1 ≤ config.defaultLimit.toNat
    omega
  unfold validate
  split
  · next h =>
    exact iff_of_false nofun fun husable => hblank.1 h husable.table
  · next htable =>
    split
    · next h => exact iff_of_false nofun fun husable => hlimit.1 h husable.limit
    · next h => exact iff_of_true rfl ⟨not_not.1 (mt hblank.2 htable), not_not.1 (mt hlimit.2 h)⟩

namespace Field

def written (config : Config) : Field → String
  | ledgerTable => ofText config.ledgerTable
  | bootstrapLedger => ofBool config.bootstrapLedger
  | defaultLimit => toString config.defaultLimit.toNat

/-- The configuration with the value that another has for a field. -/
def copied (config source : Config) : Field → Config
  | ledgerTable => { config with ledgerTable := source.ledgerTable }
  | bootstrapLedger => { config with bootstrapLedger := source.bootstrapLedger }
  | defaultLimit => { config with defaultLimit := source.defaultLimit }

theorem ofName?_name (field : Field) : ofName? field.name = some field := by
  cases field <;> decide

theorem scan_written (config source : Config) (field : Field) {rest : List Char}
    (hrest : EndsNumber rest) :
    field.scan config ((field.written source).toList ++ rest) =
      .ok (field.copied config source, rest) := by
  cases field with
  | ledgerTable => exact Scan.map_of_ok (Scan.text_ofText source.ledgerTable rest) _
  | bootstrapLedger => exact Scan.map_of_ok (Scan.boolean_ofBool source.bootstrapLedger rest) _
  | defaultLimit =>
    have hlimit : source.defaultLimit.toNat ≤ UInt64.size - 1 :=
      Nat.le_sub_one_of_lt source.defaultLimit.toNat_lt
    have hscan := Scan.integer_toString hlimit (by decide) hrest
    have hread := Scan.map_of_ok hscan fun limit : Int =>
      { config with defaultLimit := limit.toNat.toUInt64 }
    have hvalue : source.defaultLimit.toNat.toUInt64 = source.defaultLimit := by simp
    rw [Int.toNat_natCast, hvalue] at hread
    exact hread

def member (config : Config) (field : Field) : List Char :=
  (ofText field.name).toList ++ ':' :: (field.written config).toList

end Field

theorem endsNumber_cons {c : Char} (hc : c = ',' ∨ c = '\x7d') (rest : List Char) :
    EndsNumber (c :: rest) := by
  intro d hd
  obtain rfl : c = d := by simpa using hd
  obtain rfl | rfl := hc <;> decide

theorem membersScan_end (steps : Nat) (first : Bool) (seen : List Field) (config : Config)
    (rest : List Char) :
    membersScan (steps + 1) first seen config ('\x7d' :: rest) = .ok (config, rest) := by
  rw [membersScan, Scan.bind_of_ok (Scan.require_cons (by decide) _)]
  rfl

theorem membersScan_comma (steps : Nat) (seen : List Field) (config : Config) (body : List Char) :
    membersScan (steps + 1) false seen config (',' :: '"' :: body) =
      membersScan (steps + 1) true seen config ('"' :: body) := by
  have hcomma : Scan.require (',' :: '"' :: body) = .ok (',', ',' :: '"' :: body) :=
    Scan.require_cons (by decide) _
  have hquote : Scan.require ('"' :: body) = .ok ('"', '"' :: body) :=
    Scan.require_cons (by decide) _
  rw [membersScan, Scan.bind_of_ok hcomma, membersScan, Scan.bind_of_ok hquote]
  rfl

theorem exists_member_eq_cons (field : Field) (config : Config) (rest : List Char) :
    ∃ body, field.member config ++ rest = '"' :: body := by
  rw [Field.member, toList_ofText]
  exact ⟨_, rfl⟩

theorem membersScan_member (steps : Nat) {seen : List Field} (config source : Config)
    {field : Field} (hnew : field ∉ seen) {rest : List Char} (hrest : EndsNumber rest) :
    membersScan (steps + 1) true seen config (field.member source ++ rest) =
      membersScan steps false (field :: seen) (field.copied config source) rest := by
  obtain ⟨body, hbody⟩ := exists_member_eq_cons field source rest
  have hquote : Scan.require ('"' :: body) = .ok ('"', '"' :: body) :=
    Scan.require_cons (by decide) _
  have hkey : Scan.text ('"' :: body) =
      .ok (field.name, ':' :: ((field.written source).toList ++ rest)) := by
    rw [← hbody, Field.member, List.append_assoc]
    exact Scan.text_ofText _ _
  rw [hbody, membersScan, Scan.bind_of_ok hquote]
  simp only [Bool.not_true]
  rw [if_neg (by decide), if_neg (by decide), Scan.bind_of_ok hquote, if_neg (by decide),
    Scan.bind_of_ok hkey, Field.ofName?_name]
  simp only [if_neg hnew]
  rw [Scan.bind_of_ok (Scan.colon_cons _), Scan.bind_of_ok (field.scan_written config source hrest)]

theorem membersScan_next (steps : Nat) {seen : List Field} (config source : Config)
    {field : Field} (hnew : field ∉ seen) {rest : List Char} (hrest : EndsNumber rest) :
    membersScan (steps + 1) false seen config (',' :: (field.member source ++ rest)) =
      membersScan steps false (field :: seen) (field.copied config source) rest := by
  rw [← membersScan_member steps config source hnew hrest]
  obtain ⟨body, hbody⟩ := exists_member_eq_cons field source rest
  rw [hbody, membersScan_comma]

def members (config : Config) : List Char :=
  Field.ledgerTable.member config ++ ',' :: (Field.bootstrapLedger.member config ++
    ',' :: (Field.defaultLimit.member config ++ ['\x7d']))

theorem toList_toJson (config : Config) : config.toJson.toList = '\x7b' :: config.members := by
  simp [toJson, ofMembers, members, Field.member, Field.written]

theorem three_le_length_members (config : Config) : 3 ≤ config.members.length := by
  simp only [members, List.length_append, List.length_cons, List.length_nil]
  omega

theorem scan_toJson (config : Config) : scan config.toJson.toList = .ok (config, []) := by
  have hcomma : ∀ rest, EndsNumber (',' :: rest) := endsNumber_cons (.inl rfl)
  have hclosing : EndsNumber ['\x7d'] := endsNumber_cons (.inr rfl) []
  rw [toList_toJson, scan, Scan.bind_of_ok (Scan.require_cons (by decide) _), if_pos rfl,
    Scan.bind_of_ok (Scan.skip_cons _ _), Scan.bind_of_ok (Scan.get_eq _)]
  -- three members and the end of the object take four steps
  obtain ⟨steps, hsteps⟩ := Nat.exists_eq_add_of_le' (three_le_length_members config)
  rw [hsteps, members, membersScan_member (steps + 3) {} config (by decide) (hcomma _),
    membersScan_next (steps + 2) _ config (by decide) (hcomma _),
    membersScan_next (steps + 1) _ config (by decide) hclosing, membersScan_end]
  rfl

theorem ofJson_eq_ok_iff {text : String} : ofJson text = .ok config ↔
    scan.readAll text = .ok config ∧ config.Usable := by
  rw [← validate_eq_ok_iff]
  unfold ofJson
  cases hread : scan.readAll text with
  | error fault => exact iff_of_false nofun fun h => nomatch h.1
  | ok found =>
    change (found.validate >>= fun _ => pure found) = _ ↔ _
    cases hvalid : found.validate with
    | error error =>
      refine iff_of_false nofun ?_
      rintro ⟨heq, hok⟩
      cases heq
      simp [hvalid] at hok
    | ok =>
      change Except.ok found = Except.ok config ↔ _
      simp only [Except.ok.injEq]
      exact ⟨fun heq => ⟨heq, heq ▸ hvalid⟩, And.left⟩

theorem readAll_toJson (config : Config) : scan.readAll config.toJson = .ok config := by
  rw [Scan.readAll, scan_toJson]
  rfl

theorem ofJson_toJson_iff (config : Config) : ofJson config.toJson = .ok config ↔ config.Usable :=
  ofJson_eq_ok_iff.trans (and_iff_right config.readAll_toJson)

/-- A configuration is read back from what is written for it exactly when it is usable, whatever
characters its ledger table has and however great its limit is. Every text that is read at all gives
a usable configuration, which is written and read back in turn. -/
theorem usable_read_back (config : Config) :
    (ofJson config.toJson = .ok config ↔ config.Usable) ∧
      ∀ text, ofJson text = .ok config → config.Usable ∧ ofJson config.toJson = .ok config := by
  refine ⟨config.ofJson_toJson_iff, fun text htext => ?_⟩
  have husable := (ofJson_eq_ok_iff.1 htext).2
  exact ⟨husable, config.ofJson_toJson_iff.2 husable⟩

/-- The limit is the greatest there is, and the note is passed over. -/
theorem spaced_limit_read_back :
    let text := "\x7b \"default_limit\" : 18446744073709551615 , \"note\": [1e3, \"\\u00e9\"] \x7d\n"
    let config : Config := { defaultLimit := 18446744073709551615 }
    ofJson text = .ok config ∧ config.Usable ∧ ofJson config.toJson = .ok config := by
  intro text config
  have htext : ofJson text = .ok config := by decide +kernel
  exact ⟨htext, (usable_read_back config).2 text htext⟩

end Config

end SchemaLedger
