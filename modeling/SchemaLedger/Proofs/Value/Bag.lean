import Mathlib.Data.List.Induction
import SchemaLedger.Value.Bag

/-! # What bags hold

A bag answers for a key the value that was last set for it, and the keys of a flat bag are those of
its parts.
-/

namespace SchemaLedger

set_option autoImplicit false

variable {key : String} {value : Value} {entries : List (String × Value)}

/-- The values that stand for a key, in order. -/
def valuesOf (key : String) (entries : List (String × Value)) : List Value :=
  (entries.filter (·.1 = key)).map Prod.snd

theorem valuesOf_cons (entry : String × Value) : valuesOf key (entry :: entries) =
    if entry.1 = key then entry.2 :: valuesOf key entries else valuesOf key entries := by
  unfold valuesOf
  by_cases h : entry.1 = key <;> simp [h]

theorem lookup_cons (entry : String × Value) : (entry :: entries).lookup key =
    if entry.1 = key then some entry.2 else entries.lookup key := by
  rw [List.lookup_cons]
  by_cases h : entry.1 = key
  · simp [h]
  · rw [if_neg h, beq_eq_false_iff_ne.2 (Ne.symm h)]

theorem lookup_putEntry (other : String) : (putEntry key value entries).lookup other =
    if key = other then some value else entries.lookup other := by
  induction entries with
  | nil => rw [putEntry, lookup_cons]
  | cons entry rest ih =>
    by_cases hentry : entry.1 = key
    · rw [putEntry, if_pos hentry, lookup_cons, lookup_cons, hentry]
      split <;> rfl
    · rw [putEntry, if_neg hentry, lookup_cons, lookup_cons, ih]
      by_cases hother : entry.1 = other
      · rw [if_pos hother, if_pos hother, if_neg fun h => hentry (hother.trans h.symm)]
      · rw [if_neg hother, if_neg hother]

theorem lookup_filter_ne {other : String} (h : key ≠ other) (entries : List (String × Value)) :
    (entries.filter (·.1 ≠ other)).lookup key = entries.lookup key := by
  induction entries with
  | nil => rfl
  | cons entry rest ih =>
    by_cases hother : entry.1 = other
    · rw [List.filter_cons_of_neg (by simpa using hother), ih, lookup_cons,
        if_neg fun heq => h (heq.symm.trans hother)]
    · rw [List.filter_cons_of_pos (by simpa using hother), lookup_cons, lookup_cons, ih]

theorem filter_putEntry (other : String) : (putEntry key value entries).filter (·.1 ≠ other) =
    if key = other then entries.filter (·.1 ≠ other)
    else putEntry key value (entries.filter (·.1 ≠ other)) := by
  induction entries with
  | nil => by_cases h : key = other <;> simp [putEntry, h]
  | cons entry rest ih =>
    by_cases hentry : entry.1 = key
    · by_cases h : key = other <;> simp [putEntry, hentry, h]
    · by_cases hother : entry.1 = other
      · simp only [putEntry, if_neg hentry]
        rw [List.filter_cons_of_neg (by simpa using hother), ih,
          List.filter_cons_of_neg (by simpa using hother)]
      · simp only [putEntry, if_neg hentry]
        rw [List.filter_cons_of_pos (by simpa using hother), ih,
          List.filter_cons_of_pos (by simpa using hother)]
        split <;> simp [putEntry, hentry]

theorem filter_eq_of_lookup (hnodup : (entries.map Prod.fst).Nodup) :
    entries.filter (·.1 = key) = ((entries.lookup key).map (key, ·)).toList := by
  induction entries with
  | nil => rfl
  | cons entry rest ih =>
    rw [List.map_cons, List.nodup_cons] at hnodup
    rw [lookup_cons]
    by_cases h : entry.1 = key
    · have hrest : rest.filter (·.1 = key) = [] := by
        refine List.filter_eq_nil_iff.2 fun other hother => ?_
        rw [decide_eq_true_iff, ← h]
        exact fun heq => hnodup.1 (heq ▸ List.mem_map_of_mem hother)
      rw [List.filter_cons_of_pos (by simpa using h), hrest, if_pos h, ← h]
      rfl
    · rw [List.filter_cons_of_neg (by simpa using h), if_neg h, ih hnodup.2]

theorem lookup_of_mem (hnodup : (entries.map Prod.fst).Nodup) {entry : String × Value}
    (h : entry ∈ entries) : entries.lookup entry.1 = some entry.2 := by
  have hmem : entry ∈ entries.filter (·.1 = entry.1) := List.mem_filter.2 ⟨h, by simp⟩
  rw [filter_eq_of_lookup hnodup, Option.mem_toList, Option.map_eq_some_iff] at hmem
  obtain ⟨value, hvalue, hentry⟩ := hmem
  rw [hvalue, ← hentry]

namespace Bag

variable (bag : Bag)

@[simp] theorem entries_single : (single key value).entries = [(key, value)] := rfl

theorem get?_set (other : String) : (bag.set key value).get? other =
    if key = other then some value else bag.get? other :=
  lookup_putEntry other

theorem get?_setAll (other : String) : (bag.setAll entries).get? other =
    (valuesOf other entries).getLast?.or (bag.get? other) := by
  induction entries generalizing bag with
  | nil => rfl
  | cons entry rest ih =>
    change ((bag.set entry.1 entry.2).setAll rest).get? other = _
    rw [ih, get?_set, valuesOf_cons]
    by_cases h : entry.1 = other
    · rw [if_pos h, if_pos h, List.getLast?_cons]
      cases (valuesOf other rest).getLast? <;> rfl
    · rw [if_neg h, if_neg h]

/-- The keys stand where they first came. -/
theorem keys_ofList (entries : List (String × Value)) :
    (ofList entries).keys = (entries.map Prod.fst).eraseDups := by
  -- from the end, since the last entry is the one that is set on the keys so far
  induction entries using List.reverseRecOn with
  | nil => rfl
  | append_singleton entries entry ih =>
    have hset : ofList (entries ++ [entry]) = (ofList entries).set entry.1 entry.2 :=
      List.foldl_append ..
    have hmap : (ofList entries).entries.map Prod.fst = (entries.map Prod.fst).eraseDups := ih
    rw [hset, keys, entries_set, keys_putEntry, hmap, List.map_append, List.eraseDups_append]
    by_cases h : entry.1 ∈ entries.map Prod.fst
    · rw [if_pos (List.mem_eraseDups.2 h)]
      simp [List.removeAll, h]
    · rw [if_neg (mt List.mem_eraseDups.1 h)]
      simp [List.removeAll, h, List.eraseDups_cons]

theorem flatten_eq_ofList (bags : List Bag) : flatten bags = ofList (bags.flatMap Bag.entries) := by
  have hfrom : ∀ start : Bag, bags.foldl (fun flat bag => flat.setAll bag.entries) start =
      start.setAll (bags.flatMap Bag.entries) := by
    intro start
    induction bags generalizing start with
    | nil => rfl
    | cons bag bags ih =>
      rw [List.foldl_cons, ih, List.flatMap_cons]
      exact (List.foldl_append ..).symm
  exact hfrom ∅

theorem get?_flatten (bags : List Bag) (key : String) :
    (flatten bags).get? key = (valuesOf key (bags.flatMap Bag.entries)).getLast? := by
  rw [flatten_eq_ofList, ofList, get?_setAll]
  exact Option.or_none

theorem mem_keys_flatten (bags : List Bag) (key : String) :
    key ∈ (flatten bags).keys ↔ ∃ bag ∈ bags, key ∈ bag.keys := by
  rw [flatten_eq_ofList, keys_ofList, List.mem_eraseDups, List.map_flatMap, List.mem_flatMap]
  rfl

theorem valuesOf_entries (key : String) : valuesOf key bag.entries = (bag.get? key).toList := by
  rw [valuesOf, filter_eq_of_lookup bag.keysNodup, get?]
  cases bag.entries.lookup key <;> rfl

theorem valuesOf_flatMap (key : String) (bags : List Bag) :
    valuesOf key (bags.flatMap Bag.entries) = bags.filterMap (·.get? key) := by
  induction bags with
  | nil => rfl
  | cons bag bags ih =>
    have happend : valuesOf key (bag.entries ++ bags.flatMap Bag.entries) =
        valuesOf key bag.entries ++ valuesOf key (bags.flatMap Bag.entries) := by
      simp [valuesOf]
    rw [List.flatMap_cons, happend, valuesOf_entries, ih, List.filterMap_cons]
    cases bag.get? key <;> rfl

/-- What a key stands for in the end was given last. -/
theorem getLast?_of_mem_flatten {bags : List Bag} {entry : String × Value}
    (h : entry ∈ (flatten bags).entries) :
    (bags.filterMap (·.get? entry.1)).getLast? = some entry.2 := by
  rw [← valuesOf_flatMap, ← get?_flatten]
  exact lookup_of_mem (flatten bags).keysNodup h

theorem filter_setAll {bag rest : Bag} (key : String)
    (h : bag.entries.filter (·.1 ≠ key) = rest.entries) :
    (bag.setAll entries).entries.filter (·.1 ≠ key) =
      (rest.setAll (entries.filter (·.1 ≠ key))).entries := by
  induction entries generalizing bag rest with
  | nil => exact h
  | cons entry later ih =>
    change ((bag.set entry.1 entry.2).setAll later).entries.filter (·.1 ≠ key) = _
    by_cases hkey : entry.1 = key
    · rw [List.filter_cons_of_neg (by simpa using hkey)]
      apply ih
      rw [entries_set, filter_putEntry, if_pos hkey, h]
    · rw [List.filter_cons_of_pos (by simpa using hkey)]
      apply ih
      rw [entries_set, filter_putEntry, if_neg hkey, h]
      rfl

/-- The entries of the other keys are those that the bags have without this key. -/
theorem filter_flatten (key : String) (bags : List Bag) :
    (flatten bags).entries.filter (·.1 ≠ key) =
      (ofList ((bags.flatMap Bag.entries).filter (·.1 ≠ key))).entries := by
  rw [flatten_eq_ofList]
  exact filter_setAll key rfl

end Bag

end SchemaLedger
