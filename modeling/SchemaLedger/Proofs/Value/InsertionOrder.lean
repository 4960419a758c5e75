import SchemaLedger.Proofs.Value.Bag

/-! # Bags keep the order of their settings

However a bag was put together, it is the one that its settings make when they are set one after the
other on an empty bag: its keys stand in the order in which they were first set, and each reads as
it was set last.
-/

namespace SchemaLedger

set_option autoImplicit false

variable {key : String} {value : Value} {entries : List (String × Value)}

theorem putEntry_of_notMem (h : key ∉ entries.map Prod.fst) :
    putEntry key value entries = entries ++ [(key, value)] := by
  induction entries with
  | nil => rfl
  | cons entry rest ih =>
    obtain ⟨hentry, hrest⟩ := not_or.1 (mt List.mem_cons.2 h)
    rw [putEntry, if_neg (Ne.symm hentry), ih hrest, List.cons_append]

theorem putEntry_putEntry (old : Value) :
    putEntry key value (putEntry key old entries) = putEntry key value entries := by
  induction entries with
  | nil => simp [putEntry]
  | cons entry rest ih =>
    by_cases h : entry.1 = key
    · simp [putEntry, h]
    · simp [putEntry, h, ih]

/-- A key that is there keeps its place, so another key may be set before it or after it. -/
theorem putEntry_comm {other : String} {value' : Value} (hne : key ≠ other)
    (hmem : key ∈ entries.map Prod.fst) :
    putEntry key value (putEntry other value' entries) =
      putEntry other value' (putEntry key value entries) := by
  induction entries with
  | nil => simp at hmem
  | cons entry rest ih =>
    by_cases hkey : entry.1 = key
    · simp [putEntry, hkey, hne]
    · have hrest : key ∈ rest.map Prod.fst := by
        simpa [Ne.symm hkey] using hmem
      by_cases hother : entry.1 = other
      · simp [putEntry, hother, Ne.symm hne]
      · simp [putEntry, hkey, hother, ih hrest]

namespace Bag

variable {bag : Bag} {settings : List (String × Value)}

theorem eq_of_entries {other : Bag} (h : bag.entries = other.entries) : bag = other := by
  cases bag
  cases other
  cases h
  rfl

theorem set_set (bag : Bag) (old : Value) :
    (bag.set key old).set key value = bag.set key value :=
  eq_of_entries (putEntry_putEntry old)

theorem set_comm {other : String} {value' : Value} (hne : key ≠ other) (hmem : key ∈ bag.keys) :
    (bag.set other value').set key value = (bag.set key value).set other value' :=
  eq_of_entries (putEntry_comm hne hmem)

theorem mem_keys_set {other : String} : other ∈ (bag.set key value).keys ↔
    other ∈ bag.keys ∨ other = key := by
  unfold keys
  rw [entries_set, keys_putEntry]
  split
  · next h => exact ⟨.inl, fun hor => hor.elim id (fun heq => heq ▸ h)⟩
  · simp

@[simp] theorem setAll_cons (bag : Bag) (entry : String × Value) :
    bag.setAll (entry :: entries) = (bag.set entry.1 entry.2).setAll entries := rfl

theorem setAll_append (bag : Bag) (more : List (String × Value)) :
    bag.setAll (entries ++ more) = (bag.setAll entries).setAll more :=
  List.foldl_append

theorem set_setAll (hmem : key ∈ bag.keys) (h : key ∉ entries.map Prod.fst) :
    (bag.setAll entries).set key value = (bag.set key value).setAll entries := by
  induction entries generalizing bag with
  | nil => rfl
  | cons entry rest ih =>
    obtain ⟨hentry, hrest⟩ := not_or.1 (mt List.mem_cons.2 h)
    rw [setAll_cons, setAll_cons, ih (mem_keys_set.2 (.inl hmem)) hrest, set_comm hentry hmem]

/-- Setting a key once more at the end comes to the same as setting it where it was first set. -/
theorem setAll_putEntry (bag : Bag) (hnodup : (entries.map Prod.fst).Nodup) :
    bag.setAll (putEntry key value entries) = (bag.setAll entries).set key value := by
  induction entries generalizing bag with
  | nil => rfl
  | cons entry rest ih =>
    rw [List.map_cons, List.nodup_cons] at hnodup
    by_cases h : entry.1 = key
    · subst h
      have hmem : entry.1 ∈ (bag.set entry.1 entry.2).keys := mem_keys_set.2 (.inr rfl)
      rw [putEntry, if_pos rfl, setAll_cons, setAll_cons, set_setAll hmem hnodup.1, set_set]
    · rw [putEntry, if_neg h, setAll_cons, setAll_cons, ih _ hnodup.2]

theorem ofList_append_singleton (settings : List (String × Value)) (entry : String × Value) :
    ofList (settings ++ [entry]) = (ofList settings).set entry.1 entry.2 :=
  setAll_append ∅ [entry]

/-- A bag on top of another has the effect of its settings. -/
theorem setAll_entries_ofList (bag : Bag) (settings : List (String × Value)) :
    bag.setAll (ofList settings).entries = bag.setAll settings := by
  -- from the end, since the last setting is made on the bag of the others
  induction settings using List.reverseRecOn with
  | nil => rfl
  | append_singleton settings entry ih =>
    rw [ofList_append_singleton, entries_set, setAll_putEntry bag (ofList settings).keysNodup, ih,
      setAll_append]
    rfl

theorem entries_ofList (hnodup : (entries.map Prod.fst).Nodup) :
    (ofList entries).entries = entries := by
  induction entries using List.reverseRecOn with
  | nil => rfl
  | append_singleton entries entry ih =>
    rw [List.map_append, List.nodup_append] at hnodup
    obtain ⟨hentries, -, hapart⟩ := hnodup
    have hnew : entry.1 ∉ entries.map Prod.fst := fun hmem =>
      hapart entry.1 hmem entry.1 (List.mem_singleton_self _) rfl
    rw [ofList_append_singleton, entries_set, ih hentries, putEntry_of_notMem hnew]

theorem ofList_entries (bag : Bag) : ofList bag.entries = bag :=
  eq_of_entries (entries_ofList bag.keysNodup)

theorem get?_ofList (key : String) (settings : List (String × Value)) :
    (ofList settings).get? key = (valuesOf key settings).getLast? := by
  rw [ofList, get?_setAll]
  exact Option.or_none

/-- A bag with the settings that it was put together from. Those of bags that are flattened stand
where these bags stand. -/
inductive Built : List (String × Value) → Bag → Prop
  | ofList (settings : List (String × Value)) : Built settings (ofList settings)
  | single (key : String) (value : Value) : Built [(key, value)] (single key value)
  | set {settings : List (String × Value)} {bag : Bag} (h : Built settings bag) (key : String)
      (value : Value) : Built (settings ++ [(key, value)]) (bag.set key value)
  | flatten (parts : List (List (String × Value) × Bag)) (h : ∀ part ∈ parts, Built part.1 part.2) :
      Built (parts.flatMap Prod.fst) (flatten (parts.map Prod.snd))

theorem flatten_of_settings {parts : List (List (String × Value) × Bag)}
    (h : ∀ part ∈ parts, part.2 = ofList part.1) :
    flatten (parts.map Prod.snd) = ofList (parts.flatMap Prod.fst) := by
  have hfrom : ∀ start : Bag, (parts.map Prod.snd).foldl (fun flat bag => flat.setAll bag.entries)
      start = start.setAll (parts.flatMap Prod.fst) := by
    induction parts with
    | nil => exact fun start => rfl
    | cons part rest ih =>
      intro start
      obtain ⟨hpart, hrest⟩ := List.forall_mem_cons.1 h
      rw [List.map_cons, List.foldl_cons, ih hrest, hpart, setAll_entries_ofList,
        List.flatMap_cons, setAll_append]
  exact hfrom ∅

theorem Built.eq_ofList (h : Built settings bag) : bag = Bag.ofList settings := by
  induction h with
  | ofList settings => rfl
  | single key value => rfl
  | set h key value ih => rw [ofList_append_singleton, ih]
  | flatten parts h ih => exact flatten_of_settings ih

theorem flatten_append (xs ys : List Bag) :
    flatten (xs ++ ys) = flatten [flatten xs, flatten ys] := by
  let parts := [(xs.flatMap Bag.entries, flatten xs), (ys.flatMap Bag.entries, flatten ys)]
  have hparts : ∀ part ∈ parts, part.2 = ofList part.1 :=
    List.forall_mem_cons.2
      ⟨flatten_eq_ofList xs, List.forall_mem_singleton.2 (flatten_eq_ofList ys)⟩
  have hsettings : parts.flatMap Prod.fst = (xs ++ ys).flatMap Bag.entries := by
    simp [parts]
  have htwo : flatten [flatten xs, flatten ys] = ofList (parts.flatMap Prod.fst) :=
    flatten_of_settings hparts
  rw [htwo, hsettings, flatten_eq_ofList]

theorem get?_eq_none_iff (bag : Bag) (key : String) : bag.get? key = none ↔ key ∉ bag.keys := by
  rw [get?, keys, List.lookup_eq_none_iff, List.mem_map]
  constructor
  · rintro h ⟨entry, hentry, rfl⟩
    simpa using h entry hentry
  · intro h entry hentry
    simpa using fun heq : key = entry.1 => h ⟨entry, hentry, heq.symm⟩

theorem get_eq_null_iff (bag : Bag) (key : String) :
    bag.get key = .null ↔ key ∉ bag.keys ∨ bag.get? key = some .null := by
  have habsent := get?_eq_none_iff bag key
  rw [← habsent, get]
  cases bag.get? key <;> simp

/-- Each key stands once, where it was first set, and reads as it was set last: Null when it never
was or when that is what it was set to. Flattening in two steps flattens at once, and a bag is made
again from its entries. -/
theorem insertion_ordered (h : Built settings bag) (xs ys : List Bag) :
    bag.keys.Nodup ∧ bag.keys = (settings.map Prod.fst).eraseDups ∧
      (∀ key, bag.get key = (valuesOf key settings).getLast?.getD .null ∧
        (bag.get key = .null ↔
          key ∉ bag.keys ∨ (valuesOf key settings).getLast? = some .null)) ∧
      flatten (xs ++ ys) = flatten [flatten xs, flatten ys] ∧
      (ofList bag.entries).entries = bag.entries := by
  obtain rfl := h.eq_ofList
  refine ⟨(ofList settings).keysNodup, keys_ofList settings, fun key => ?_, flatten_append xs ys,
    congrArg entries (ofList_entries _)⟩
  rw [get_eq_null_iff, get?_ofList]
  refine ⟨?_, Iff.rfl⟩
  rw [get, get?_ofList]

/-- The status stands in front, where it came first, and reads as it came last. -/
theorem status_stays_in_front :
    let settings : List (String × Value) :=
      [("status", "active"), ("limit", .long 5), ("status", "archived"), ("author", .null)]
    let bag := flatten [single "status" "active", single "limit" (.long 5),
      (single "status" "archived").set "author" .null]
    Built settings bag ∧ bag.keys.Nodup ∧ bag.keys = ["status", "limit", "author"] ∧
      bag.get "status" = "archived" ∧ (bag.get "author" = .null ↔ "author" ∉ bag.keys ∨
        (valuesOf "author" settings).getLast? = some .null) ∧
      flatten ([bag] ++ [bag]) = flatten [flatten [bag], flatten [bag]] ∧
      (ofList bag.entries).entries = bag.entries := by
  intro settings bag
  have hlast : Built [("status", "archived"), ("author", .null)]
      ((single "status" "archived").set "author" .null) :=
    .set (.single "status" "archived") "author" .null
  have hbuilt : Built settings bag :=
    .flatten [([("status", "active")], single "status" "active"),
        ([("limit", .long 5)], single "limit" (.long 5)), (_, _)]
      (List.forall_mem_cons.2 ⟨.single .., List.forall_mem_cons.2
        ⟨.single .., List.forall_mem_singleton.2 hlast⟩⟩)
  obtain ⟨hnodup, hkeys, hget, hflatten, hentries⟩ := insertion_ordered hbuilt [bag] [bag]
  exact ⟨hbuilt, hnodup, hkeys.trans (by decide), (hget "status").1, (hget "author").2, hflatten,
    hentries⟩

end Bag

end SchemaLedger
