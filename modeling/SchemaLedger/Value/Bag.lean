import SchemaLedger.Value.Basic

/-! # Bags of named values

A bag keeps its entries in the order in which their keys first came, each key once. Record data,
clause maps and result rows are bags.
-/

namespace SchemaLedger

set_option autoImplicit false

/-- Replaces the value of a key in place, or appends a new entry. -/
def putEntry (key : String) (value : Value) : List (String × Value) → List (String × Value)
  | [] => [(key, value)]
  | entry :: rest =>
      if entry.1 = key then (key, value) :: rest else entry :: putEntry key value rest

theorem keys_putEntry (key : String) (value : Value) (entries : List (String × Value)) :
    (putEntry key value entries).map Prod.fst =
      if key ∈ entries.map Prod.fst then entries.map Prod.fst
      else entries.map Prod.fst ++ [key] := by
  induction entries with
  | nil => rfl
  | cons entry rest ih =>
    by_cases h : entry.1 = key
    · simp [putEntry, h]
    · simp only [putEntry, if_neg h, List.map_cons, ih, List.mem_cons, Ne.symm h, false_or]
      split <;> rfl

structure Bag where
  entries : List (String × Value)
  keysNodup : (entries.map Prod.fst).Nodup
  deriving DecidableEq

namespace Bag

instance : EmptyCollection Bag := ⟨⟨[], by simp⟩⟩
instance : Inhabited Bag := ⟨∅⟩

def keys (bag : Bag) : List String :=
  bag.entries.map Prod.fst

def values (bag : Bag) : List Value :=
  bag.entries.map Prod.snd

def size (bag : Bag) : Nat :=
  bag.entries.length

def isEmpty (bag : Bag) : Bool :=
  bag.entries.isEmpty

def contains (bag : Bag) (key : String) : Bool :=
  bag.keys.contains key

def get? (bag : Bag) (key : String) : Option Value :=
  bag.entries.lookup key

/-- The value of a key. An absent key reads as Null. -/
def get (bag : Bag) (key : String) : Value :=
  (bag.get? key).getD .null

def set (bag : Bag) (key : String) (value : Value) : Bag where
  entries := putEntry key value bag.entries
  keysNodup := by
    rw [keys_putEntry]
    split
    · exact bag.keysNodup
    · next h =>
      refine List.nodup_append.2 ⟨bag.keysNodup, by simp, fun a ha b hb e => h ?_⟩
      rw [List.mem_singleton] at hb
      exact hb ▸ e ▸ ha

@[simp] theorem entries_set (bag : Bag) (key : String) (value : Value) :
    (bag.set key value).entries = putEntry key value bag.entries := rfl

def setAll (bag : Bag) (entries : List (String × Value)) : Bag :=
  entries.foldl (fun bag entry => bag.set entry.1 entry.2) bag

/-- The entries set one after the other on an empty bag. -/
def ofList (entries : List (String × Value)) : Bag :=
  (∅ : Bag).setAll entries

def single (key : String) (value : Value) : Bag :=
  (∅ : Bag).set key value

/-- All bags as one: a key stands where it first came and has the value it had last. -/
def flatten (bags : List Bag) : Bag :=
  bags.foldl (fun flat bag => flat.setAll bag.entries) ∅

def same (a b : Bag) : Bool :=
  a.size == b.size &&
    (a.entries.zip b.entries).all fun (x, y) => x.1 == y.1 && x.2.same y.2

end Bag

/-- A result row. Its order is that of the columns and carries no meaning. -/
abbrev Row := Bag

end SchemaLedger
