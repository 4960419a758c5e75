import SchemaLedger.Text.CharacterSets
import SchemaLedger.Text.Integer

/-! # Dates with times of day

A moment of the proleptic Gregorian calendar to the second, read as `chrono` reads it: from text and
from seconds since the beginning of 1970. A minute may have a second numbered 60.
-/

namespace SchemaLedger

set_option autoImplicit false

open Text

structure Moment where
  year : Int
  month : Nat
  day : Nat
  hour : Nat
  minute : Nat
  second : Nat
  deriving DecidableEq

namespace Moment

def isLeapYear (year : Int) : Bool :=
  year % 4 = 0 && (year % 100 ≠ 0 || year % 400 = 0)

def daysInMonth (year : Int) (month : Nat) : Nat :=
  if month = 2 then (if isLeapYear year then 29 else 28)
  else if month = 4 || month = 6 || month = 9 || month = 11 then 30
  else 31

def leastYear : Int := -262143

def greatestYear : Int := 262142

def IsValid (moment : Moment) : Prop :=
  leastYear ≤ moment.year ∧ moment.year ≤ greatestYear ∧
    1 ≤ moment.month ∧ moment.month ≤ 12 ∧
    1 ≤ moment.day ∧ moment.day ≤ daysInMonth moment.year moment.month ∧
    moment.hour < 24 ∧ moment.minute < 60 ∧ moment.second ≤ 60

instance (moment : Moment) : Decidable moment.IsValid := by
  unfold IsValid
  infer_instance

def takeNumber? (greatest : Nat) (text : List Char) : Option (Nat × List Char) :=
  let digits := (text.take greatest).takeWhile Char.isDigit
  if digits = [] then none else some (naturalOfDigits digits, text.drop digits.length)

def takeField? (text : List Char) : Option (Nat × List Char) :=
  takeNumber? 2 (text.dropWhile isBlank)

/-- A year behind white space: at most four digits, or a sign and any number of digits. -/
def takeYear? (text : List Char) : Option (Int × List Char) :=
  match text.dropWhile isBlank with
  | '-' :: text => (takeNumber? text.length text).map fun (n, rest) => (-(n : Int), rest)
  | '+' :: text => (takeNumber? text.length text).map fun (n, rest) => ((n : Int), rest)
  | text => (takeNumber? 4 text).map fun (n, rest) => ((n : Int), rest)

def takeMark? (mark : Char) : List Char → Option (List Char)
  | c :: rest => if c = mark then some rest else none
  | [] => none

/-- Reads year, month and day with dashes between them, then hour, minute and second with colons
between them. The blank between date and time matches any white space, also none. -/
def ofText? (text : String) : Option Moment := do
  let (year, rest) ← takeYear? text.toList
  let (month, rest) ← takeField? (← takeMark? '-' rest)
  let (day, rest) ← takeField? (← takeMark? '-' rest)
  let (hour, rest) ← takeField? rest
  let (minute, rest) ← takeField? (← takeMark? ':' rest)
  let (second, rest) ← takeField? (← takeMark? ':' rest)
  let moment : Moment := ⟨year, month, day, hour, minute, second⟩
  if rest = [] ∧ moment.IsValid then some moment else none

/-- The date of a day counted from the beginning of 1970. Years are taken to begin in March here, so
that a leap day is the last day of its year, and are counted in spans of four hundred. -/
def dateOfDay (days : Int) : Int × Nat × Nat :=
  let shifted := days + 719468
  let span := shifted / 146097
  let dayOfSpan := (shifted % 146097).toNat
  let yearOfSpan :=
    (dayOfSpan - dayOfSpan / 1460 + dayOfSpan / 36524 - dayOfSpan / 146096) / 365
  let dayOfYear := dayOfSpan - (365 * yearOfSpan + yearOfSpan / 4 - yearOfSpan / 100)
  let marchMonth := (5 * dayOfYear + 2) / 153
  let day := dayOfYear - (153 * marchMonth + 2) / 5 + 1
  let month := if marchMonth < 10 then marchMonth + 3 else marchMonth - 9
  let year := span * 400 + yearOfSpan + (if month ≤ 2 then 1 else 0)
  (year, month, day)

def ofSeconds? (seconds : Int) : Option Moment :=
  let (year, month, day) := dateOfDay (seconds / 86400)
  let rest := (seconds % 86400).toNat
  let moment : Moment := ⟨year, month, day, rest / 3600, rest / 60 % 60, rest % 60⟩
  if moment.IsValid then some moment else none

def padded (width n : Nat) : List Char :=
  let digits := Nat.toDigits 10 n
  List.replicate (width - digits.length) '0' ++ digits

/-- Years of more or less than four digits carry their sign. -/
def yearText (year : Int) : List Char :=
  if 0 ≤ year ∧ year ≤ 9999 then padded 4 year.toNat
  else (if year < 0 then '-' else '+') :: padded 4 year.natAbs

def text (moment : Moment) : String :=
  String.ofList
    (yearText moment.year ++ '-' :: padded 2 moment.month ++ '-' :: padded 2 moment.day ++
      ' ' :: padded 2 moment.hour ++ ':' :: padded 2 moment.minute ++ ':' :: padded 2 moment.second)

end Moment

end SchemaLedger
