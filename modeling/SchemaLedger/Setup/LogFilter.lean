import SchemaLedger.Exchange.Log
import SchemaLedger.Text.CharacterSets
import SchemaLedger.Text.Integer

/-! # Log filters

A filter is read and asked as the `EnvFilter` of `tracing_subscriber` is. It is a list of
directives, each of which sets the most talkative level for the targets that begin with a given
path, or for all. Of the directives that concern an entry the one with the longest path decides, of
those one that asks for a field, and of those the last.

A directive is made of a path, of square brackets with a span and a field in curly ones, and of a
level behind an equals sign. Each may be missing. Its form is found in the text without the white
space around it, but its parts are cut out of the whole text, at the same distances from its start.
So behind white space all parts are shifted.
-/

namespace SchemaLedger

set_option autoImplicit false

open Text

abbrev Threshold := Option Level

inductive Scope where
  | all
  | having (field : List Char)
  /-- Those inside a span, or with a certain value in a field. Here is none of them. -/
  | inside
  deriving DecidableEq

structure Directive where
  path : Option (List Char)
  scope : Scope
  threshold : Threshold
  deriving DecidableEq

abbrev LogFilter := List Directive

namespace LogFilter

def thresholdOfNumber? : Nat → Option Threshold
  | 0 => some none
  | 1 => some (some .error)
  | 2 => some (some .warn)
  | 3 => some (some .info)
  | 4 => some (some .debug)
  | 5 => some (some .trace)
  | _ => none

def thresholdOfName? (text : List Char) : Option Threshold :=
  match String.ofList (text.map Char.toLower) with
  | "off" => some none
  | "error" => some (some .error)
  | "warn" => some (some .warn)
  | "info" => some (some .info)
  | "debug" => some (some .debug)
  | "trace" => some (some .trace)
  | _ => none

/-- Level names in any case, or their numbers, before which a plus may stand. -/
def threshold? (text : List Char) : Option Threshold :=
  let digits := if text.head? = some '+' then text.drop 1 else text
  match readNatural? digits with
  | some n => thresholdOfNumber? n
  | none => thresholdOfName? text

def beginsPath (c : Char) : Bool :=
  c = '-' || c = ':' || c = '_' || isAlphanumeric c

/-- The level behind an equals sign. Without any, everything is shown. -/
def levelBehind? (text : List Char) : Option Threshold :=
  if text = [] then some (some .trace) else threshold? text

def scopeOf? (whole trimmed : List Char) (start : Nat) : Option (Scope × Nat) :=
  let inner := (trimmed.drop start).takeWhile fun c => c ≠ ']' && c ≠ '\x7b'
  let middle := start + inner.length
  match trimmed.drop middle with
  | ']' :: _ => some (.inside, middle + 1)
  | '\x7b' :: rest =>
      let stop := middle + 1 + (rest.takeWhile (· ≠ '\x7d')).length
      let field := (whole.take stop).drop (middle + 1)
      if field = [] then
        none
      else
        match trimmed.drop stop with
        | '\x7d' :: ']' :: _ =>
            let named := (whole.take middle).drop start ≠ []
            some (if named || '=' ∈ field then .inside else .having field, stop + 2)
        | _ => none
  | _ => none

def bracketed? (whole trimmed : List Char) (start : Nat) : Option Directive := do
  let path := if start = 0 then none else some (whole.take start)
  let (scope, stop) ← scopeOf? whole trimmed (start + 1)
  match trimmed.drop stop with
  | [] => return ⟨path, scope, some .trace⟩
  | '=' :: _ => return ⟨path, scope, ← levelBehind? (whole.drop (stop + 1))⟩
  | _ => none

def directive? (whole : List Char) : Option Directive :=
  let trimmed := trimBlank whole
  match trimmed with
  | [] => none
  | '[' :: _ => bracketed? whole trimmed 0
  | c :: _ =>
      if beginsPath c then
        let length := (trimmed.takeWhile fun c => c ≠ '=' && c ≠ '[').length
        match trimmed.drop length with
        | [] =>
            match threshold? whole with
            | some threshold => some ⟨none, .all, threshold⟩
            | none => some ⟨some whole, .all, some .trace⟩
        | '[' :: _ => bracketed? whole trimmed length
        | _ => do return ⟨some (whole.take length), .all, ← levelBehind? (whole.drop (length + 1))⟩
      else
        none

def pieces (text : List Char) : List (List Char) :=
  (text.foldr (fun c pieces =>
      if c = ',' then [] :: pieces
      else
        match pieces with
        | [] => [[c]]
        | piece :: rest => (c :: piece) :: rest) [[]]).filter (· ≠ [])

/-- Reads directives with commas between them. Without any, errors are shown. -/
def ofText? (text : String) : Option LogFilter := do
  let directives ← (pieces text.toList).mapM directive?
  return if directives = [] then [⟨none, .all, some .error⟩] else directives

def usual (verbose : Bool) : LogFilter :=
  [⟨some "table_migrations".toList, .all, some (if verbose then .debug else .info)⟩]

def choose (setting : Option String) (verbose : Bool) : LogFilter :=
  (setting.bind ofText?).getD (usual verbose)

def Directive.concerns (directive : Directive) (target : Target) : Bool :=
  (directive.path.getD []).isPrefixOf target.path.toList &&
    match directive.scope with
    | .all => true
    | .having field => field = "message".toList
    | .inside => false

def weight (directive : Directive) : Nat × Nat :=
  ((directive.path.map fun path => path.length + 1).getD 0, if directive.scope = .all then 0 else 1)

def yields (directive other : Directive) : Bool :=
  (weight directive).1 < (weight other).1 ||
    (weight directive).1 = (weight other).1 && (weight directive).2 ≤ (weight other).2

def decisive? (filter : LogFilter) (target : Target) : Option Directive :=
  (filter.filter (Directive.concerns · target)).foldl (fun best directive =>
    match best with
    | none => some directive
    | some other => if yields other directive then some directive else some other) none

def shows (filter : LogFilter) (entry : LogEntry) : Bool :=
  match (filter.decisive? entry.target).bind (·.threshold) with
  | none => false
  | some level => entry.level.verbosity ≤ level.verbosity

end LogFilter

def visible (c : Char) : List Char :=
  match c with
  | '\x07' => "\\x07".toList
  | '\x08' => "\\x08".toList
  | '\x0c' => "\\x0c".toList
  | '\x1b' => "\\x1b".toList
  | '\x7f' => "\\x7f".toList
  | c =>
      if 0x80 ≤ c.toNat && c.toNat ≤ 0x9F then
        "\\u\x7b".toList ++ Nat.toDigits 16 c.toNat ++ ['\x7d']
      else
        [c]

/-- An entry as one line, without its time. A message with line breaks takes several. -/
def LogEntry.line (entry : LogEntry) : String :=
  entry.level.name ++ " " ++ entry.target.path ++ ": " ++
    String.ofList (entry.message.toList.flatMap visible)

end SchemaLedger
