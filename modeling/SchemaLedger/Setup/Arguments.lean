import SchemaLedger.History.Migrator

/-! # Command-line arguments

Arguments are told apart as `clap` does it. The program takes the subcommand `migrate`, which may be
asked to roll back. Talkativeness and the path of a configuration file can be given before or after
it, and the later path counts.
-/

namespace SchemaLedger

set_option autoImplicit false

structure Options where
  verbose : Bool
  config : Option String
  rollback : Bool
  deriving DecidableEq

inductive UsageFault where
  | help
  | nothingGiven
  | missingSubcommand
  | invalidSubcommand
  | unknownArgument
  | argumentConflict
  | tooManyValues
  | invalidValue
  deriving DecidableEq

inductive Place where
  | program
  | migrate
  deriving DecidableEq

structure Gathered where
  verbose : Bool := false
  rollback : Bool := false
  config : Option String := none
  /-- An option whose value is not taken over yet: the value, or nothing while it is to come. -/
  awaited : Option (Option String) := none

namespace Gathered

def setConfig (gathered : Gathered) (path : String) : Except UsageFault Gathered :=
  if gathered.config.isSome then .error .argumentConflict
  else if path.isEmpty then .error .invalidValue
  else .ok { gathered with config := some path }

/-- Takes over the value that was waited for, if one was. -/
def settle (gathered : Gathered) : Except UsageFault Gathered :=
  match gathered.awaited with
  | none => .ok gathered
  | some none => .error .invalidValue
  | some (some path) => { gathered with awaited := none }.setConfig path

def setVerbose (gathered : Gathered) : Except UsageFault Gathered := do
  let gathered ← gathered.settle
  if gathered.verbose then throw .argumentConflict
  return { gathered with verbose := true }

def setRollback (gathered : Gathered) : Except UsageFault Gathered := do
  let gathered ← gathered.settle
  if gathered.rollback then throw .argumentConflict
  return { gathered with rollback := true }

def askHelp (gathered : Gathered) : Except UsageFault Gathered := do
  let _ ← gathered.settle
  throw .help

def isWaiting (gathered : Gathered) : Bool :=
  gathered.awaited = some none

def longOption (place : Place) (gathered : Gathered) (name : String) (value : Option String) :
    Except UsageFault Gathered :=
  let flag (set : Except UsageFault Gathered) : Except UsageFault Gathered :=
    if value.isSome then .error .tooManyValues else set
  if name = "verbose" then
    flag gathered.setVerbose
  else if name = "help" then
    flag gathered.askHelp
  else if name = "rollback" ∧ place = .migrate then
    flag gathered.setRollback
  else if name = "config" then do
    let gathered ← gathered.settle
    match value with
    | some path => gathered.setConfig path
    | none => return { gathered with awaited := some none }
  else
    .error .unknownArgument

def shortOptions (gathered : Gathered) : List Char → Except UsageFault Gathered
  | [] => .ok gathered
  | 'v' :: rest => do (← gathered.setVerbose).shortOptions rest
  | 'h' :: _ => gathered.askHelp
  | _ => .error .unknownArgument

def word (place : Place) (gathered : Gathered) (argument : String) : Except UsageFault Gathered :=
  if gathered.isWaiting then
    .ok { gathered with awaited := some (some argument) }
  else
    match place with
    | .program => .error .invalidSubcommand
    | .migrate => .error .unknownArgument

def option (place : Place) (gathered : Gathered) (argument : String) :
    Except UsageFault Gathered :=
  match argument.toList with
  | '-' :: '-' :: text =>
      let name := String.ofList (text.takeWhile (· ≠ '='))
      match text.dropWhile (· ≠ '=') with
      | [] => gathered.longOption place name none
      | _ :: value => gathered.longOption place name (some (String.ofList value))
  | '-' :: c :: text => gathered.shortOptions (c :: text)
  | _ => gathered.word place argument

end Gathered

namespace Options

def subcommands : List String := ["migrate", "help"]

/-- Behind two dashes nothing is an option any more, and no word has a meaning there. -/
def behindDashes (place : Place) : List String → Except UsageFault Unit
  | [] => .ok ()
  | argument :: _ =>
      if place = .program ∧ argument ∉ subcommands then .error .invalidSubcommand
      else .error .unknownArgument

def migrateArguments (gathered : Gathered) : List String → Except UsageFault Gathered
  | [] => gathered.settle
  | argument :: rest =>
      if argument = "--" then do
        behindDashes .migrate rest
        gathered.settle
      else do
        migrateArguments (← gathered.option .migrate argument) rest

/-- Help is given on the program and on its subcommands, which have none of their own. -/
def helpOn : List String → UsageFault
  | [] => .help
  | [topic] => if topic ∈ subcommands then .help else .invalidSubcommand
  | _ => .invalidSubcommand

def programArguments (gathered : Gathered) :
    List String → Except UsageFault (Gathered × Option Gathered)
  | [] => do return (← gathered.settle, none)
  | argument :: rest =>
      if argument = "--" then do
        behindDashes .program rest
        return (← gathered.settle, none)
      else if argument = "migrate" ∧ !gathered.isWaiting then do
        let inner ← migrateArguments {} rest
        return (← gathered.settle, some inner)
      else if argument = "help" ∧ !gathered.isWaiting then
        .error (helpOn rest)
      else do
        programArguments (← gathered.option .program argument) rest

def ofArguments (arguments : List String) : Except UsageFault Options := do
  match ← programArguments {} arguments with
  | (outer, some inner) =>
      return {
        verbose := outer.verbose || inner.verbose
        config := inner.config <|> outer.config
        rollback := inner.rollback }
  | (outer, none) =>
      if outer.verbose || outer.config.isSome then throw .missingSubcommand
      throw .nothingGiven

def direction (options : Options) : Direction :=
  if options.rollback then .down else .up

def closingLine : Direction → String
  | .up => "All migrations ran"
  | .down => "All migrations rolled back"

def loadConfig (options : Options) (contents : String → Option (List UInt8)) :
    Except Error Config :=
  match options.config with
  | some path => Config.ofFile (contents path)
  | none => .ok {}

def execute (options : Options) (migrator : Migrator) : Session Report :=
  migrator.run options.direction

end Options

end SchemaLedger
