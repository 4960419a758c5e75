import SchemaLedger.Exchange.Recorder
import SchemaLedger.Setup.Arguments
import SchemaLedger.Setup.LogFilter

/-! # The command line

Rehearses the migrations that are built in: the statements go to a recorder, and what they would be
is reported line by line. The exit code is 0 for a run or for help, 1 for an error and 2 for
unusable arguments.
-/

namespace SchemaLedger

set_option autoImplicit false

def UsageFault.message : UsageFault → String
  | .help => "usage: schema-ledger [-v|--verbose] [--config PATH] migrate [--rollback]"
  | .nothingGiven | .missingSubcommand => "a subcommand is required: migrate"
  | .invalidSubcommand => "there is no such subcommand"
  | .unknownArgument => "there is no such argument"
  | .argumentConflict => "an option is given twice"
  | .tooManyValues => "a flag takes no value"
  | .invalidValue => "an option lacks its value"

/-- The lines that a run of the migrator shows, and the error that ended it. -/
def Options.rehearse (options : Options) (config : Config) (filter : LogFilter) :
    List String × Option Error :=
  let run := (options.execute (Migrator.ofConfig "" config)).run (Recorder.connection "") {}
  let lines := (run.entries.filter filter.shows).map (·.line)
  match run.result with
  | .ok report => (lines ++ [Options.closingLine report.direction], none)
  | .error error => (lines, some error)

end SchemaLedger

open SchemaLedger in
/-- The bytes of a file, if it can be read. -/
def readContents (path : String) : IO (Option (List UInt8)) := do
  try
    return some (← IO.FS.readBinFile path).toList
  catch _ =>
    return none

open SchemaLedger in
def main (arguments : List String) : IO UInt32 := do
  match Options.ofArguments arguments with
  | .error .help =>
      IO.println UsageFault.help.message
      return 0
  | .error fault =>
      IO.eprintln fault.message
      return 2
  | .ok options =>
      let contents ← match options.config with
        | some path => readContents path
        | none => pure none
      match options.loadConfig fun _ => contents with
      | .error error =>
          IO.eprintln error.message
          return 1
      | .ok config =>
          let filter := LogFilter.choose (← IO.getEnv "RUST_LOG") options.verbose
          let (lines, error?) := options.rehearse config filter
          lines.forM fun line => IO.println line
          match error? with
          | none => return 0
          | some error =>
              IO.eprintln error.message
              return 1
