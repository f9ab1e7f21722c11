import Asm16.Command.Arguments

set_option autoImplicit false

/-! What the command prints, and its exit status. Standard output is taken to accept every line. -/

namespace Asm16.Command

def help : String :=
  "Assemble CPU16 source into a hex word file

Usage: cpu16-asm [OPTIONS] [INPUT]

Arguments:
  [INPUT]  Input assembly file (one instruction per line) [default: input.asm]

Options:
  -o, --output <OUTPUT>  Output hex file, one 4-digit word per line [default: program.hex]
      --format <FORMAT>  Listing format written to stdout [default: text] [possible values: text, json]
  -q, --quiet            Do not print the listing
  -h, --help             Print help
  -V, --version          Print version"

def version : String := "cpu16-asm 0.1.0"

def UsageError.message : UsageError → String
  | .unknownOption text => "unexpected argument '" ++ text ++ "' found"
  | .repeatedOption name => "the argument '" ++ name ++ "' cannot be used multiple times"
  | .missingValue name | .emptyValue name => "a value is required for '" ++ name ++ "'"
  | .unexpectedValue name => "unexpected value for '--" ++ name ++ "'"
  | .unknownStyle text => "invalid value '" ++ text ++ "' for '--format'"
  | .extraArgument text => "unexpected argument '" ++ text ++ "' found"

def framed (job : Job) : Bool := job.style == .text && !job.quiet

-- Shown before any file is opened.
def opening (job : Job) : List String :=
  if framed job then ["Assembling '" ++ job.input ++ "'...", Row.header] else []

def listing (job : Job) (rows : List Row) : List String :=
  if job.quiet then []
  else
    match job.style with
    | .text => rows.map Row.text
    | .json => rows.map Row.json

def closing (job : Job) (summary : Summary) : List String :=
  if framed job then
    [ "----------------------------------------------------",
      s!"encoded {summary.encoded}, rejected {summary.rejected} -> {job.output}" ]
  else []

def complaint (failure : Failure) : String :=
  "error: " ++ failure.message ++ ": " ++ failure.cause.message

structure Session where
  exit : Nat
  stdout : List String := []
  stderr : List String := []
  store : Store

def Session.ofRun (job : Job) (run : JobRun) : Session :=
  let shown := opening job ++ listing job run.rows
  match run.result with
  | .ok summary => { exit := 0, stdout := shown ++ closing job summary, store := run.store }
  | .error failure =>
      { exit := failure.exitCode, stdout := shown, stderr := [complaint failure],
        store := run.store }

def session (arguments : List String) (store : Store) : Except UsageError Session :=
  match parse arguments with
  | .ok job => .ok (Session.ofRun job (job.run store))
  | .error .help => .ok { exit := 0, stdout := [help], store }
  | .error .version => .ok { exit := 0, stdout := [version], store }
  | .error (.usage error) => .error error

def usageExitCode : Nat := 2

def printed (lines : List String) : String := String.join (lines.map (· ++ "\n"))

end Asm16.Command
