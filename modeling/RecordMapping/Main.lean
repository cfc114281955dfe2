import RecordMapping.Command.Program
import Std.Time.Format

/-!
# RecordMapping.Main — the command line

Reads the files that the words name, runs the program on them and writes what it leaves behind.
-/

namespace RecordMapping.Command

def FileError.ofIoError : IO.Error → FileError
  | .noFileOrDirectory .. => .notFound
  | .permissionDenied .. => .notPermitted
  | .inappropriateType _ code _ => if code = 21 then .isDirectory else .notDirectory
  | .invalidArgument _ code details => if code = 36 then .nameTooLong else .other details
  | error => .other error.toString

def attempt {α : Type} (action : IO α) : IO (Except FileError α) := do
  try return .ok (← action)
  catch error => return .error (.ofIoError error)

def readBytes (path : String) : IO (Except FileError (List UInt8)) :=
  attempt do return (← IO.FS.readBinFile path).toList

def usage : List String :=
  ["Usage: rowmap [OPTIONS] <COMMAND>",
    "",
    "Commands:",
    "  inspect  Show how each configured property binds to the CSV header",
    "  map      Map every CSV row and print the resulting records",
    "",
    "Command arguments: --rules <RULES_JSON> [--delimiter <CHAR>] [--no-trim] [--keep-empty] <CSV>",
    "Arguments of map:  [--strict] [--format json|table]",
    "Options: [-v...] [-q...] [--log-level <LEVEL>] [--log-format pretty|compact|json]",
    "         [--log-file <PATH>] [--color auto|always|never] [-h] [-V]"]

/-- A stretch of time for people. -/
def durationText (nanoseconds : Nat) : String :=
  if nanoseconds < 1000000 then toString (nanoseconds / 1000) ++ "µs"
  else toString (nanoseconds / 1000000) ++ "ms"

/-- The clock of a run that has taken this many nanoseconds. -/
def clockAfter (nanoseconds : Nat) : IO Log.Clock := do
  let now := Std.Time.DateTime.ofTimestampWithZone (← Std.Time.Timestamp.now) .UTC
  return {
    timestamp := now.format "uuuu-MM-dd'T'HH:mm:ss.SSSSSS'Z'"
    elapsedMs := toString (nanoseconds / 1000000)
    busy := durationText nanoseconds
    idle := durationText 0 }

def putLines (stream : IO.FS.Stream) (lines : List String) : IO Unit :=
  lines.forM stream.putStrLn

def perform (run : Run) : IO UInt32 := do
  let started ← IO.monoNanosNow
  let input := run.request.input
  let log ← run.logFile.mapM fun path => attempt (IO.FS.Handle.mk path .append)
  let rules ← readBytes input.rules
  let table ← readBytes input.table
  let files : Files := {
    read := fun path =>
      if path = input.rules then rules else if path = input.table then table else .error .notFound
    append := fun _ => match log with
      | some (.error error) => .error error
      | _ => .ok () }
  let outcome := run.execute ⟨files, ← IO.getEnv "RUST_LOG"⟩
  let clock ← clockAfter ((← IO.monoNanosNow) - started)
  if let some (.ok handle) := log then
    if let some (_, lines) := outcome.fileLines clock then
      lines.forM handle.putStrLn
  putLines (← IO.getStdout) outcome.output
  putLines (← IO.getStderr) (outcome.errorLines clock)
  return UInt32.ofNat outcome.exitCode

def refuse (refusal : Refusal) : IO UInt32 := do
  let outcome := refusal.outcome
  putLines (← IO.getStdout) outcome.output
  if refusal = .help then putLines (← IO.getStdout) usage
  else if outcome.exitCode ≠ 0 then putLines (← IO.getStderr) usage
  return UInt32.ofNat outcome.exitCode

end RecordMapping.Command

def main (words : List String) : IO UInt32 :=
  match RecordMapping.Command.readArguments words with
  | .ok run => RecordMapping.Command.perform run
  | .error refusal => RecordMapping.Command.refuse refusal
