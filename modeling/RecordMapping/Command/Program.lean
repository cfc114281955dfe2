import RecordMapping.Command.Arguments
import RecordMapping.Command.Inspection
import RecordMapping.Command.Mapping

/-!
# RecordMapping.Command.Program — a whole run of the program

A run prints its result and exits with 0, or prints nothing and exits with 1 after a complaint.
Words that ask for no run are refused with 2, unless they ask for help or the version.
-/

namespace RecordMapping.Command

/-- What a run finds around it: files and the filter that the environment names. -/
structure Surroundings where
  files : Files
  logFilter : Option String

/-- What goes into the log of a run. -/
structure LogBook where
  settings : Log.Settings
  file : Option String
  span : Log.Span
  events : List Event
  deriving DecidableEq, Repr

/-- What a run leaves behind: its exit code, the lines it prints, the complaint it ends with, and
its log. -/
structure Outcome where
  exitCode : Nat
  output : List String
  complaint : Option String
  log : Option LogBook
  deriving DecidableEq, Repr

namespace LogBook

def lines (b : LogBook) (clock : Log.Clock) : List String :=
  b.settings.transcript clock b.span b.events

end LogBook

namespace Outcome

/-- The lines of the log, if they go to a file. -/
def fileLines (o : Outcome) (clock : Log.Clock) : Option (String × List String) :=
  o.log.bind fun b => b.file.map fun path => (path, b.lines clock)

/-- The lines on the error stream: the log unless it goes to a file, then the complaint. -/
def errorLines (o : Outcome) (clock : Log.Clock) : List String :=
  (match o.log with
    | some b => if b.file.isNone then b.lines clock else []
    | none => []) ++ o.complaint.toList

end Outcome

namespace Request

/-- The span that everything in a command happens in. -/
def span (r : Request) : Log.Span :=
  ⟨r.name, .info, .command, [("input", r.input.table)]⟩

/-- The lines that a command prints. -/
def perform (files : Files) : Request → Logged (Except Failure (List String))
  | .inspect i => do return (← inspectTable files i).map Inspection.report
  | .map i strict format => do return (← mapTable files i strict).map fun m => m.report format

end Request

namespace Run

/-- Opens the log file; none stands in its way if the log goes elsewhere. -/
def openLog (r : Run) (files : Files) : Except FileError Unit :=
  match r.logFile with
  | some path => files.append path
  | none => .ok ()

def execute (r : Run) (s : Surroundings) : Outcome :=
  match r.openLog s.files with
  | .error e => ⟨1, [], some ("error: failed to initialize logging: " ++ e.message), none⟩
  | .ok () =>
    let result := r.request.perform s.files
    let log := some ⟨r.logSettings s.logFilter, r.logFile, r.request.span, result.events⟩
    match result.value with
    | .ok output => ⟨0, output, none, log⟩
    | .error e => ⟨1, [], some ("error: " ++ e.message), log⟩

end Run

namespace Refusal

def exitCode : Refusal → Nat
  | help | version => 0
  | _ => 2

def outcome (r : Refusal) : Outcome :=
  ⟨r.exitCode, if r = .version then ["rowmap 0.1.0"] else [], none, none⟩

end Refusal

/-- A run of the program with these words on its command line. -/
def execute (s : Surroundings) (words : List String) : Outcome :=
  match readArguments words with
  | .error refusal => refusal.outcome
  | .ok run => run.execute s

end RecordMapping.Command
