import RecordMapping.Log.Transcript
import RecordMapping.Text.Ascii

/-!
# RecordMapping.Command.Settings — what a run of the program is asked to do

A `Request` is a command with its input, a `Run` is a request and how to log.
-/

namespace RecordMapping.Command

/-- How the records of a mapping are written. -/
inductive OutputFormat
  | json
  | table
  deriving DecidableEq, Repr

namespace OutputFormat

def all : List OutputFormat := [json, table]

def name : OutputFormat → String
  | json => "json"
  | table => "table"

def ofName? (s : String) : Option OutputFormat := all.find? fun f => decide (f.name = s)

end OutputFormat

inductive ColourChoice
  | auto
  | always
  | never
  deriving DecidableEq, Repr

namespace ColourChoice

def all : List ColourChoice := [auto, always, never]

def name : ColourChoice → String
  | auto => "auto"
  | always => "always"
  | never => "never"

def ofName? (s : String) : Option ColourChoice := all.find? fun c => decide (c.name = s)

end ColourChoice

def layoutName : Log.Layout → String
  | .pretty => "pretty"
  | .compact => "compact"
  | .json => "json"

def layoutOfName? (s : String) : Option Log.Layout :=
  [Log.Layout.pretty, .compact, .json].find? fun l => decide (layoutName l = s)

def levelName (l : Level) : String := Text.lowerAscii l.name

def levelOfName? (s : String) : Option Level := Level.all.find? fun l => decide (levelName l = s)

/-- The files a command works on, and how the table is written. -/
structure Input where
  rules : String
  table : String
  delimiter : Char := ','
  keepBlanks : Bool := false
  keepEmpty : Bool := false
  deriving DecidableEq, Repr

inductive Request
  | inspect (input : Input)
  | map (input : Input) (strict : Bool) (format : OutputFormat)
  deriving DecidableEq, Repr

namespace Request

def name : Request → String
  | inspect _ => "inspect"
  | map .. => "map"

def input : Request → Input
  | inspect i => i
  | map i _ _ => i

end Request

structure Run where
  request : Request
  verbose : Nat := 0
  quiet : Nat := 0
  colour : ColourChoice := .auto
  logLevel : Option Level := none
  logLayout : Log.Layout := .pretty
  logFile : Option String := none
  deriving DecidableEq, Repr

namespace Run

/-! ### Logging -/

/-- Each request for more or less detail moves the threshold by one level from `warn`. -/
def verbosity (r : Run) : Log.Threshold :=
  let rank := 2 + r.verbose - r.quiet
  if rank = 0 then none else some ((Level.all.find? fun l => decide (l.rank = rank)).getD .trace)

/-- Was a verbosity asked for? -/
def verbosityGiven (r : Run) : Bool := decide (r.verbose ≠ 0 ∨ r.quiet ≠ 0)

/-- A level given by name overrides the verbosity. -/
def threshold (r : Run) : Log.Threshold :=
  match r.logLevel with
  | some l => some l
  | none => r.verbosity

/-- The filter of the environment counts when it can be read and the arguments ask for no level. -/
def filter (r : Run) (environment : Option String) : Log.Filter :=
  if r.verbosityGiven || r.logLevel.isSome then .standard r.threshold
  else (environment.bind Log.Filter.parse?).getD (.standard r.threshold)

/-- Logs never go to a terminal that would ask for colour by itself. -/
def logSettings (r : Run) (environment : Option String) : Log.Settings :=
  ⟨r.filter environment, r.logLayout, decide (r.colour = .always)⟩

end Run

end RecordMapping.Command
