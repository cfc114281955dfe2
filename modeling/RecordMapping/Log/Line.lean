import RecordMapping.Event
import RecordMapping.Json

/-!
# RecordMapping.Log.Line — events as lines of a log

Three layouts.  The pretty one puts a span with its fields before the message, the compact one the
span's name before and its fields after it, and the third is a JSON object a line.
-/

namespace RecordMapping.Log

inductive Layout
  | pretty
  | compact
  | json
  deriving DecidableEq, Repr

/-- A stretch of work that events happen in. -/
structure Span where
  name : String
  level : Level
  source : Source
  fields : List (String × String)
  deriving DecidableEq, Repr

/-- What the clock of the running program knows: the times to write into a line. -/
structure Clock where
  timestamp : String
  elapsedMs : String
  busy : String
  idle : String
  deriving DecidableEq, Repr

/-! ### Colour -/

/-- The escape sequences that surround text in a colour or style. -/
def painted (code : String) (s : String) : String :=
  let escape := String.singleton (Char.ofNat 0x1B)
  escape ++ "[" ++ code ++ "m" ++ s ++ escape ++ "[0m"

def paint (colour : Bool) (code : String) (s : String) : String :=
  if colour then painted code s else s

def bold (colour : Bool) : String → String := paint colour "1"

def dim (colour : Bool) : String → String := paint colour "2"

def italic (colour : Bool) : String → String := paint colour "3"

def levelColour : Level → String
  | .error => "31"
  | .warn => "33"
  | .info => "32"
  | .debug => "34"
  | .trace => "35"

/-- The name of a level, right-aligned in five places. -/
def levelText (colour : Bool) (l : Level) : String :=
  let pad := "".pushn ' ' (5 - l.name.length)
  paint colour (levelColour l) (pad ++ l.name)

/-! ### Text layouts -/

def fieldText (clock : Clock) : FieldValue → String
  | .text s => s
  | .number n => toString n
  | .flag b => if b then "true" else "false"
  | .elapsed => clock.elapsedMs

def assignment (colour : Bool) (name value : String) : String :=
  italic colour name ++ dim colour "=" ++ value

/-- The message and the fields after it. -/
def eventText (colour : Bool) (clock : Clock) (e : Event) : String :=
  " ".intercalate
    (e.message :: e.fields.map fun f => assignment colour f.1 (fieldText clock f.2))

def spanFields (colour : Bool) (s : Span) : String :=
  " ".intercalate (s.fields.map fun f => assignment colour f.1 f.2)

def openBrace : String := String.singleton (Char.ofNat 0x7B)

def closeBrace : String := String.singleton (Char.ofNat 0x7D)

/-- The source of an event, where lines name it. -/
def sourceText (colour withSource : Bool) (e : Event) : String :=
  if withSource then dim colour e.source.path ++ dim colour ":" ++ " " else ""

def prettyLine (colour withSource : Bool) (clock : Clock) (span : Option Span) (e : Event) :
    String :=
  let context := match span with
    | none => ""
    | some s =>
      let fields := if s.fields.isEmpty then ""
        else bold colour openBrace ++ spanFields colour s ++ bold colour closeBrace
      bold colour s.name ++ fields ++ dim colour ":" ++ " "
  levelText colour e.level ++ " " ++ context ++ sourceText colour withSource e ++
    eventText colour clock e

def compactLine (colour withSource : Bool) (clock : Clock) (span : Option Span) (e : Event) :
    String :=
  let context := match span with
    | none => ""
    | some s => bold colour s.name ++ ": "
  let trailer := match span with
    | none => ""
    | some s => if s.fields.isEmpty then "" else " " ++ dim colour (spanFields colour s)
  levelText colour e.level ++ " " ++ context ++ sourceText colour withSource e ++
    eventText colour clock e ++ trailer

/-! ### JSON -/

def fieldJson (clock : Clock) : FieldValue → Json
  | .text s => .string s
  | .number n => Json.ofNat n
  | .flag b => .bool b
  | .elapsed => .string clock.elapsedMs

def spanJson (s : Span) : Json :=
  .object (s.fields.map (fun f => (f.1, .string f.2)) ++ [("name", .string s.name)])

/-- A line with the given fields; `span` is the innermost span and `spans` are all of them. -/
def jsonObject (clock : Clock) (level : Level) (fields : List (String × Json))
    (span : Option Span) (spans : List Span) : Json :=
  .object ([("timestamp", .string clock.timestamp), ("level", .string level.name),
    ("fields", .object fields)] ++
    (match span with
      | none => []
      | some s => [("span", spanJson s)]) ++
    (match span with
      | none => []
      | some _ => [("spans", .array (spans.map spanJson))]))

def jsonLine (clock : Clock) (span : Option Span) (e : Event) : String :=
  (jsonObject clock e.level
    (("message", .string e.message) :: e.fields.map fun f => (f.1, fieldJson clock f.2))
    span span.toList).render

def line (layout : Layout) (colour : Bool) (clock : Clock) (span : Option Span) (e : Event) :
    String :=
  match layout with
  | .pretty => prettyLine colour false clock span e
  | .compact => compactLine colour false clock span e
  | .json => jsonLine clock span e

end RecordMapping.Log
