import RecordMapping.Command.Session
import RecordMapping.Text.Table

/-!
# RecordMapping.Command.Mapping — the records of a table

Either every row becomes a record or there are none.
-/

namespace RecordMapping.Command

/-- `properties` are the names of the mapped properties in the order of their rules. -/
structure Mapping where
  target : String
  fingerprint : String
  properties : List String
  records : List Record
  deriving DecidableEq, Repr

namespace Mapping

/-- One line for each record. -/
def jsonLines (m : Mapping) : List String := m.records.map Record.renderJson

/-- The text of a field in a table; a field that was never assigned is marked. -/
def cell (r : Record) (property : String) : String :=
  match r.get? property with
  | none => "-"
  | some v => v.display

def table (m : Mapping) : Text.Table where
  columns := m.properties.map fun name => ⟨name, .left⟩
  rows := m.records.map fun r => m.properties.map (cell r)

def summary (m : Mapping) : String := toString m.records.length ++ " records (" ++ m.target ++ ")"

/-- The lines that tell about a mapping. -/
def report (m : Mapping) : OutputFormat → List String
  | .json => m.jsonLines
  | .table => m.table.renderLines ++ [m.summary]

end Mapping

def mapTable (files : Files) (i : Input) (strict : Bool) : Logged (Except Failure Mapping) := do
  match ← Session.start files i strict with
  | .error e => return .error e
  | .ok session =>
    match ← Stream.collect false session.cursor session.projector with
    | .error e => return .error (.mapRows i.table e)
    | .ok records =>
      .emit (.rowsMapped session.projector.targetType records.length)
      return .ok {
        target := session.projector.targetType
        fingerprint := session.projector.fingerprint.hex
        properties := session.rules.rules.map Rule.name
        records }

end RecordMapping.Command
