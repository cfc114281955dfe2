import RecordMapping.Command.Session
import RecordMapping.Text.Table

/-!
# RecordMapping.Command.Inspection — how each property binds to the columns of a table
-/

namespace RecordMapping.Command

/-- `ordinal` is the position of the column, if the table has it. -/
structure Binding where
  property : String
  column : String
  kind : Kind
  ordinal : Option Nat
  processors : List String
  deriving DecidableEq, Repr

structure Inspection where
  target : String
  command : String
  fingerprint : String
  columns : List String
  bindings : List Binding
  deriving DecidableEq, Repr

namespace Binding

def ofRule (shape : Shape) (r : Rule Record) : Binding where
  property := r.name
  column := r.column
  kind := r.kind
  ordinal := shape.ordinal? r.column
  processors := r.processors.map Processor.key

def toJson (b : Binding) : Json :=
  .object [("property", .string b.property), ("alias", .string b.column),
    ("kind", .string b.kind.name),
    ("ordinal", match b.ordinal with
      | some n => Json.ofNat n
      | none => .null),
    ("processors", .array (b.processors.map .string))]

/-- The cells of a binding in a table. -/
def cells (b : Binding) : List String :=
  [b.property, b.column,
    match b.ordinal with
      | some n => toString n
      | none => "absent",
    b.kind.name,
    if b.processors.isEmpty then "-" else ", ".intercalate b.processors]

end Binding

namespace Inspection

def ofSession (s : Session) : Inspection where
  target := s.projector.targetType
  command := s.command
  fingerprint := s.projector.fingerprint.hex
  columns := s.cursor.shape.columns
  bindings := s.rules.rules.map (Binding.ofRule s.cursor.shape)

/-- How many properties have no column. -/
def absent (i : Inspection) : Nat := i.bindings.countP fun b => b.ordinal.isNone

def bindingsJson (i : Inspection) : Json := .array (i.bindings.map Binding.toJson)

def table (i : Inspection) : Text.Table where
  columns := [⟨"Property", .left⟩, ⟨"Alias", .left⟩, ⟨"Column", .right⟩, ⟨"Kind", .left⟩,
    ⟨"Processors", .left⟩]
  rows := i.bindings.map Binding.cells

/-- The lines that tell about an inspection. -/
def report (i : Inspection) : List String :=
  ["Target: " ++ i.target, "Command: " ++ i.command, "Fingerprint: " ++ i.fingerprint] ++
    i.table.renderLines

end Inspection

/-- Rows are not looked at, so strictness plays no part. -/
def inspectTable (files : Files) (i : Input) : Logged (Except Failure Inspection) := do
  match ← Session.start files i false with
  | .error e => return .error e
  | .ok session =>
    let inspection := Inspection.ofSession session
    .emit (.bindingsInspected inspection.target inspection.bindings.length inspection.absent)
    return .ok inspection

end RecordMapping.Command
