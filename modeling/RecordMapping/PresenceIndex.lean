import RecordMapping.Event
import RecordMapping.Row.Cursor

/-!
# RecordMapping.PresenceIndex — where the columns of a projector stand

The positions of a projector's columns are looked up once for each shape of rows and kept.  An index
serves one table of column names; for another table it starts anew.
-/

namespace RecordMapping

/-- The column names of a projector.  The serial number tells projectors with equal names apart. -/
structure ColumnTable where
  serial : Nat
  columns : List String
  deriving DecidableEq, Repr

structure ResolvedShape where
  shape : Shape
  ordinals : List (Option Nat)
  deriving DecidableEq, Repr

/-- `current` is the position of the shape of the latest row. -/
structure PresenceIndex where
  table : ColumnTable
  shapes : List ResolvedShape
  current : Nat
  deriving DecidableEq, Repr

namespace PresenceIndex

def empty (table : ColumnTable) : PresenceIndex := ⟨table, [], 0⟩

def shapesSeen (index : PresenceIndex) : Nat := index.shapes.length

/-- The position at which a shape is kept: the current one if it fits, else the first that does. -/
def position? (index : PresenceIndex) (shape : Shape) : Option Nat :=
  if (index.shapes[index.current]?).any (fun r => decide (r.shape = shape)) then
    some index.current
  else index.shapes.findIdx? fun r => decide (r.shape = shape)

/-- Positions in the order of the column names. -/
def lookUp (table : ColumnTable) (row : Row) : ResolvedShape :=
  ⟨row.shape, table.columns.map row.ordinal?⟩

/-- The index after a row, whose shape is now current, and the names that were looked up for it. -/
def visit (index : PresenceIndex) (row : Row) : PresenceIndex × List String :=
  match index.position? row.shape with
  | some i => ({ index with current := i }, [])
  | none =>
    (⟨index.table, index.shapes ++ [lookUp index.table row], index.shapes.length⟩,
      index.table.columns)

/-- The positions for the current shape. -/
def ordinals (index : PresenceIndex) : List (Option Nat) :=
  ((index.shapes[index.current]?).map ResolvedShape.ordinals).getD []

/-- The index to use for `table`. -/
def forTable (index : PresenceIndex) (table : ColumnTable) : PresenceIndex :=
  if index.table = table then index else empty table

/-- The report on a visit: only a shape met for the first time is reported. -/
def visitEvents (before after : PresenceIndex) (row : Row) : List Event :=
  if before.shapesSeen = after.shapesSeen then []
  else
    [.ordinalsResolved row.shape.width (after.ordinals.countP Option.isSome)
      after.table.columns.length]

/-- Visits a row and reports it. -/
def resolve (index : PresenceIndex) (row : Row) : Logged PresenceIndex :=
  let next := (index.visit row).1
  ⟨visitEvents index next row, next⟩

end PresenceIndex

end RecordMapping
