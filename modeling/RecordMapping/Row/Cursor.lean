import RecordMapping.Row.Shape
import RecordMapping.Value

/-!
# RecordMapping.Row.Cursor — rows and where they come from

A `Row` answers for the cells of one row.  A `RowSource` goes from row to row and only forward; a
`Cursor` is a source that delivers finitely many rows.
-/

namespace RecordMapping

/-- Why a cursor fails. -/
inductive CursorError
  | io (cause : String)
  | malformed (detail : String)
  | ordinalOutOfRange (ordinal width : Nat)
  | notPositioned
  deriving DecidableEq, Repr

namespace CursorError

def message : CursorError → String
  | io _ => "io error"
  | malformed detail => "malformed row: " ++ detail
  | ordinalOutOfRange ordinal width =>
    "ordinal " ++ toString ordinal ++ " is out of range for " ++ toString width ++ " columns"
  | notPositioned => "cursor is not positioned on a row"

/-- The messages of the causes behind the error, the nearest first. -/
def causes : CursorError → List String
  | io cause => [cause]
  | _ => []

end CursorError

/-- The cells of one row, by position.  Columns are looked up in the shape, as a row does unless it
brings a look-up of its own; such rows are left out. -/
structure Row where
  shape : Shape
  isNull : Nat → Bool
  read : Nat → Except CursorError Value

namespace Row

def ordinal? (row : Row) (column : String) : Option Nat := row.shape.ordinal? column

end Row

/-- A source of rows.  `advance` moves to the next row and tells whether there is one. -/
class RowSource (γ : Type) where
  row : γ → Row
  advance : γ → Except CursorError Bool × γ

/-- A source whose rows come to an end. -/
class Cursor (γ : Type) extends RowSource γ where
  /-- A bound on the rows still to come. -/
  remaining : γ → Nat
  remaining_advance : ∀ c, (advance c).1 = .ok true → remaining (advance c).2 < remaining c

namespace Cursor

export RowSource (row advance)

end Cursor

end RecordMapping
