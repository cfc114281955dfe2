import RecordMapping.Text.Ascii

/-!
# RecordMapping.Row.Shape — the column names of a result set

A column is found by its exact name or else by the first name that differs from it only in the case
of ASCII letters.
-/

namespace RecordMapping

structure Shape where
  columns : List String
  deriving DecidableEq, Repr, Inhabited

namespace Shape

def width (s : Shape) : Nat := s.columns.length

def isEmpty (s : Shape) : Bool := s.columns.isEmpty

def name? (s : Shape) (ordinal : Nat) : Option String := s.columns[ordinal]?

/-- The position of the first column that satisfies `p`. -/
def find? (s : Shape) (p : String → Bool) : Option Nat := s.columns.findIdx? p

def ordinal? (s : Shape) (name : String) : Option Nat :=
  (s.find? fun column => decide (column = name)).or
    (s.find? fun column => Text.sameIgnoringCase column name)

end Shape

end RecordMapping
