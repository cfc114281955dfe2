import RecordMapping.Number.Numeral

/-!
# RecordMapping.Value — cells and their kinds

A `Value` is what a cell holds; a `Kind` is what a property declares.  `Value.display` is the text
of a value in messages and tables, where a double is written without exponent.
-/

namespace RecordMapping

/-- The kind of value a property declares; `any` takes every value as it is. -/
inductive Kind
  | bool
  | int
  | float
  | text
  | bytes
  | any
  deriving DecidableEq, Repr

namespace Kind

def all : List Kind := [bool, int, float, text, bytes, any]

def name : Kind → String
  | bool => "bool"
  | int => "int"
  | float => "float"
  | text => "text"
  | bytes => "bytes"
  | any => "any"

def ofName? (s : String) : Option Kind := all.find? fun k => decide (k.name = s)

end Kind

/-- What a cell holds. -/
inductive Value
  | null
  | bool (b : Bool)
  | int (n : Int64)
  | float (x : Binary64)
  | text (s : String)
  | bytes (bs : List UInt8)
  deriving DecidableEq, Repr, Inhabited

namespace Value

def isNull : Value → Bool
  | null => true
  | _ => false

/-- Null has no kind of its own and counts as `any`. -/
def kind : Value → Kind
  | null => .any
  | bool _ => .bool
  | int _ => .int
  | float _ => .float
  | text _ => .text
  | bytes _ => .bytes

def text? : Value → Option String
  | text s => some s
  | _ => none

/-- Equality of values, which compares doubles as numbers. -/
def same : Value → Value → Bool
  | float x, float y => x.same y
  | v, w => decide (v = w)

/-- Doubles in messages and tables: all digits positional, nothing after an integral number. -/
def displayStyle : NumeralStyle where
  tie := .up
  lowest := none
  highest := none
  marksIntegral := false
  infinite := "inf"
  notANumber := "NaN"

def displayBinary64 (x : Binary64) : String := x.render displayStyle

def displayInt (n : Int) : String := toString n

def display : Value → String
  | null => "NULL"
  | bool b => if b then "true" else "false"
  | int n => displayInt n.toInt
  | float x => displayBinary64 x
  | text s => s
  | bytes bs => "<" ++ toString bs.length ++ " bytes>"

end Value

end RecordMapping
