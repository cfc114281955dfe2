import RecordMapping.Value
import RecordMapping.Json.Number
import RecordMapping.Json.Reader

/-!
# RecordMapping.Value.Json — values as documents

Bytes are an array of numbers; an infinity or NaN has no number and becomes null.  Reading back
takes the first of null, truth value, 64-bit integer, double, text and bytes that fits.
-/

namespace RecordMapping.Value

def toJson : Value → Json
  | null => .null
  | bool b => .bool b
  | int n => Json.ofInt n.toInt
  | float x => if x.isFinite then .number (JsonNumber.ofBinary64 x) else .null
  | text s => .string s
  | bytes bs => .array (bs.map fun b => Json.ofNat b.toNat)

/-- A number as a value: an integer if 64 signed bits hold it, else a double. -/
def ofNumber? (n : JsonNumber) : Option Value :=
  n.meaning?.map fun
    | .nat k =>
      if k < 0x8000000000000000 then .int (Int64.ofInt k) else .float (Binary64.ofInt k)
    | .negative k => .int (Int64.ofInt k)
    | .double x => .float x

def byte? : Json → Option UInt8
  | .number n =>
    match n.meaning? with
    | some (.nat k) => if k < 256 then some (UInt8.ofNat k) else none
    | _ => none
  | _ => none

def ofJson? : Json → Option Value
  | .null => some .null
  | .bool b => some (.bool b)
  | .number n => ofNumber? n
  | .string s => some (.text s)
  | .array items => (items.mapM byte?).map .bytes
  | .object _ => none

def renderJson (v : Value) : String := v.toJson.render

def parseJson? (s : String) : Option Value := (Json.parse? s).bind ofJson?

end RecordMapping.Value
