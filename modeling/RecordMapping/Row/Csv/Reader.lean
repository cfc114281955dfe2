import RecordMapping.Row.Csv.Scanner
import RecordMapping.Row.Cursor
import RecordMapping.Text.Utf8

/-!
# RecordMapping.Row.Csv.Reader — what a CSV input delivers, record by record

`deliveries` is everything a reader gets out of an input: records of text, an error for a record
that is not UTF-8, and a last error if the input breaks off.
-/

namespace RecordMapping.Csv

/-- The bytes of an input, and the failure that follows them in place of its end. -/
structure Input where
  bytes : List UInt8
  failure : Option String
  deriving DecidableEq, Repr

/-- A record of text, or why there is none. -/
abbrev Delivery := Except CursorError (List String)

/-- The first field that is not UTF-8, by position, with the bytes before the fault. -/
def firstFault (fields : List (List UInt8)) : Option (Nat × Nat) :=
  (fields.zipIdx.find? fun p => (Text.decode? p.1).isNone).map fun p => (p.2, Text.validLength p.1)

def faultDetail (index : Nat) (start : Position) (field valid : Nat) : String :=
  "CSV parse error: record " ++ toString index ++ " (line " ++ toString start.line ++
    ", field: " ++ toString field ++ ", byte: " ++ toString start.byte ++
    "): invalid utf-8: invalid UTF-8 in field " ++ toString field ++
    " near byte index " ++ toString valid

/-- The record at position `index` as text. -/
def decodeRecord (index : Nat) (r : RawRecord) : Delivery :=
  match firstFault r.fields with
  | some (field, valid) => .error (.malformed (faultDetail index r.start field valid))
  | none => .ok (r.fields.map fun bytes => (Text.decode? bytes).getD "")

def decodeRecords (rs : List RawRecord) : List Delivery :=
  rs.zipIdx.map fun (r, index) => decodeRecord index r

/-- A record that a failure cuts short is lost, and nothing follows the failure. -/
def deliveries (delimiter : UInt8) (input : Input) : List Delivery :=
  match input.failure with
  | none => decodeRecords (records delimiter input.bytes)
  | some cause => decodeRecords (terminatedRecords delimiter input.bytes) ++ [.error (.io cause)]

end RecordMapping.Csv
