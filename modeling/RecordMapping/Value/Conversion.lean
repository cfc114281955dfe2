import RecordMapping.Value
import RecordMapping.Text.Blank
import RecordMapping.Text.Ascii
import RecordMapping.Text.Utf8

/-!
# RecordMapping.Value.Conversion — reading values as typed fields

`Scalar.read` turns a value into a member of a scalar type and `Scalar.write` turns a member back.
Text is parsed into numbers and truth values, integers widen to doubles, and every value but null
has a text.  A number that does not fit is refused, never cut or rounded.

`coerce` is the same reading for a property that declares a kind.
-/

namespace RecordMapping

/-- The scalar types that a field may have. -/
inductive Scalar
  | bool
  | int32
  | int64
  | nat32
  | nat64
  | float
  | text
  | bytes
  | value
  deriving DecidableEq, Repr

namespace Scalar

/-- The members of a scalar type. -/
abbrev Carrier : Scalar → Type
  | bool => Bool
  | int32 => Int32
  | int64 => Int64
  | nat32 => UInt32
  | nat64 => UInt64
  | float => Binary64
  | text => String
  | bytes => List UInt8
  | value => Value

/-- The name of the type in messages. -/
def name : Scalar → String
  | bool => "bool"
  | int32 => "i32"
  | int64 => "i64"
  | nat32 => "u32"
  | nat64 => "u64"
  | float => "f64"
  | text => "String"
  | bytes => "Vec<u8>"
  | value => "Value"

def kind : Scalar → Kind
  | bool => .bool
  | int32 | int64 | nat32 | nat64 => .int
  | float => .float
  | text => .text
  | bytes => .bytes
  | value => .any

/-- What a field of the type holds before anything is assigned. -/
def initial : (s : Scalar) → s.Carrier
  | bool => false
  | int32 => (0 : Int32)
  | int64 => (0 : Int64)
  | nat32 => (0 : UInt32)
  | nat64 => (0 : UInt64)
  | float => Binary64.zero false
  | text => ""
  | bytes => ([] : List UInt8)
  | value => Value.null

end Scalar

/-- Why a value does not become a member of a type. -/
inductive ConversionError
  | incompatible (expected : Scalar) (found : Kind)
  | parse (expected : Scalar) (text : String)
  | outOfRange (expected : Scalar) (value : String)
  | unexpectedNull (expected : Scalar)
  deriving DecidableEq, Repr

namespace ConversionError

def expected : ConversionError → Scalar
  | incompatible s _ | parse s _ | outOfRange s _ | unexpectedNull s => s

def message : ConversionError → String
  | incompatible s found => "cannot convert " ++ found.name ++ " value to " ++ s.name
  | parse s text => "cannot parse '" ++ text ++ "' as " ++ s.name
  | outOfRange s value => "value " ++ value ++ " is out of range for " ++ s.name
  | unexpectedNull s => "NULL cannot be assigned to non-optional " ++ s.name

end ConversionError

namespace Conversion

/-! ### Integers -/

def fitsInt64 (n : Int) : Bool := decide (-0x8000000000000000 ≤ n ∧ n < 0x8000000000000000)

def fitsInt32 (n : Int) : Bool := decide (-0x80000000 ≤ n ∧ n < 0x80000000)

def fitsNat (width : Nat) (n : Int) : Bool := decide (0 ≤ n ∧ n < (Nat.pow 2 width : Nat))

/-- An integer in text, surrounded by any blanks. -/
def parseInt64 (expected : Scalar) (text : String) : Except ConversionError Int64 :=
  match readInteger (Text.trimChars text.toList) with
  | some n => if fitsInt64 n then .ok (Int64.ofInt n) else .error (.parse expected text)
  | none => .error (.parse expected text)

def toInt64 : Value → Except ConversionError Int64
  | .int n => .ok n
  | .bool b => .ok (if b then 1 else 0)
  | .float x =>
    match x.toInt? with
    | some n =>
      if fitsInt64 n then .ok (Int64.ofInt n)
      else .error (.outOfRange .int64 (Value.displayBinary64 x))
    | none => .error (.outOfRange .int64 (Value.displayBinary64 x))
  | .text s => parseInt64 .int64 s
  | .null => .error (.unexpectedNull .int64)
  | .bytes _ => .error (.incompatible .int64 .bytes)

/-- The integer of a value for a type narrower than 64 signed bits.  A double that is no 64-bit
integer is reported as such, not as out of the narrower range. -/
def toWide (expected : Scalar) : Value → Except ConversionError Int64
  | .null => .error (.unexpectedNull expected)
  | .text s => parseInt64 expected s
  | v =>
    match toInt64 v with
    | .error (.incompatible _ found) => .error (.incompatible expected found)
    | r => r

/-- The integer of a value, where `fits` tells which integers the type has. -/
def toNarrow (expected : Scalar) (fits : Int → Bool) (v : Value) : Except ConversionError Int := do
  let wide ← toWide expected v
  if fits wide.toInt then return wide.toInt
  else throw (.outOfRange expected (Value.displayInt wide.toInt))

/-! ### Other types -/

def toFloat : Value → Except ConversionError Binary64
  | .float x => .ok x
  | .int n => .ok (Binary64.ofInt n.toInt)
  | .text s =>
    match readBinary64 (Text.trimChars s.toList) with
    | some x => .ok x
    | none => .error (.parse .float s)
  | .null => .error (.unexpectedNull .float)
  | .bool _ => .error (.incompatible .float .bool)
  | .bytes _ => .error (.incompatible .float .bytes)

/-- The spellings of the truth values, in any case of letters. -/
def spelledBool? (s : String) : Option Bool :=
  let word := Text.lowerAscii (Text.trim s)
  if word ∈ ["true", "t", "yes", "y", "1"] then some true
  else if word ∈ ["false", "f", "no", "n", "0"] then some false
  else none

def toBool : Value → Except ConversionError Bool
  | .bool b => .ok b
  | .int n =>
    if n = 0 then .ok false
    else if n = 1 then .ok true
    else .error (.outOfRange .bool (Value.displayInt n.toInt))
  | .text s =>
    match spelledBool? s with
    | some b => .ok b
    | none => .error (.parse .bool s)
  | .null => .error (.unexpectedNull .bool)
  | .float _ => .error (.incompatible .bool .float)
  | .bytes _ => .error (.incompatible .bool .bytes)

def toText : Value → Except ConversionError String
  | .text s => .ok s
  | .null => .error (.unexpectedNull .text)
  | .bytes bs =>
    match Text.decode? bs with
    | some s => .ok s
    | none => .error (.parse .text ("<" ++ toString bs.length ++ " non-utf8 bytes>"))
  | v => .ok v.display

def toBytes : Value → Except ConversionError (List UInt8)
  | .bytes bs => .ok bs
  | .text s => .ok (Text.encode s)
  | .null => .error (.unexpectedNull .bytes)
  | .bool _ => .error (.incompatible .bytes .bool)
  | .int _ => .error (.incompatible .bytes .int)
  | .float _ => .error (.incompatible .bytes .float)

end Conversion

namespace Scalar

open Conversion

def read : (s : Scalar) → Value → Except ConversionError s.Carrier
  | bool, v => toBool v
  | int32, v => (toNarrow .int32 fitsInt32 v).map Int32.ofInt
  | int64, v => toInt64 v
  | nat32, v => (toNarrow .nat32 (fitsNat 32) v).map fun n => UInt32.ofNat n.toNat
  | nat64, v => (toNarrow .nat64 (fitsNat 64) v).map fun n => UInt64.ofNat n.toNat
  | float, v => toFloat v
  | text, v => toText v
  | bytes, v => toBytes v
  | value, v => .ok v

/-- The value of a member.  A natural number from `2 ^ 63` on has only its nearest double. -/
def write : (s : Scalar) → s.Carrier → Value
  | bool, b => .bool b
  | int32, n => .int (Int64.ofInt n.toInt)
  | int64, n => .int n
  | nat32, n => .int (Int64.ofInt n.toNat)
  | nat64, n =>
    if n.toNat < 0x8000000000000000 then .int (Int64.ofInt n.toNat) else .float (Binary64.ofInt n.toNat)
  | float, x => .float x
  | text, s => .text s
  | bytes, bs => .bytes bs
  | value, v => v

end Scalar

/-- The type of a field: a scalar, or a scalar that may be missing. -/
structure FieldType where
  scalar : Scalar
  isOptional : Bool
  deriving DecidableEq, Repr

namespace FieldType

abbrev Carrier (t : FieldType) : Type :=
  match t.isOptional with
  | true => Option t.scalar.Carrier
  | false => t.scalar.Carrier

def kind (t : FieldType) : Kind := t.scalar.kind

def initial : (t : FieldType) → t.Carrier
  | ⟨_, true⟩ => none
  | ⟨s, false⟩ => s.initial

/-- Null is the missing member of an optional type. -/
def read : (t : FieldType) → Value → Except ConversionError t.Carrier
  | ⟨s, true⟩, v => if v.isNull then .ok none else (s.read v).map some
  | ⟨s, false⟩, v => s.read v

def write : (t : FieldType) → t.Carrier → Value
  | ⟨_, true⟩, none => .null
  | ⟨s, true⟩, some a => s.write a
  | ⟨s, false⟩, a => s.write a

end FieldType

/-- A value as a property of the given kind holds it.  Null stays null whatever the kind. -/
def coerce (kind : Kind) (v : Value) : Except ConversionError Value :=
  if v.isNull then .ok .null
  else match kind with
    | .bool => (Conversion.toBool v).map Value.bool
    | .int => (Conversion.toInt64 v).map Value.int
    | .float => (Conversion.toFloat v).map Value.float
    | .text => (Conversion.toText v).map Value.text
    | .bytes => (Conversion.toBytes v).map Value.bytes
    | .any => .ok v

end RecordMapping
