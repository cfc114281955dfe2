/-!
# RecordMapping.Row.Csv.Scanner — delimited records in a byte sequence

`Scanner.step` takes one byte.  A field that begins with a quote runs to its closing quote, and a
quote inside it is written twice; after the closing quote the field goes on as plain text.  A
carriage return or a line feed ends the record, and between records both are skipped.
-/

namespace RecordMapping.Csv

/-- A place in the input: bytes before it, and line feeds before it counted from one. -/
structure Position where
  line : Nat
  byte : Nat
  deriving DecidableEq, Repr

def lineFeed : UInt8 := 0x0A

def carriageReturn : UInt8 := 0x0D

def quote : UInt8 := 0x22

def isTerminator (b : UInt8) : Bool := b == lineFeed || b == carriageReturn

def Position.after (p : Position) (b : UInt8) : Position :=
  ⟨if b = lineFeed then p.line + 1 else p.line, p.byte + 1⟩

/-- The fields of a record, and the place where the record before it ended. -/
structure RawRecord where
  fields : List (List UInt8)
  start : Position
  deriving DecidableEq, Repr

/-- Where the scanner stands: before a record, before a field, in a plain field, in a quoted field,
or after a quote in a quoted field. -/
inductive Mode
  | recordStart
  | fieldStart
  | plain
  | quoted
  | quoteSeen
  deriving DecidableEq, Repr

/-- `field`, `fields` and `done` hold the latest first. -/
structure Scanner where
  mode : Mode
  field : List UInt8
  fields : List (List UInt8)
  here : Position
  start : Position
  done : List RawRecord
  deriving Repr

namespace Scanner

def fieldsSoFar (s : Scanner) : List (List UInt8) := (s.field.reverse :: s.fields).reverse

def endField (s : Scanner) : Scanner :=
  { s with mode := .fieldStart, field := [], fields := s.field.reverse :: s.fields }

def endRecord (s : Scanner) : Scanner :=
  { s with
    mode := .recordStart, field := [], fields := [], start := s.here,
    done := ⟨s.fieldsSoFar, s.start⟩ :: s.done }

def push (s : Scanner) (mode : Mode) (b : UInt8) : Scanner :=
  { s with mode, field := b :: s.field }

/-- A byte of a plain field, or after a closing quote. -/
def plainByte (delimiter : UInt8) (s : Scanner) (b : UInt8) : Scanner :=
  if b = delimiter then s.endField
  else if isTerminator b then s.endRecord
  else s.push .plain b

/-- The first byte of a field. -/
def firstByte (delimiter : UInt8) (s : Scanner) (b : UInt8) : Scanner :=
  if b = quote then { s with mode := .quoted } else plainByte delimiter s b

def step (delimiter : UInt8) (before : Scanner) (b : UInt8) : Scanner :=
  let s := { before with here := before.here.after b }
  match before.mode with
  | .recordStart => if isTerminator b then s else firstByte delimiter s b
  | .fieldStart => firstByte delimiter s b
  | .plain => plainByte delimiter s b
  | .quoted => if b = quote then { s with mode := .quoteSeen } else s.push .quoted b
  | .quoteSeen => if b = quote then s.push .quoted b else plainByte delimiter s b

def initial (here : Position) : Scanner := ⟨.recordStart, [], [], here, ⟨1, 0⟩, []⟩

/-- The record that the end of the input cuts short, if the input ends inside one. -/
def unfinished (s : Scanner) : Option RawRecord :=
  if s.mode = .recordStart then none else some ⟨s.fieldsSoFar, s.start⟩

end Scanner

/-- One byte order mark at the front is not part of the first record. -/
def skipMark : List UInt8 → Position × List UInt8
  | 0xEF :: 0xBB :: 0xBF :: rest => (⟨1, 3⟩, rest)
  | bytes => (⟨1, 0⟩, bytes)

/-- The scanner after all of `bytes`. -/
def scan (delimiter : UInt8) (bytes : List UInt8) : Scanner :=
  let (here, rest) := skipMark bytes
  rest.foldl (Scanner.step delimiter) (Scanner.initial here)

/-- The records that a terminator ends. -/
def terminatedRecords (delimiter : UInt8) (bytes : List UInt8) : List RawRecord :=
  (scan delimiter bytes).done.reverse

/-- All records; the last may be ended by the end of the input. -/
def records (delimiter : UInt8) (bytes : List UInt8) : List RawRecord :=
  terminatedRecords delimiter bytes ++ (scan delimiter bytes).unfinished.toList

end RecordMapping.Csv
