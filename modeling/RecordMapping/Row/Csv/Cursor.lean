import RecordMapping.Row.Csv.Reader
import RecordMapping.Text.Blank

/-!
# RecordMapping.Row.Csv.Cursor — rows of a CSV input

The first record names the columns.  Records of blank cells alone are passed over, and every cell is
read as text: a missing one as empty, an empty one as null if the options say so.
-/

namespace RecordMapping

structure CsvOptions where
  delimiter : UInt8 := 0x2C
  emptyAsNull : Bool := true
  trim : Bool := true
  deriving DecidableEq, Repr

namespace Csv

def byteOrderMark : Char := Char.ofNat 0xFEFF

/-- A column name: byte order marks at the ends dropped, runs of white space joined to one space. -/
def normalizeHeader (raw : String) : String :=
  let inner := Text.trimMatches (· == byteOrderMark) (Text.trimChars raw.toList)
  " ".intercalate ((Text.words inner).map String.ofList)

end Csv

/-- `pending` is what the reader has still to deliver.  After a failure the record is empty, while
`positioned` keeps its value. -/
structure CsvCursor where
  shape : Shape
  options : CsvOptions
  pending : List Csv.Delivery
  record : List String
  positioned : Bool
  rows : Nat

namespace CsvCursor

/-- A cursor before the first row after the header. -/
def ofDeliveries (options : CsvOptions) (header : List String) (pending : List Csv.Delivery) :
    CsvCursor :=
  ⟨⟨header.map Csv.normalizeHeader⟩, options, pending, [], false, 0⟩

/-- Reads the header.  An input without any record has no columns. -/
def openInput (options : CsvOptions) (input : Csv.Input) : Except CursorError CsvCursor :=
  match Csv.deliveries options.delimiter input with
  | [] => .ok (ofDeliveries options [] [])
  | .error e :: _ => .error e
  | .ok header :: pending => .ok (ofDeliveries options header pending)

/-! ### Cells -/

/-- The text of a raw cell, or none if it counts as null. -/
def cellText (options : CsvOptions) (raw : String) : Option String :=
  let text := if options.trim then Text.trim raw else raw
  if options.emptyAsNull && text.isEmpty then none else some text

def cell (c : CsvCursor) (ordinal : Nat) : Except CursorError (Option String) :=
  if c.positioned = false then .error .notPositioned
  else if c.shape.width ≤ ordinal then .error (.ordinalOutOfRange ordinal c.shape.width)
  else .ok (cellText c.options ((c.record[ordinal]?).getD ""))

def isNull (c : CsvCursor) (ordinal : Nat) : Bool :=
  match c.cell ordinal with
  | .ok none => true
  | _ => false

def read (c : CsvCursor) (ordinal : Nat) : Except CursorError Value :=
  (c.cell ordinal).map fun
    | some text => .text text
    | none => .null

def row (c : CsvCursor) : Row := ⟨c.shape, c.isNull, c.read⟩

/-! ### Advancing -/

def isBlankRecord (cells : List String) : Bool := cells.all Text.isBlankText

/-- The first delivery that is not a blank record, and what follows it. -/
def nextDelivery : List Csv.Delivery → Option (Csv.Delivery × List Csv.Delivery)
  | [] => none
  | .error e :: rest => some (.error e, rest)
  | .ok cells :: rest =>
    if isBlankRecord cells then nextDelivery rest else some (.ok cells, rest)

def advance (c : CsvCursor) : Except CursorError Bool × CsvCursor :=
  match nextDelivery c.pending with
  | none => (.ok false, { c with pending := [], record := [], positioned := false })
  | some (.error e, rest) => (.error e, { c with pending := rest, record := [] })
  | some (.ok cells, rest) =>
    (.ok true, { c with pending := rest, record := cells, positioned := true, rows := c.rows + 1 })

theorem length_nextDelivery {pending rest : List Csv.Delivery} {d : Csv.Delivery}
    (h : nextDelivery pending = some (d, rest)) : rest.length < pending.length := by
  induction pending with
  | nil => simp [nextDelivery] at h
  | cons first more ih =>
    cases first with
    | error e =>
      simp only [nextDelivery, Option.some.injEq, Prod.mk.injEq] at h
      simp [← h.2]
    | ok cells =>
      simp only [nextDelivery] at h
      split at h
      · have := ih h
        simp only [List.length_cons]
        omega
      · simp only [Option.some.injEq, Prod.mk.injEq] at h
        simp [← h.2]

instance : Cursor CsvCursor where
  row := row
  advance := advance
  remaining c := c.pending.length
  remaining_advance c h := by
    unfold advance at h ⊢
    split
    · rename_i hn
      simp [hn] at h
    · rename_i hn
      simp [hn] at h
    · rename_i hn
      exact length_nextDelivery hn

end CsvCursor

end RecordMapping
