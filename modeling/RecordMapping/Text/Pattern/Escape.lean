import RecordMapping.Text.Hex
import RecordMapping.Text.Pattern.Expression
import RecordMapping.Text.Pattern.Mode

/-!
# RecordMapping.Text.Pattern.Escape — what a backslash makes of the characters after it

Marks after a backslash stand for themselves, `x`, `u` and `U` write a character by its code point,
and some letters name a set of characters or a place.  Sets and places that depend on what a word
is are known for ASCII text only.
-/

namespace RecordMapping.Text.Pattern

inductive Escape
  | char (c : Char)
  | set (s : CharSet)
  | anchor (a : Anchor)

namespace Escape

def digitSet : CharSet := CharSet.range '0' '9'

def letterSet : CharSet := (CharSet.range 'A' 'Z').union (CharSet.range 'a' 'z')

def wordSet : CharSet := (digitSet.union letterSet).union (CharSet.single '_')

def blankSet : CharSet := (CharSet.range (Char.ofNat 0x09) (Char.ofNat 0x0D)).union
  (CharSet.single ' ')

/-- Marks that a backslash leaves as they are: ASCII characters that are neither letters nor
digits, the two that name places apart. -/
def isMark (c : Char) : Bool :=
  decide (c.toNat < 0x80) && !c.isAlphanum && c != '<' && c != '>'

/-- The characters that are named by a letter. -/
def named? : Char → Option Char
  | 'a' => some (Char.ofNat 0x07)
  | 'f' => some (Char.ofNat 0x0C)
  | 't' => some (Char.ofNat 0x09)
  | 'n' => some (Char.ofNat 0x0A)
  | 'r' => some (Char.ofNat 0x0D)
  | 'v' => some (Char.ofNat 0x0B)
  | _ => none

/-- What is known in every mode. -/
def common? (c : Char) : Option Escape :=
  if isMark c then some (.char c)
  else match c with
    | 'A' => some (.anchor .textStart)
    | 'z' => some (.anchor .textEnd)
    | _ => (named? c).map .char

/-- What is known for ASCII text only. -/
def narrow? : Char → Option Escape
  | 'd' => some (.set digitSet)
  | 's' => some (.set blankSet)
  | 'w' => some (.set wordSet)
  | 'b' => some (.anchor .wordEdge)
  | 'B' => some (.anchor .noWordEdge)
  | '<' => some (.anchor .wordStart)
  | '>' => some (.anchor .wordEnd)
  | _ => none

/-! ### Code points -/

/-- The next `n` hexadecimal digits and what follows them. -/
def hexDigits? (m : Mode) : Nat → List Char → Option (List Char × List Char)
  | 0, cs => some ([], cs)
  | n + 1, cs =>
    match m.skip cs with
    | [] => none
    | c :: rest =>
      if (hexValue? c).isSome then (hexDigits? m n rest).map fun (ds, rest) => (c :: ds, rest)
      else none

def isScalar (n : Nat) : Bool := decide (n < 0xD800 ∨ (0xDFFF < n ∧ n ≤ CharSet.lastCodePoint))

/-- The character that `n` digits write. -/
def codePoint? (m : Mode) (n : Nat) (cs : List Char) : Option (Char × List Char) := do
  let (digits, rest) ← hexDigits? m n cs
  let value ← hexNumber? digits
  if isScalar value then some (Char.ofNat value, rest) else none

/-- Two digits write a byte, which is a character by itself in ASCII text only up to 7F. -/
def byte? (m : Mode) (cs : List Char) : Option (Char × List Char) := do
  let (c, rest) ← codePoint? m 2 cs
  if m.wide || decide (c.toNat < 0x80) then some (c, rest) else none

/-- Reads what follows a backslash. -/
def read? (m : Mode) : List Char → Option (Escape × List Char)
  | [] => none
  | 'x' :: rest => (byte? m rest).map fun (c, rest) => (.char c, rest)
  | 'u' :: rest => (codePoint? m 4 rest).map fun (c, rest) => (.char c, rest)
  | 'U' :: rest => (codePoint? m 8 rest).map fun (c, rest) => (.char c, rest)
  | c :: rest =>
    match common? c with
    | some e => some (e, rest)
    | none => if m.wide then none else (narrow? c).map fun e => (e, rest)

end Escape

end RecordMapping.Text.Pattern
