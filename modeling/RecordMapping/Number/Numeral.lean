import RecordMapping.Number.Shortest

/-!
# RecordMapping.Number.Numeral — numbers written and read as text

`NumeralStyle` holds the choices a format leaves open; `Binary64.render` writes a double in a style.
`readInteger` reads an integer of any length, `readBinary64` a decimal numeral or a name of an
infinity or NaN, rounded once to the nearest double.
-/

namespace RecordMapping

/-! ### Writing -/

/-- How a format writes doubles. -/
structure NumeralStyle where
  tie : TieRule
  /-- Leading exponents from `lowest` up to and including `highest` are written positionally. -/
  lowest : Option Int
  highest : Option Int
  /-- An integral number ends in `.0`. -/
  marksIntegral : Bool
  infinite : String
  notANumber : String

namespace NumeralStyle

def isPositional (style : NumeralStyle) (leading : Int) : Bool :=
  (style.lowest.all fun low => decide (low ≤ leading)) &&
    (style.highest.all fun high => decide (leading ≤ high))

end NumeralStyle

namespace Decimal

def digitText (d : Decimal) : List Char := Nat.toDigits 10 d.digits

/-- `d` without exponent: zeros fill up to the point on either side. -/
def positional (d : Decimal) (marksIntegral : Bool) : List Char :=
  match d.exponent with
  | .ofNat e =>
    d.digitText ++ List.replicate (if d.digits = 0 then 0 else e) '0' ++
      (if marksIntegral then ['.', '0'] else [])
  | .negSucc e =>
    let places := e + 1
    let digits := List.replicate (places + 1 - d.digitText.length) '0' ++ d.digitText
    digits.take (digits.length - places) ++ '.' :: digits.drop (digits.length - places)

/-- `d` as one digit, a point if more follow, and a signed exponent. -/
def scientific (d : Decimal) : List Char :=
  let k := d.leading
  let mantissa := match d.digitText with
    | first :: [] => [first]
    | first :: rest => first :: '.' :: rest
    | [] => []
  mantissa ++ 'e' :: (if k < 0 then '-' else '+') :: Nat.toDigits 10 k.natAbs

end Decimal

namespace Binary64

def render (style : NumeralStyle) (x : Binary64) : String :=
  let sign := if x.negative then "-" else ""
  if x.isNaN then style.notANumber
  else if x.isInfinite then sign ++ style.infinite
  else
    let d := x.shortest style.tie
    sign ++ String.ofList
      (if style.isPositional d.leading then d.positional style.marksIntegral else d.scientific)

end Binary64

/-! ### Reading -/

/-- The value of an ASCII digit. -/
def digitValue? (c : Char) : Option Nat :=
  if '0' ≤ c ∧ c ≤ '9' then some (c.toNat - '0'.toNat) else none

def isDigit (c : Char) : Bool := (digitValue? c).isSome

/-- The number written by ASCII digits; no digit at all is zero. -/
def digitsValue (cs : List Char) : Nat :=
  cs.foldl (fun n c => 10 * n + (digitValue? c).getD 0) 0

/-- A sign, if there is one, and the rest. -/
def splitSign : List Char → Bool × List Char
  | '-' :: rest => (true, rest)
  | '+' :: rest => (false, rest)
  | cs => (false, cs)

/-- An integer of any length: an optional sign and one or more ASCII digits. -/
def readInteger (cs : List Char) : Option Int :=
  let (negative, digits) := splitSign cs
  if digits ≠ [] ∧ digits.all isDigit = true then
    some (if negative then -(digitsValue digits : Int) else (digitsValue digits : Int))
  else none

/-- An exponent part after its mark: an optional sign and one or more digits. -/
def readExponent (cs : List Char) : Option Int := readInteger cs

/-- The digits before and after the point, and what follows them. -/
def splitMantissa (cs : List Char) : List Char × List Char × List Char :=
  let whole := cs.takeWhile isDigit
  match cs.dropWhile isDigit with
  | '.' :: rest => (whole, rest.takeWhile isDigit, rest.dropWhile isDigit)
  | rest => (whole, [], rest)

/-- An unsigned decimal numeral: digits with at most one point among or around them, then an
optional exponent. -/
def readMagnitude (negative : Bool) (cs : List Char) : Option Binary64 :=
  let (whole, fraction, rest) := splitMantissa cs
  if whole.isEmpty && fraction.isEmpty then none
  else
    let digits := digitsValue (whole ++ fraction)
    match rest with
    | [] => some (Binary64.ofDecimal negative digits (-(fraction.length : Int)))
    | mark :: exponent =>
      if mark = 'e' ∨ mark = 'E' then
        (readExponent exponent).map fun e =>
          Binary64.ofDecimal negative digits (e - fraction.length)
      else none

/-- A double as people write it: a sign, then a numeral, `inf`, `infinity` or `nan` in any case. -/
def readBinary64 (cs : List Char) : Option Binary64 :=
  let (negative, rest) := splitSign cs
  let name := rest.map Char.toLower
  if name = "inf".toList ∨ name = "infinity".toList then some (Binary64.infinity negative)
  else if name = "nan".toList then
    some (if negative then Binary64.nan.neg else Binary64.nan)
  else readMagnitude negative rest

end RecordMapping
