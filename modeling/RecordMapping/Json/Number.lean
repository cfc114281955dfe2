import RecordMapping.Json

/-!
# RecordMapping.Json.Number — what a number in a document stands for

A number without point and exponent is an integer as long as 64 bits hold it.  Any other is a
double: its leading digits, as many as 64 bits hold, are scaled by one power of ten.  That is fast
and nearly exact; a long numeral can come out one unit away from its nearest double.
-/

namespace RecordMapping.JsonNumber

/-- What a number stands for. -/
inductive Meaning
  | nat (n : Nat)
  | negative (n : Int)
  | double (x : Binary64)
  deriving DecidableEq, Repr

def significandLimit : Nat := 0xFFFFFFFFFFFFFFFF

/-- Takes digits into the significand while it fits 64 bits, and returns those left. -/
def accumulate (significand : Nat) : List Char → Nat × List Char
  | [] => (significand, [])
  | c :: rest =>
    let next := 10 * significand + (digitValue? c).getD 0
    if next ≤ significandLimit then accumulate next rest else (significand, c :: rest)

def exponentLimit : Nat := 0x7FFFFFFF

/-- The largest power of ten that is a finite double. -/
def greatestPower : Nat := 308

def powerOfTen (n : Nat) : Binary64 := Binary64.ofDecimal false 1 n

/-- Divides by powers of ten until the exponent is used up or nothing is left of the number; a
64-bit significand is gone after the second full division. -/
def scaleDown : Nat → Binary64 → Nat → Binary64
  | 0, x, _ => Binary64.zero x.negative
  | fuel + 1, x, n =>
    if n ≤ greatestPower then x.div (powerOfTen n)
    else if x.isZero then x
    else scaleDown fuel (x.div (powerOfTen greatestPower)) (n - greatestPower)

/-- A significand scaled by a power of ten; none if it is too large for a double. -/
def scaled (significand : Nat) : Int → Option Binary64
  | .ofNat e =>
    let x := Binary64.ofInt significand
    if e ≤ greatestPower then
      let y := x.mul (powerOfTen e)
      if y.isInfinite then none else some y
    else if x.isZero then some x
    else none
  | .negSucc e => some (scaleDown 4 (Binary64.ofInt significand) (e + 1))

/-- The absolute value as a double. -/
def magnitude? (n : JsonNumber) : Option Binary64 :=
  let (whole, dropped) := accumulate 0 n.whole
  let fraction := n.fraction.getD []
  let (significand, unread) := accumulate whole fraction
  let exponent : Int := dropped.length - (fraction.length - unread.length : Nat)
  match n.exponent with
  | none => scaled significand exponent
  | some (negative, digits) =>
    let e := digitsValue digits
    if exponentLimit < e then
      if significand ≠ 0 ∧ negative = false then none else some (Binary64.zero false)
    else scaled significand (if negative then exponent - e else exponent + e)

def signed (negative : Bool) (x : Binary64) : Binary64 := if negative then x.neg else x

/-- What the number stands for; none if it is too large even for a double.  `-0` is a double. -/
def meaning? (n : JsonNumber) : Option Meaning :=
  let whole := digitsValue n.whole
  match n.fraction, n.exponent with
  | none, none =>
    if n.negative then
      if whole = 0 then some (.double (Binary64.zero true))
      else if whole ≤ 0x8000000000000000 then some (.negative (-(whole : Int)))
      else n.magnitude?.map fun x => .double x.neg
    else if whole ≤ significandLimit then some (.nat whole)
    else n.magnitude?.map .double
  | _, _ => n.magnitude?.map fun x => .double (signed n.negative x)

/-! ### Writing -/

/-- Doubles in documents: positional from `0.00001` up to sixteen digits before the point, an
integral one marked by `.0`. -/
def style : NumeralStyle where
  tie := .even
  lowest := some (-5)
  highest := some 15
  marksIntegral := true
  infinite := "null"
  notANumber := "null"

/-- The exponent of the last digit decides how many places a positional numeral has. -/
def ofDecimal (negative : Bool) (d : Decimal) : JsonNumber :=
  if style.isPositional d.leading then
    let text := d.positional true
    ⟨negative, text.takeWhile isDigit, some ((text.dropWhile isDigit).drop 1), none⟩
  else
    let digits := d.digitText
    ⟨negative, digits.take 1, if digits.length ≤ 1 then none else some (digits.drop 1),
      some (decide (d.leading < 0), Nat.toDigits 10 d.leading.natAbs)⟩

/-- The number of a finite double. -/
def ofBinary64 (x : Binary64) : JsonNumber := ofDecimal x.negative (x.shortest style.tie)

end RecordMapping.JsonNumber
