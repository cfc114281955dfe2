import RecordMapping.Number.Binary64

/-!
# RecordMapping.Number.Shortest — the fewest digits that read back

`Binary64.shortest` writes a finite double as `digits · 10 ^ exponent` with the fewest digits whose
nearest double is the given one; of two such numerals of the same length it takes the nearer.  A
digit string is accepted only if it reads back, so reading undoes writing by construction.
-/

namespace RecordMapping

/-- The number of decimal digits of `n`; zero has one. -/
def digitCount (n : Nat) : Nat := (Nat.toDigits 10 n).length

/-- What is written when two shortest numerals are equally near. -/
inductive TieRule
  | up
  | even
  deriving DecidableEq, Repr

/-- A decimal numeral `digits · 10 ^ exponent`. -/
structure Decimal where
  digits : Nat
  exponent : Int
  deriving DecidableEq, Repr

namespace Decimal

/-- The exponent of the leading digit, as in `d.ddd · 10 ^ k`. -/
def leading (d : Decimal) : Int := d.exponent + digitCount d.digits - 1

def dropZeros : Nat → Nat → Int → Decimal
  | 0, digits, exponent => ⟨digits, exponent⟩
  | fuel + 1, digits, exponent =>
    if digits ≠ 0 ∧ digits % 10 = 0 then dropZeros fuel (digits / 10) (exponent + 1)
    else ⟨digits, exponent⟩

/-- The same number without trailing zeros in its digits. -/
def normal (d : Decimal) : Decimal := dropZeros (digitCount d.digits) d.digits d.exponent

end Decimal

namespace Binary64

/-- The exponent `k` of the leading digit of a positive `num / den`: `10 ^ k ≤ num / den < 10 ^ (k + 1)`. -/
def leadingExponent (num den : Nat) : Int :=
  if den ≤ num then (digitCount (num / den) : Int) - 1
  else
    let places := digitCount (den / num)
    if den = num * Nat.pow 10 (places - 1) then 1 - (places : Int) else -(places : Int)

/-- `num / den / 10 ^ e` as a quotient of integers. -/
def shiftDecimal (num den : Nat) : Int → Nat × Nat
  | .ofNat e => (num, den * Nat.pow 10 e)
  | .negSucc e => (num * Nat.pow 10 (e + 1), den)

/-- Does `± digits · 10 ^ exponent` read as `x`? -/
def readsAs (x : Binary64) (d : Decimal) : Bool :=
  decide (ofDecimal x.negative d.digits d.exponent = x)

/-- The neighbours of `x` on the grid of multiples of `10 ^ e`, the nearer of those that read back. -/
def nearestOnGrid (tie : TieRule) (x : Binary64) (e : Int) : Option Decimal :=
  let (n, d) := shiftDecimal x.ratio.1 x.ratio.2 e
  let low : Decimal := ⟨n / d, e⟩
  let high : Decimal := ⟨n / d + 1, e⟩
  match x.readsAs low, x.readsAs high with
  | false, false => none
  | true, false => some low
  | false, true => some high
  | true, true =>
    let twice := 2 * (n % d)
    if twice < d then some low
    else if d < twice then some high
    else match tie with
      | .up => some high
      | .even => if n / d % 2 = 0 then some low else some high

/-- Tries the grids from `e` downward, each ten times finer than the one before. -/
def searchGrids (tie : TieRule) (x : Binary64) : Nat → Int → Option Decimal
  | 0, _ => none
  | fuel + 1, e =>
    match nearestOnGrid tie x e with
    | some d => some d
    | none => searchGrids tie x fuel (e - 1)

/-- The shortest numeral of a finite double.  Seventeen digits always suffice; a zero is `0`. -/
def shortest (tie : TieRule) (x : Binary64) : Decimal :=
  if x.significand = 0 then ⟨0, 0⟩
  else
    let k := leadingExponent x.ratio.1 x.ratio.2
    match searchGrids tie x 17 k with
    | some d => d.normal
    | none => ⟨0, 0⟩

end Binary64

end RecordMapping
