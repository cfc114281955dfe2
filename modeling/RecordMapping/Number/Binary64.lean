/-!
# RecordMapping.Number.Binary64 — double-precision numbers as bit patterns

A double is its 64 bits, so that equality, integrality and every conversion are statements about
integers.  `significand` and `scale` read a finite double as `± m · 2 ^ e`; `ofRatio` is the double nearest to a
quotient, ties to even.  Products, quotients, integers and decimals are all rounded through it.
-/

namespace RecordMapping

/-- A double-precision number.  Two of them are equal when their bits are: `NaN = NaN`, `0 ≠ -0`.
`same` is the comparison of numbers. -/
structure Binary64 where
  bits : UInt64
  deriving DecidableEq, Repr, Inhabited

namespace Binary64

/-! ### Fields -/

/-- The highest of the 64 bits. -/
def signBit : Nat := 0x8000000000000000

/-- The fraction is the lowest 52 bits: it is less than this. -/
def fractionLimit : Nat := 0x10000000000000

def negative (x : Binary64) : Bool := decide (signBit ≤ x.bits.toNat)

def exponentField (x : Binary64) : Nat := x.bits.toNat / fractionLimit % 2048

def fractionField (x : Binary64) : Nat := x.bits.toNat % fractionLimit

def isFinite (x : Binary64) : Bool := decide (x.exponentField ≠ 2047)

def isNaN (x : Binary64) : Bool := !x.isFinite && decide (x.fractionField ≠ 0)

def isInfinite (x : Binary64) : Bool := !x.isFinite && decide (x.fractionField = 0)

/-- The integer `m` of a finite double `± m · 2 ^ e`. -/
def significand (x : Binary64) : Nat :=
  if x.exponentField = 0 then x.fractionField else fractionLimit + x.fractionField

/-- The exponent `e` of a finite double `± m · 2 ^ e`. -/
def scale (x : Binary64) : Int := (max x.exponentField 1 : Nat) - 1075

def isZero (x : Binary64) : Bool := x.isFinite && decide (x.significand = 0)

/-- The absolute value of a finite double as a quotient of integers. -/
def ratio (x : Binary64) : Nat × Nat :=
  match x.scale with
  | .ofNat e => (x.significand <<< e, 1)
  | .negSucc e => (x.significand, 1 <<< (e + 1))

/-- The integer that a double is, if it is one.  `-0` is zero. -/
def toInt? (x : Binary64) : Option Int :=
  if x.isFinite then
    let (num, den) := x.ratio
    if num % den = 0 then
      some (if x.negative then -((num / den : Nat) : Int) else ((num / den : Nat) : Int))
    else none
  else none

/-- Equality of numbers: a NaN differs from itself and the two zeros are equal. -/
def same (x y : Binary64) : Bool :=
  !x.isNaN && !y.isNaN && (decide (x = y) || (x.isZero && y.isZero))

/-! ### Rounding -/

/-- The double of a sign and the 63 bits below it. -/
def ofMagnitude (negative : Bool) (magnitude : Nat) : Binary64 :=
  ⟨UInt64.ofNat (if negative then signBit + magnitude else magnitude)⟩

/-- The 63 bits of infinity. -/
def infinityMagnitude : Nat := 2047 * fractionLimit

def infinity (negative : Bool) : Binary64 := ofMagnitude negative infinityMagnitude

def nan : Binary64 := ofMagnitude false (infinityMagnitude + fractionLimit / 2)

def zero (negative : Bool) : Binary64 := ofMagnitude negative 0

/-- The integer nearest to `num / den`, a half going to the even neighbour. -/
def divideNearest (num den : Nat) : Nat :=
  let q := num / den
  let r := num % den
  if 2 * r < den then q
  else if den < 2 * r then q + 1
  else if q % 2 = 0 then q else q + 1

/-- `num / den / 2 ^ e` as a quotient of integers. -/
def unscale (num den : Nat) : Int → Nat × Nat
  | .ofNat e => (num, den <<< e)
  | .negSucc e => (num <<< (e + 1), den)

/-- The exponent of the grid of doubles around a positive `num / den`: the quotient by `2 ^ e` has
53 bits, and no grid is finer than `2 ^ -1074`. -/
def gridExponent (num den : Nat) : Int :=
  let guess : Int := (Nat.log2 num : Int) - (Nat.log2 den : Int) - 53
  let (n, d) := unscale num den guess
  max (if n / d < 2 * fractionLimit then guess else guess + 1) (-1074)

/-- The double nearest to `± num / den`, a half going to the even significand.  From half a unit
above the largest double on it is infinite. -/
def ofRatio (negative : Bool) (num den : Nat) : Binary64 :=
  if num = 0 then zero negative
  else
    let e := gridExponent num den
    let (n, d) := unscale num den e
    let magnitude := (e + 1074).toNat * fractionLimit + divideNearest n d
    ofMagnitude negative (min magnitude infinityMagnitude)

/-- The double nearest to an integer. -/
def ofInt (n : Int) : Binary64 := ofRatio (decide (n < 0)) n.natAbs 1

/-- The double nearest to `± digits · 10 ^ exponent`.  Beyond 400 places on either side the answer
is infinity or zero whatever the digits are, and the power is not computed. -/
def ofDecimal (negative : Bool) (digits : Nat) : Int → Binary64
  | .ofNat e =>
    if digits = 0 then zero negative
    else if 400 ≤ e then infinity negative
    else ofRatio negative (digits * Nat.pow 10 e) 1
  | .negSucc e =>
    if 400 + Nat.log2 digits ≤ e then zero negative
    else ofRatio negative digits (Nat.pow 10 (e + 1))

/-! ### Arithmetic -/

/-- The product of two finite doubles, rounded. -/
def mul (x y : Binary64) : Binary64 :=
  let (a, b) := x.ratio
  let (c, d) := y.ratio
  ofRatio (x.negative != y.negative) (a * c) (b * d)

/-- The quotient of two finite doubles, the second not zero, rounded. -/
def div (x y : Binary64) : Binary64 :=
  let (a, b) := x.ratio
  let (c, d) := y.ratio
  ofRatio (x.negative != y.negative) (a * d) (b * c)

def neg (x : Binary64) : Binary64 := ⟨x.bits ^^^ UInt64.ofNat signBit⟩

end Binary64

end RecordMapping
