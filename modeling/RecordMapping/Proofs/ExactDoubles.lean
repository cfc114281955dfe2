import RecordMapping.Number.Binary64
import Mathlib.Algebra.Order.Field.Power
import Mathlib.Data.Rat.Cast.Order
import Mathlib.Tactic.FieldSimp
import Mathlib.Tactic.Positivity
import Mathlib.Tactic.Ring

/-!
# RecordMapping.Proofs.ExactDoubles — the number that a double is

`Binary64.exact` is the rational number `± m · 2 ^ e` of a finite double.  The quotient of integers
that every conversion starts from is its absolute value (`ratio_eq`), so a double converts to an integer
exactly when its number is that integer (`toInt?_eq_some_iff`).

Below its sign a double is a word of 63 bits, `magnitude`.  These words are ordered as the numbers are
(`absolute_le`), and the bits of a number `q · 2 ^ e` on the grid of doubles can be written down
(`absolute_of_magnitude`).
-/

namespace RecordMapping.Binary64

variable {x y : Binary64}

/-- The absolute value of a finite double. -/
def absolute (x : Binary64) : ℚ := x.significand * (2 : ℚ) ^ x.scale

/-- The number that a finite double is. -/
def exact (x : Binary64) : ℚ := if x.negative = true then -x.absolute else x.absolute

theorem two_zpow_pos (e : Int) : (0 : ℚ) < 2 ^ e := zpow_pos (by norm_num) e

theorem absolute_nonneg (x : Binary64) : 0 ≤ x.absolute := by
  have := two_zpow_pos x.scale
  unfold absolute
  positivity

/-! ### The quotient of integers -/

theorem ratio_den_pos (x : Binary64) : 0 < x.ratio.2 := by
  unfold ratio
  cases x.scale with
  | ofNat e => exact Nat.one_pos
  | negSucc e => simp [Nat.shiftLeft_eq]

theorem ratio_eq (x : Binary64) : (x.ratio.1 : ℚ) / x.ratio.2 = x.absolute := by
  unfold ratio absolute
  cases x.scale with
  | ofNat e => simp [Nat.shiftLeft_eq]
  | negSucc e => simp [Nat.shiftLeft_eq, zpow_negSucc, div_eq_mul_inv]

theorem ratio_num_pos (h : 0 < x.absolute) : 0 < x.ratio.1 := by
  apply Nat.pos_of_ne_zero
  intro hzero
  rw [← ratio_eq, hzero, Nat.cast_zero, zero_div] at h
  exact h.false

/-- A quotient of naturals is a natural number exactly if the division leaves nothing. -/
theorem div_eq_natCast_iff {num den k : Nat} (hden : 0 < den) :
    (num : ℚ) / den = k ↔ num % den = 0 ∧ num / den = k := by
  have hden' : (den : ℚ) ≠ 0 := by exact_mod_cast hden.ne'
  rw [div_eq_iff hden']
  norm_cast
  constructor
  · rintro rfl
    exact ⟨Nat.mul_mod_left k den, Nat.mul_div_cancel k hden⟩
  · rintro ⟨hmod, rfl⟩
    exact (Nat.div_mul_cancel (Nat.dvd_of_mod_eq_zero hmod)).symm

/-- A double is the integer that its number is. -/
theorem toInt?_eq_some_iff {n : Int} :
    x.toInt? = some n ↔ x.isFinite = true ∧ x.exact = n := by
  unfold toInt?
  by_cases hfinite : x.isFinite = true
  · have hratio := x.ratio_eq
    have hden := x.ratio_den_pos
    rw [if_pos hfinite]
    simp only [hfinite, true_and]
    generalize x.ratio = r at hratio hden
    obtain ⟨num, den⟩ := r
    dsimp only at hratio hden ⊢
    unfold exact
    rw [← hratio]
    by_cases hmod : num % den = 0
    · have hquotient := (div_eq_natCast_iff hden).mpr ⟨hmod, rfl⟩
      rw [if_pos hmod, hquotient, Option.some_inj]
      cases x.negative
      · exact Int.cast_inj.symm
      · rw [if_pos rfl, if_pos rfl]
        exact_mod_cast Int.cast_inj.symm
    · -- the absolute value of an integer is a natural number
      have hnot (k : Nat) : (num : ℚ) / den ≠ k := fun h => hmod ((div_eq_natCast_iff hden).mp h).1
      have hnonneg : (0 : ℚ) ≤ (num : ℚ) / den := by positivity
      rw [if_neg hmod]
      refine ⟨nofun, fun h => absurd ?_ (hnot n.natAbs)⟩
      rw [Nat.cast_natAbs, Int.cast_abs, ← h]
      cases x.negative <;> simp [abs_of_nonneg hnonneg]
  · simp [hfinite]

/-! ### Bits -/

/-- The 63 bits below the sign. -/
def magnitude (x : Binary64) : Nat := x.bits.toNat % signBit

theorem magnitude_lt (x : Binary64) : x.magnitude < signBit := Nat.mod_lt _ (by decide)

theorem fractionField_lt (x : Binary64) : x.fractionField < fractionLimit := Nat.mod_lt _ (by decide)

theorem magnitude_eq (x : Binary64) :
    x.magnitude = x.exponentField * fractionLimit + x.fractionField := by
  unfold magnitude exponentField fractionField signBit fractionLimit
  omega

theorem isFinite_iff : x.isFinite = true ↔ x.magnitude < infinityMagnitude := by
  have hbits := x.magnitude_eq
  have hmagnitude := x.magnitude_lt
  have hfraction := x.fractionField_lt
  unfold isFinite
  rw [decide_eq_true_iff]
  unfold infinityMagnitude fractionLimit signBit at *
  omega

section OfMagnitude

variable {negative : Bool} {m : Nat}

theorem toNat_bits_ofMagnitude (h : m < signBit) :
    (ofMagnitude negative m).bits.toNat = if negative = true then signBit + m else m := by
  unfold ofMagnitude
  unfold signBit at h ⊢
  cases negative <;> simp <;> omega

theorem magnitude_ofMagnitude (h : m < signBit) : (ofMagnitude negative m).magnitude = m := by
  unfold magnitude
  rw [toNat_bits_ofMagnitude h]
  unfold signBit at h ⊢
  split <;> omega

theorem negative_ofMagnitude (h : m < signBit) : (ofMagnitude negative m).negative = negative := by
  unfold Binary64.negative
  rw [toNat_bits_ofMagnitude h]
  unfold signBit at h ⊢
  cases negative <;> simp
  omega

/-- The sign bit is free below it. -/
theorem xor_signBit (h : m < signBit) : m ^^^ signBit = signBit + m := by
  have hpower : signBit = 2 ^ 63 := by decide
  rw [hpower] at h ⊢
  have hjoin : 2 ^ 63 + m = 2 ^ 63 ||| m := by
    have := Nat.two_pow_add_eq_or_of_lt h 1
    rwa [Nat.mul_one] at this
  rw [hjoin]
  apply Nat.eq_of_testBit_eq
  intro i
  rw [Nat.testBit_xor, Nat.testBit_or]
  by_cases hi : i = 63
  · rw [hi, Nat.testBit_two_pow_self, Nat.testBit_lt_two_pow h]
    rfl
  · rw [Nat.testBit_two_pow_of_ne (Ne.symm hi)]
    simp

theorem neg_ofMagnitude (h : m < signBit) : (ofMagnitude false m).neg = ofMagnitude true m := by
  have hbits := @toNat_bits_ofMagnitude false m h
  have hbits' := @toNat_bits_ofMagnitude true m h
  have hsign : (UInt64.ofNat signBit).toNat = signBit := by decide
  unfold ofMagnitude neg at *
  congr 1
  apply UInt64.toNat_inj.mp
  rw [UInt64.toNat_xor, hbits, hbits', hsign, if_neg Bool.false_ne_true, if_pos rfl, xor_signBit h]

end OfMagnitude

/-- A double is its sign and its magnitude. -/
theorem ofMagnitude_magnitude (x : Binary64) : ofMagnitude x.negative x.magnitude = x := by
  have hbits : x.bits.toNat < 2 ^ 64 := x.bits.toNat_lt
  obtain ⟨bits⟩ := x
  unfold ofMagnitude magnitude Binary64.negative signBit
  congr 1
  apply UInt64.toNat_inj.mp
  simp only [decide_eq_true_iff] at *
  split <;> simp <;> omega

/-- The bits of `q · 2 ^ e`, where `q` has 53 bits or `e` is the least exponent.  The carry of a
`q` with one bit more goes into the exponent. -/
theorem absolute_of_magnitude {e q : Nat} (h : x.magnitude = e * fractionLimit + q)
    (hq : q ≤ 2 * fractionLimit) (he : e = 0 ∨ fractionLimit ≤ q) :
    x.absolute = q * (2 : ℚ) ^ ((e : Int) - 1074) := by
  have hbits := x.magnitude_eq
  have hfraction := x.fractionField_lt
  rw [h] at hbits
  unfold absolute significand scale
  unfold fractionLimit at *
  by_cases hlow : q < 0x10000000000000
  · obtain rfl : e = 0 := by omega
    have hexponent : x.exponentField = 0 := by omega
    have hq : x.fractionField = q := by omega
    simp [hexponent, hq]
  · by_cases hcarry : q = 2 * 0x10000000000000
    · have hexponent : x.exponentField = e + 2 := by omega
      have hzero : x.fractionField = 0 := by omega
      have hscale : ((max (e + 2) 1 : Nat) : Int) - 1075 = (e - 1074 : Int) + 1 := by omega
      rw [hexponent, hzero, hscale, hcarry, zpow_add_one₀ two_ne_zero]
      push_cast
      ring
    · have hexponent : x.exponentField = e + 1 := by omega
      have hq : 0x10000000000000 + x.fractionField = q := by omega
      have hscale : ((max (e + 1) 1 : Nat) : Int) - 1075 = e - 1074 := by omega
      rw [hexponent, hscale, if_neg (Nat.succ_ne_zero e), hq]

/-- Every number is a multiple of the least one. -/
theorem absolute_eq_natCast (x : Binary64) :
    x.absolute = (x.significand * 2 ^ (x.exponentField - 1) : Nat) * (2 : ℚ) ^ (-1074 : Int) := by
  have hscale : x.scale = ((x.exponentField - 1 : Nat) : Int) + (-1074) := by
    unfold scale
    omega
  unfold absolute
  rw [hscale, zpow_add₀ two_ne_zero, zpow_natCast, Nat.cast_mul, Nat.cast_pow, Nat.cast_ofNat,
    mul_assoc]

/-- The words are ordered as the numbers are. -/
theorem absolute_le (h : x.magnitude ≤ y.magnitude) : x.absolute ≤ y.absolute := by
  have hx := x.fractionField_lt
  have hy := y.fractionField_lt
  rw [x.magnitude_eq, y.magnitude_eq] at h
  have hmultiples : x.significand * 2 ^ (x.exponentField - 1) ≤
      y.significand * 2 ^ (y.exponentField - 1) := by
    unfold significand
    generalize x.exponentField = e, x.fractionField = f at *
    generalize y.exponentField = e', y.fractionField = f' at *
    unfold fractionLimit at *
    rcases lt_trichotomy e e' with hlt | rfl | hgt
    · -- the greater power of two makes up for the smaller significand
      rw [if_neg (by omega : e' ≠ 0)]
      by_cases hsame : e' - 1 = e - 1
      · rw [hsame]
        gcongr
        split <;> omega
      · calc (if e = 0 then f else 0x10000000000000 + f) * 2 ^ (e - 1)
            ≤ 0x10000000000000 * 2 * 2 ^ (e - 1) := by
              gcongr
              split <;> omega
          _ = 0x10000000000000 * 2 ^ (e - 1 + 1) := by ring
          _ ≤ (0x10000000000000 + f') * 2 ^ (e' - 1) := by
              gcongr <;> omega
    · have hf : f ≤ f' := by omega
      gcongr
      split <;> omega
    · omega
  rw [absolute_eq_natCast, absolute_eq_natCast]
  have := two_zpow_pos (-1074)
  gcongr

theorem absolute_congr (h : x.magnitude = y.magnitude) : x.absolute = y.absolute :=
  le_antisymm (absolute_le h.le) (absolute_le h.ge)

theorem abs_exact (x : Binary64) : |x.exact| = x.absolute := by
  have := x.absolute_nonneg
  unfold exact
  split
  · rw [abs_neg, abs_of_nonneg this]
  · exact abs_of_nonneg this

/-- Two numbers of one sign are as far from each other as their absolute values. -/
theorem abs_exact_sub (h : x.negative = y.negative) : |x.exact - y.exact| = |x.absolute - y.absolute| := by
  unfold exact
  rw [h]
  split
  · rw [neg_sub_neg, abs_sub_comm]
  · rfl

end RecordMapping.Binary64
