import RecordMapping.Number.Shortest
import RecordMapping.Proofs.Rounding
import Mathlib.Data.Nat.Cast.Order.Field

/-!
# RecordMapping.Proofs.ShortestDigits — written doubles read back

A decimal is rounded like any other number (`ofDecimal_eq`), so a numeral reads as a double if it is near
enough to it.  On the grid of seventeen digits one of the two neighbours of a double always is
(`exists_readsAs`), hence the search for the fewest digits ends with digits that read back
(`readsAs_shortest`).
-/

namespace RecordMapping

namespace Decimal

/-- The number of a decimal numeral. -/
def value (d : Decimal) : ℚ := d.digits * (10 : ℚ) ^ d.exponent

theorem ten_zpow_pos (e : Int) : (0 : ℚ) < 10 ^ e := zpow_pos (by norm_num) e

theorem value_nonneg (d : Decimal) : 0 ≤ d.value := by
  have := ten_zpow_pos d.exponent
  unfold value
  positivity

theorem value_natCast (digits e : Nat) : (⟨digits, e⟩ : Decimal).value = (digits * 10 ^ e : Nat) := by
  simp [value]

theorem dropZeros_value (fuel digits : Nat) (exponent : Int) :
    (dropZeros fuel digits exponent).value = (⟨digits, exponent⟩ : Decimal).value := by
  induction fuel generalizing digits exponent with
  | zero => rfl
  | succ fuel ih =>
    unfold dropZeros
    split
    case isTrue h =>
      have hdigits : (digits : ℚ) = (digits / 10 : Nat) * 10 := by
        exact_mod_cast (Nat.div_mul_cancel (Nat.dvd_of_mod_eq_zero h.2)).symm
      rw [ih, value, value, hdigits, zpow_add_one₀ (by norm_num)]
      ring
    case isFalse => rfl

theorem normal_value (d : Decimal) : d.normal.value = d.value := dropZeros_value _ _ _

theorem dropZeros_exponent_le (fuel digits : Nat) (exponent : Int) :
    exponent ≤ (dropZeros fuel digits exponent).exponent := by
  induction fuel generalizing digits exponent with
  | zero => exact le_rfl
  | succ fuel ih =>
    unfold dropZeros
    split
    case isTrue => exact (by omega : exponent ≤ exponent + 1).trans (ih _ _)
    case isFalse => exact le_rfl

theorem dropZeros_digits_le (fuel digits : Nat) (exponent : Int) :
    (dropZeros fuel digits exponent).digits ≤ digits := by
  induction fuel generalizing digits exponent with
  | zero => exact le_rfl
  | succ fuel ih =>
    unfold dropZeros
    split
    case isTrue => exact (ih _ _).trans (Nat.div_le_self _ _)
    case isFalse => exact le_rfl

end Decimal

namespace Binary64

open Decimal (ten_zpow_pos)

/-! ### Rounding of decimals -/

theorem infinityMagnitude_le_rounded {r : ℚ} (h : 2 ^ 1024 ≤ r) : infinityMagnitude ≤ rounded r := by
  have hinfinity : (infinity false).absolute = 2 ^ 1024 := by
    have hsignificand : (infinity false).significand = 2 ^ 52 := by decide
    have hscale : (infinity false).scale = 972 := by decide
    have hpower : (2 : ℚ) ^ (972 : Int) = 2 ^ 972 := zpow_natCast 2 972
    rw [absolute, hsignificand, hscale, hpower, Nat.cast_pow, Nat.cast_ofNat, ← pow_add]
  calc infinityMagnitude = rounded (infinity false).absolute := by
        rw [rounded_absolute]
        decide
    _ ≤ rounded r := by
        rw [hinfinity]
        exact rounded_mono (by positivity) h

theorem rounded_eq_zero {r : ℚ} (hr : 0 ≤ r) (h : r < 2 ^ (-1075 : Int)) : rounded r = 0 := by
  rcases hr.eq_or_lt with rfl | hr
  · exact rounded_zero
  · have hpos := two_zpow_pos (((0 : Nat) : Int) - 1074)
    have hnonneg : 0 ≤ r / 2 ^ (((0 : Nat) : Int) - 1074) := by positivity
    have hsmall : r / 2 ^ (((0 : Nat) : Int) - 1074) < 1 / 2 := by
      rw [div_lt_iff₀ hpos, one_div, ← div_eq_inv_mul, half_two_zpow]
      exact h
    rw [rounded_eq (e := 0) (q := 0) hr (.inl rfl)]
    · rfl
    · rw [cast_fractionLimit]
      linarith
    · apply isNearest_of_lt
      rwa [Nat.cast_zero (R := ℚ), sub_zero, abs_of_nonneg hnonneg]

theorem two_pow_le_ten_pow {a b : Nat} (h : a ≤ 3 * b) : 2 ^ a ≤ 10 ^ b := by
  calc 2 ^ a ≤ 2 ^ (3 * b) := Nat.pow_le_pow_right (by decide) h
    _ = 8 ^ b := pow_mul 2 3 b
    _ ≤ 10 ^ b := Nat.pow_le_pow_left (by decide) b

/-- Decimals are rounded to the nearest double, also those whose power is not computed. -/
theorem ofDecimal_eq (negative : Bool) (digits : Nat) (e : Int) :
    ofDecimal negative digits e = ofRat negative (⟨digits, e⟩ : Decimal).value := by
  cases e with
  | ofNat e =>
    have hvalue : (⟨digits, .ofNat e⟩ : Decimal).value = (digits * Nat.pow 10 e : Nat) / (1 : Nat) := by
      rw [Nat.cast_one, div_one]
      exact Decimal.value_natCast digits e
    unfold ofDecimal
    dsimp only
    split_ifs with hzero hlarge
    · rw [hvalue, hzero]
      simp [zero, ofRat]
    · have hle : infinityMagnitude ≤ rounded (⟨digits, .ofNat e⟩ : Decimal).value := by
        apply infinityMagnitude_le_rounded
        have hpower : 2 ^ 1024 ≤ Nat.pow 10 e := two_pow_le_ten_pow (by omega)
        have hproduct : 2 ^ 1024 ≤ digits * Nat.pow 10 e :=
          hpower.trans (Nat.le_mul_of_pos_left _ (Nat.pos_of_ne_zero hzero))
        rw [hvalue, Nat.cast_one, div_one]
        exact_mod_cast hproduct
      rw [ofRat, min_eq_right hle, infinity]
    · rw [ofRatio_eq _ _ Nat.one_pos, hvalue]
  | negSucc e =>
    have hvalue : (⟨digits, .negSucc e⟩ : Decimal).value = (digits : Nat) / (Nat.pow 10 (e + 1) : Nat) := by
      simp [Decimal.value, zpow_negSucc, div_eq_mul_inv]
    have hpower : 0 < Nat.pow 10 (e + 1) := Nat.pow_pos (by decide)
    unfold ofDecimal
    dsimp only
    split_ifs with hsmall
    · have hzero : rounded (⟨digits, .negSucc e⟩ : Decimal).value = 0 := by
        apply rounded_eq_zero (Decimal.value_nonneg _)
        have hproduct : digits * 2 ^ 1075 < Nat.pow 10 (e + 1) := by
          calc digits * 2 ^ 1075 < 2 ^ (Nat.log2 digits + 1) * 2 ^ 1075 := by
                gcongr
                exact Nat.lt_log2_self
            _ = 2 ^ (Nat.log2 digits + 1 + 1075) := (pow_add _ _ _).symm
            _ ≤ Nat.pow 10 (e + 1) := two_pow_le_ten_pow (by omega)
        rw [hvalue, div_lt_iff₀ (by exact_mod_cast hpower), zpow_neg, ← div_eq_inv_mul,
          lt_div_iff₀ (two_zpow_pos _)]
        exact_mod_cast hproduct
      rw [ofRat, hzero]
      rfl
    · rw [ofRatio_eq _ _ hpower, hvalue]

/-! ### The leading digit -/

theorem lt_pow_digitCount (n : Nat) : n < 10 ^ digitCount n :=
  (Nat.length_toDigits_le_iff (by decide) Nat.length_toDigits_pos).mp le_rfl

theorem pow_digitCount_le {n : Nat} (hn : 0 < n) : 10 ^ (digitCount n - 1) ≤ n := by
  by_contra hlt
  rcases Nat.eq_zero_or_pos (digitCount n - 1) with hone | hmore
  · rw [hone] at hlt
    omega
  · have : digitCount n ≤ digitCount n - 1 :=
      (Nat.length_toDigits_le_iff (by decide) hmore).mpr (not_le.mp hlt)
    omega

theorem digitCount_pos (n : Nat) : 0 < digitCount n := Nat.length_toDigits_pos

/-- A quotient that is not less than one, between powers of ten. -/
theorem digitCount_bounds {num den : Nat} (hden : 0 < den) (h : den ≤ num) :
    (10 : ℚ) ^ ((digitCount (num / den) : Int) - 1) ≤ num / den ∧
      (num : ℚ) / den < 10 ^ (digitCount (num / den) : Int) := by
  have hden' : (0 : ℚ) < den := by exact_mod_cast hden
  have hquotient : 0 < num / den := Nat.div_pos h hden
  have hone : ((digitCount (num / den) : Int) - 1) = (digitCount (num / den) - 1 : Nat) := by
    have := digitCount_pos (num / den)
    omega
  constructor
  · have hle : 10 ^ (digitCount (num / den) - 1) * den ≤ num :=
      (Nat.mul_le_mul_right den (pow_digitCount_le hquotient)).trans (Nat.div_mul_le_self num den)
    rw [hone, le_div_iff₀ hden', zpow_natCast]
    exact_mod_cast hle
  · have hlt : num < 10 ^ digitCount (num / den) * den := by
      have := lt_pow_digitCount (num / den)
      rwa [← Nat.div_lt_iff_lt_mul hden]
    rw [div_lt_iff₀ hden', zpow_natCast]
    exact_mod_cast hlt

theorem leadingExponent_bounds {num den : Nat} (hnum : 0 < num) (hden : 0 < den) :
    (10 : ℚ) ^ leadingExponent num den ≤ num / den ∧
      (num : ℚ) / den < 10 ^ (leadingExponent num den + 1) := by
  unfold leadingExponent
  split
  case isTrue h =>
    rw [sub_add_cancel]
    exact digitCount_bounds hden h
  case isFalse h =>
    obtain ⟨hlow, hhigh⟩ := digitCount_bounds hnum (not_le.mp h).le
    have hplaces := digitCount_pos (den / num)
    have hnum' : (0 : ℚ) < num := by exact_mod_cast hnum
    have hden' : (0 : ℚ) < den := by exact_mod_cast hden
    have hpos : (0 : ℚ) < (den : ℚ) / num := by positivity
    have hinv : (num : ℚ) / den = ((den : ℚ) / num)⁻¹ := (inv_div _ _).symm
    have hexact : (den : ℚ) / num = 10 ^ ((digitCount (den / num) : Int) - 1) ↔
        den = num * Nat.pow 10 (digitCount (den / num) - 1) := by
      have hone : (digitCount (den / num) : Int) - 1 = (digitCount (den / num) - 1 : Nat) := by omega
      rw [div_eq_iff hnum'.ne', mul_comm, hone, zpow_natCast]
      exact_mod_cast Iff.rfl
    rw [hinv]
    dsimp only
    generalize digitCount (den / num) = places at hlow hhigh hexact ⊢
    have hnegative (e : Int) : (10 : ℚ) ^ (-e) = (10 ^ e)⁻¹ := zpow_neg 10 e
    split
    case isTrue heq =>
      have heq := hexact.mpr heq
      rw [heq, ← hnegative, neg_sub]
      exact ⟨le_rfl, zpow_lt_zpow_right₀ (by norm_num) (by omega)⟩
    case isFalse hne =>
      have hlow := hlow.lt_of_ne fun heq => hne (hexact.mp heq.symm)
      have hnext : -(places : Int) + 1 = -(places - 1) := by ring
      rw [hnext, hnegative, hnegative]
      exact ⟨inv_anti₀ hpos hhigh.le, inv_strictAnti₀ (ten_zpow_pos _) hlow⟩

/-! ### The search -/

theorem shiftDecimal_den_pos (num : Nat) {den : Nat} (hden : 0 < den) (e : Int) :
    0 < (shiftDecimal num den e).2 := by
  cases e with
  | ofNat e => exact Nat.mul_pos hden (Nat.pow_pos (by decide))
  | negSucc e => exact hden

theorem shiftDecimal_eq (num den : Nat) (e : Int) :
    ((shiftDecimal num den e).1 : ℚ) / (shiftDecimal num den e).2 = num / den / 10 ^ e := by
  cases e with
  | ofNat e => simp [shiftDecimal, div_mul_eq_div_div]
  | negSucc e => simp [shiftDecimal, zpow_negSucc, mul_div_right_comm]

variable {x : Binary64} {tie : TieRule}

theorem readsAs_iff {d : Decimal} :
    x.readsAs d = true ↔ ofDecimal x.negative d.digits d.exponent = x := decide_eq_true_iff

/-- Reading depends on the number of the numeral. -/
theorem readsAs_of_value_eq {d d' : Decimal} (h : d.value = d'.value) (hd : x.readsAs d = true) :
    x.readsAs d' = true := by
  rw [readsAs_iff, ofDecimal_eq] at hd ⊢
  rw [← h]
  exact hd

theorem readsAs_of_near {d : Decimal} (hfinite : x.isFinite = true) (hpos : 0 < d.value)
    (hnear : |d.value - x.absolute| < x.absolute / 2 ^ 54) : x.readsAs d = true := by
  have hmagnitude := isFinite_iff.mp hfinite
  rw [readsAs_iff, ofDecimal_eq, ofRat, rounded_of_near hpos hnear, min_eq_left hmagnitude.le,
    ofMagnitude_magnitude]

/-- The lower neighbour of a double on a grid; the upper one has one unit more. -/
def lowDigits (x : Binary64) (e : Int) : Nat :=
  (shiftDecimal x.ratio.1 x.ratio.2 e).1 / (shiftDecimal x.ratio.1 x.ratio.2 e).2

theorem lowDigits_le (x : Binary64) (e : Int) : (x.lowDigits e : ℚ) ≤ x.absolute / 10 ^ e := by
  rw [← ratio_eq, ← shiftDecimal_eq]
  exact Nat.cast_div_le

theorem lt_lowDigits_succ (x : Binary64) (e : Int) : x.absolute / 10 ^ e < x.lowDigits e + 1 := by
  have hden := shiftDecimal_den_pos x.ratio.1 x.ratio_den_pos e
  have hden' : (0 : ℚ) < (shiftDecimal x.ratio.1 x.ratio.2 e).2 := by exact_mod_cast hden
  rw [← ratio_eq, ← shiftDecimal_eq, div_lt_iff₀ hden']
  exact_mod_cast (Nat.div_lt_iff_lt_mul hden).mp (Nat.lt_succ_self _)

/-- What is found on a grid reads back and is one of the two neighbours; nothing is found only if
neither reads back. -/
theorem nearestOnGrid_cases (tie : TieRule) (x : Binary64) (e : Int) :
    (∃ d, nearestOnGrid tie x e = some d ∧ x.readsAs d = true ∧ d.exponent = e ∧
        (d.digits = x.lowDigits e ∨ d.digits = x.lowDigits e + 1)) ∨
      nearestOnGrid tie x e = none ∧ x.readsAs ⟨x.lowDigits e, e⟩ = false ∧
        x.readsAs ⟨x.lowDigits e + 1, e⟩ = false := by
  unfold nearestOnGrid
  dsimp only
  have hlowDigits : (shiftDecimal x.ratio.1 x.ratio.2 e).1 / (shiftDecimal x.ratio.1 x.ratio.2 e).2 =
      x.lowDigits e := rfl
  rw [hlowDigits]
  cases hlow : x.readsAs ⟨x.lowDigits e, e⟩ <;> cases hhigh : x.readsAs ⟨x.lowDigits e + 1, e⟩
  case false.false => exact .inr ⟨rfl, rfl, rfl⟩
  case true.false => exact .inl ⟨_, rfl, hlow, rfl, .inl rfl⟩
  case false.true => exact .inl ⟨_, rfl, hhigh, rfl, .inr rfl⟩
  case true.true =>
    left
    cases tie <;> dsimp only <;> split_ifs
    all_goals first
      | exact ⟨_, rfl, hlow, rfl, .inl rfl⟩
      | exact ⟨_, rfl, hhigh, rfl, .inr rfl⟩

/-- On a grid finer than the distance to its neighbours, one of the two numerals around a double reads
back. -/
theorem exists_readsAs {e : Int} (hfinite : x.isFinite = true)
    (he : (10 : ℚ) ^ e * 2 ^ 53 < x.absolute) :
    x.readsAs ⟨x.lowDigits e, e⟩ = true ∨ x.readsAs ⟨x.lowDigits e + 1, e⟩ = true := by
  have hten := ten_zpow_pos e
  have hlow := x.lowDigits_le e
  have hhigh := x.lt_lowDigits_succ e
  rw [le_div_iff₀ hten] at hlow
  rw [div_lt_iff₀ hten] at hhigh
  have hnear {q : Nat} (hq : |q * 10 ^ e - x.absolute| ≤ 10 ^ e / 2) : x.readsAs ⟨q, e⟩ = true := by
    have hlt : |q * 10 ^ e - x.absolute| < x.absolute / 2 ^ 54 := by linarith
    have hleft := (abs_lt.mp hlt).1
    apply readsAs_of_near hfinite
    · show 0 < (q : ℚ) * 10 ^ e
      linarith
    · exact hlt
  -- the nearer of the two is at most half a unit away
  by_cases hhalf : x.absolute ≤ (x.lowDigits e + 1 / 2) * 10 ^ e
  · left
    apply hnear
    rw [abs_le]
    constructor <;> linarith
  · right
    apply hnear
    push_cast
    rw [abs_le]
    constructor <;> linarith

/-- The search ends where a grid has a numeral that reads back, or before. -/
theorem searchGrids_spec (tie : TieRule) {fuel i : Nat} {e : Int} (hi : i < fuel)
    (h : x.readsAs ⟨x.lowDigits (e - i), e - i⟩ = true ∨
      x.readsAs ⟨x.lowDigits (e - i) + 1, e - i⟩ = true) :
    ∃ d, searchGrids tie x fuel e = some d ∧ x.readsAs d = true ∧ d.exponent ≤ e ∧ e - i ≤ d.exponent ∧
      d.digits ≤ x.lowDigits d.exponent + 1 := by
  induction fuel generalizing i e with
  | zero => omega
  | succ fuel ih =>
    unfold searchGrids
    rcases nearestOnGrid_cases tie x e with ⟨d, hfound, hreads, rfl, hdigits⟩ | ⟨hnone, hlow, hhigh⟩
    · rw [hfound]
      exact ⟨d, rfl, hreads, le_rfl, by omega, by omega⟩
    · obtain ⟨j, rfl⟩ : ∃ j, i = j + 1 := by
        apply Nat.exists_eq_add_one_of_ne_zero
        rintro rfl
        rw [Nat.cast_zero, sub_zero, hlow, hhigh] at h
        exact h.elim nofun nofun
      have hnext : e - ((j + 1 : Nat) : Int) = e - 1 - j := by omega
      rw [hnext] at h
      obtain ⟨d, hfound, hreads, hle, hge, hdigits⟩ := ih (by omega) h
      rw [hnone]
      exact ⟨d, hfound, hreads, by omega, by omega, hdigits⟩

/-! ### The shortest numeral -/

theorem absolute_bounds (hpos : 0 < x.absolute) :
    (10 : ℚ) ^ leadingExponent x.ratio.1 x.ratio.2 ≤ x.absolute ∧
      x.absolute < 10 ^ (leadingExponent x.ratio.1 x.ratio.2 + 1) := by
  have hbounds := leadingExponent_bounds (ratio_num_pos hpos) x.ratio_den_pos
  rwa [ratio_eq] at hbounds

theorem absolute_eq_zero_iff : x.absolute = 0 ↔ x.significand = 0 := by
  have := two_zpow_pos x.scale
  unfold absolute
  rw [mul_eq_zero, or_iff_left this.ne', Nat.cast_eq_zero]

/-- The digits that the search finds for a double that is not zero: they read back, and are at most
seventeen from the leading one on. -/
theorem exists_searchGrids (tie : TieRule) (hfinite : x.isFinite = true) (hpos : 0 < x.absolute) :
    ∃ d, searchGrids tie x 17 (leadingExponent x.ratio.1 x.ratio.2) = some d ∧ x.readsAs d = true ∧
      d.digits ≤ 10 ^ 17 ∧ leadingExponent x.ratio.1 x.ratio.2 - 16 ≤ d.exponent := by
  obtain ⟨hlow, hhigh⟩ := absolute_bounds hpos
  generalize leadingExponent x.ratio.1 x.ratio.2 = k at hlow hhigh ⊢
  have hgrid : (10 : ℚ) ^ (k - (16 : Nat)) * 2 ^ 53 < x.absolute := by
    have hk := ten_zpow_pos k
    have hsplit : (10 : ℚ) ^ (k - (16 : Nat)) = 10 ^ k / 10 ^ 16 := by
      rw [zpow_sub₀ (by norm_num)]
      rfl
    rw [hsplit]
    linarith
  obtain ⟨d, hfound, hreads, -, hge, hdigits⟩ :=
    searchGrids_spec tie (by decide : 16 < 17) (exists_readsAs hfinite hgrid)
  refine ⟨d, hfound, hreads, ?_, hge⟩
  have hlt : (x.lowDigits d.exponent : ℚ) < 10 ^ 17 := by
    calc (x.lowDigits d.exponent : ℚ) ≤ x.absolute / 10 ^ d.exponent := x.lowDigits_le _
      _ < 10 ^ (k + 1) / 10 ^ d.exponent := by
          have := ten_zpow_pos d.exponent
          gcongr
      _ = 10 ^ (k + 1 - d.exponent) := (zpow_sub₀ (by norm_num) _ _).symm
      _ ≤ 10 ^ ((17 : Nat) : Int) := zpow_le_zpow_right₀ (by norm_num) (by omega)
      _ = 10 ^ 17 := zpow_natCast 10 17
  have hlt : x.lowDigits d.exponent < 10 ^ 17 := by exact_mod_cast hlt
  omega

/-- Zero has the numeral zero.  Any other double is written as what the search finds, without trailing
zeros. -/
theorem shortest_cases (tie : TieRule) (hfinite : x.isFinite = true) :
    x.absolute = 0 ∧ x.shortest tie = ⟨0, 0⟩ ∨
      0 < x.absolute ∧ ∃ d, x.shortest tie = d.normal ∧ x.readsAs d = true ∧ d.digits ≤ 10 ^ 17 ∧
        leadingExponent x.ratio.1 x.ratio.2 - 16 ≤ d.exponent := by
  rcases x.absolute_nonneg.eq_or_lt with hzero | hpos
  · exact .inl ⟨hzero.symm, if_pos (absolute_eq_zero_iff.mp hzero.symm)⟩
  · obtain ⟨d, hfound, hd⟩ := exists_searchGrids tie hfinite hpos
    have hsignificand : x.significand ≠ 0 := mt absolute_eq_zero_iff.mpr hpos.ne'
    refine .inr ⟨hpos, d, ?_, hd⟩
    unfold shortest
    rw [if_neg hsignificand]
    dsimp only
    rw [hfound]

/-- Reading undoes writing. -/
theorem readsAs_shortest (tie : TieRule) (hfinite : x.isFinite = true) :
    x.readsAs (x.shortest tie) = true := by
  rcases shortest_cases tie hfinite with ⟨hzero, hd⟩ | ⟨-, d, hd, hreads, -⟩
  · have hmagnitude : x.magnitude = 0 := by rw [← rounded_absolute, hzero, rounded_zero]
    rw [hd, readsAs_iff]
    show zero x.negative = x
    rw [zero, ← hmagnitude, ofMagnitude_magnitude]
  · rw [hd]
    exact readsAs_of_value_eq d.normal_value.symm hreads

theorem shortest_digits_le (tie : TieRule) (hfinite : x.isFinite = true) :
    (x.shortest tie).digits ≤ 10 ^ 17 := by
  rcases shortest_cases tie hfinite with ⟨-, hd⟩ | ⟨-, d, hd, -, hdigits, -⟩
  · rw [hd]
    exact Nat.zero_le _
  · rw [hd]
    exact (Decimal.dropZeros_digits_le _ _ _).trans hdigits

theorem rounded_value_of_readsAs {d : Decimal} (hfinite : x.isFinite = true) (h : x.readsAs d = true) :
    rounded d.value = x.magnitude := by
  rw [readsAs_iff, ofDecimal_eq] at h
  rw [← h] at hfinite ⊢
  rw [magnitude_ofRat, min_eq_left (isFinite_ofRat.mp hfinite).le]

/-- A power of ten is no part of a numeral that reads as a finite double unless it is finite itself. -/
theorem exponent_le_of_readsAs {d : Decimal} (hfinite : x.isFinite = true) (h : x.readsAs d = true)
    (hdigits : 0 < d.digits) : d.exponent ≤ 308 := by
  have hrounded := rounded_value_of_readsAs hfinite h
  have hmagnitude := isFinite_iff.mp hfinite
  by_contra hlarge
  have hpower : (2 : ℚ) ^ 1024 ≤ 10 ^ d.exponent := by
    calc (2 : ℚ) ^ 1024 = 2 * (2 ^ 93) ^ 11 := by rw [← pow_mul, ← pow_succ']
      _ ≤ 10 * (10 ^ 28) ^ 11 := by
          gcongr
          · norm_num
          · norm_num
      _ = 10 ^ (309 : Int) := by
          rw [← pow_mul, ← pow_succ']
          exact (zpow_natCast 10 309).symm
      _ ≤ 10 ^ d.exponent := zpow_le_zpow_right₀ (by norm_num) (by omega)
  have hvalue : (2 : ℚ) ^ 1024 ≤ d.value := by
    have hone : (1 : ℚ) ≤ d.digits := by exact_mod_cast hdigits
    exact hpower.trans (le_mul_of_one_le_left (ten_zpow_pos _).le hone)
  have := infinityMagnitude_le_rounded hvalue
  omega

theorem leadingExponent_lower (hpos : 0 < x.absolute) : -358 ≤ leadingExponent x.ratio.1 x.ratio.2 := by
  obtain ⟨e, hscale, -, -, -⟩ := x.exists_magnitude
  have hhigh := (absolute_bounds hpos).2
  have hsignificand : (1 : ℚ) ≤ x.significand := by
    exact_mod_cast Nat.pos_of_ne_zero (mt absolute_eq_zero_iff.mpr hpos.ne')
  have hleast : (2 : ℚ) ^ (-1074 : Int) ≤ x.absolute := by
    calc (2 : ℚ) ^ (-1074 : Int) ≤ 2 ^ x.scale := zpow_le_zpow_right₀ one_le_two (by omega)
      _ ≤ x.absolute := le_mul_of_one_le_left (two_zpow_pos _).le hsignificand
  have hpower : (10 : ℚ) ^ (-358 : Int) ≤ 2 ^ (-1074 : Int) := by
    rw [zpow_neg, zpow_neg]
    apply inv_anti₀ (two_zpow_pos 1074)
    exact_mod_cast two_pow_le_ten_pow (a := 1074) (b := 358) (by decide)
  by_contra hsmall
  have hupper : (10 : ℚ) ^ (leadingExponent x.ratio.1 x.ratio.2 + 1) ≤ 10 ^ (-358 : Int) :=
    zpow_le_zpow_right₀ (by norm_num) (by omega)
  exact absurd hhigh (not_lt.mpr ((hupper.trans hpower).trans hleast))

theorem shortest_digits_pos (tie : TieRule) (hfinite : x.isFinite = true) (hpos : 0 < x.absolute) :
    0 < (x.shortest tie).digits := by
  have hrounded := rounded_value_of_readsAs hfinite (readsAs_shortest tie hfinite)
  obtain ⟨e, -, hmagnitude, -, -⟩ := x.exists_magnitude
  apply Nat.pos_of_ne_zero
  intro hdigits
  rw [Decimal.value, hdigits, Nat.cast_zero, zero_mul, rounded_zero] at hrounded
  exact mt absolute_eq_zero_iff.mpr hpos.ne' (by omega)

/-- The exponents that are written. -/
theorem shortest_exponent_bounds (tie : TieRule) (hfinite : x.isFinite = true) :
    -374 ≤ (x.shortest tie).exponent ∧ (x.shortest tie).exponent ≤ 308 := by
  rcases shortest_cases tie hfinite with ⟨-, hd⟩ | ⟨hpos, d, hd, -, -, hge⟩
  · rw [hd]
    decide
  · have hlow := leadingExponent_lower hpos
    have hnormal : d.exponent ≤ d.normal.exponent := Decimal.dropZeros_exponent_le _ _ _
    refine ⟨by rw [hd]; omega, ?_⟩
    exact exponent_le_of_readsAs hfinite (readsAs_shortest tie hfinite)
      (shortest_digits_pos tie hfinite hpos)

end Binary64

end RecordMapping
