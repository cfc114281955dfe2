import RecordMapping.Proofs.DocumentNumbers

/-!
# RecordMapping.Proofs.ReadingError — how far a number in a document is read from what it writes

Digits and power of ten are rounded before they are multiplied or divided, and the result once more, or
twice if the power is too small for a double.  `Near k m` counts the units in which such errors are
measured; each rounding adds one (`near_ofRat`), and products, quotients and chains add up
(`Near.mul`, `Near.div`, `Near.trans`).
-/

namespace RecordMapping

namespace Binary64

variable {k l m n : Nat} {a b c p q : ℚ}

/-- `a` is off from `b` by at most `k` times `2 ^ -53` of `b` and `m` halves of the least double. -/
def Near (k m : Nat) (a b : ℚ) : Prop := |a - b| ≤ k * (b / 2 ^ 53) + m * 2 ^ (-1075 : Int)

theorem near_ofRat {negative : Bool} {r : ℚ} (hr : 0 ≤ r) (hfinite : (ofRat negative r).isFinite = true) :
    Near 1 1 (ofRat negative r).absolute r := by
  unfold Near
  rw [Nat.cast_one, one_mul, one_mul]
  rcases hr.eq_or_lt with rfl | hr
  · have := two_zpow_pos (-1075)
    rw [absolute_ofRat_zero, sub_zero, abs_zero]
    positivity
  · exact abs_absolute_ofRat_sub_le hr hfinite

/-- From one on there are 53 bits for a number. -/
theorem near_ofRat_of_one_le {negative : Bool} {r : ℚ} (hr : 1 ≤ r)
    (hfinite : (ofRat negative r).isFinite = true) : Near 1 0 (ofRat negative r).absolute r := by
  unfold Near
  rw [Nat.cast_one, one_mul, Nat.cast_zero, zero_mul, add_zero]
  exact abs_absolute_ofRat_sub_le_of_one_le hr hfinite

theorem Near.mono (h : Near k m a b) (hb : 0 ≤ b) (hk : k ≤ l) (hm : m ≤ n) : Near l n a b := by
  have hleast := two_zpow_pos (-1075)
  unfold Near at *
  refine h.trans ?_
  gcongr

theorem Near.trans (h : Near k m a b) (h' : Near l n b c) (hc : 0 ≤ c) (hk : k ≤ 16) (hl : l ≤ 16)
    (hn : n ≤ 16) : Near (k + l + 1) (m + n + 1) a c := by
  unfold Near at *
  have hk : (k : ℚ) ≤ 16 := by exact_mod_cast hk
  have hl : (l : ℚ) ≤ 16 := by exact_mod_cast hl
  have hn : (n : ℚ) ≤ 16 := by exact_mod_cast hn
  have hleast := two_zpow_pos (-1075)
  generalize (2 : ℚ) ^ (-1075 : Int) = least at *
  have htriangle : |a - c| ≤ |a - b| + |b - c| := abs_sub_le a b c
  have hb : b ≤ c + (l * (c / 2 ^ 53) + n * least) := by linarith [(abs_le.mp h').2]
  have hoff : l * (c / 2 ^ 53) + n * least ≤ 16 * (c / 2 ^ 53) + 16 * least := by gcongr
  -- the error of an error is less than one unit
  have hkb : k * (b / 2 ^ 53) ≤ k * (c / 2 ^ 53) + c / 2 ^ 53 + least := by
    calc k * (b / 2 ^ 53) ≤ k * ((c + (16 * (c / 2 ^ 53) + 16 * least)) / 2 ^ 53) := by
          gcongr
          linarith
      _ = k * (c / 2 ^ 53) + k * ((16 * (c / 2 ^ 53) + 16 * least) / 2 ^ 53) := by ring
      _ ≤ k * (c / 2 ^ 53) + 16 * ((16 * (c / 2 ^ 53) + 16 * least) / 2 ^ 53) := by gcongr
      _ ≤ k * (c / 2 ^ 53) + c / 2 ^ 53 + least := by linarith
  push_cast
  linarith

/-- Numbers that are off by a part of themselves alone are multiplied. -/
theorem Near.mul (h : Near k 0 a b) (h' : Near l 0 p q) (hb : 0 ≤ b) (hq : 0 ≤ q) (hk : k ≤ 16)
    (hl : l ≤ 16) : Near (k + l + 1) 0 (a * p) (b * q) := by
  unfold Near at *
  have hk : (k : ℚ) ≤ 16 := by exact_mod_cast hk
  have hl : (l : ℚ) ≤ 16 := by exact_mod_cast hl
  simp only [Nat.cast_zero, zero_mul, add_zero] at *
  have hsplit : a * p - b * q = (a - b) * (p - q) + (a - b) * q + b * (p - q) := by ring
  have hboth : |a - b| * |p - q| ≤ b * q / 2 ^ 53 := by
    calc |a - b| * |p - q| ≤ 16 * (b / 2 ^ 53) * (16 * (q / 2 ^ 53)) := by
          gcongr
          · exact h.trans (by gcongr)
          · exact h'.trans (by gcongr)
      _ = b * q * (256 / 2 ^ 106) := by ring
      _ ≤ b * q * (1 / 2 ^ 53) := mul_le_mul_of_nonneg_left (by norm_num) (by positivity)
      _ = b * q / 2 ^ 53 := by ring
  calc |a * p - b * q| ≤ |a - b| * |p - q| + |a - b| * q + b * |p - q| := by
        rw [hsplit]
        refine (abs_add_three _ _ _).trans ?_
        rw [abs_mul, abs_mul, abs_mul, abs_of_nonneg hq, abs_of_nonneg hb]
    _ ≤ b * q / 2 ^ 53 + k * (b / 2 ^ 53) * q + b * (l * (q / 2 ^ 53)) := by gcongr
    _ = ((k + l + 1 : Nat) : ℚ) * (b * q / 2 ^ 53) := by
        push_cast
        ring

/-- The divisor is off by a part of itself alone, and no less than one. -/
theorem Near.div (h : Near k m a b) (h' : Near l 0 p q) (hb : 0 ≤ b) (hq : 1 ≤ q) (hk : k ≤ 16)
    (hl : l ≤ 16) (hm : m ≤ 16) : Near (k + l + 1) (m + 1) (a / p) (b / q) := by
  unfold Near at *
  have hk : (k : ℚ) ≤ 16 := by exact_mod_cast hk
  have hl : (l : ℚ) ≤ 16 := by exact_mod_cast hl
  have hm : (m : ℚ) ≤ 16 := by exact_mod_cast hm
  have hleast := two_zpow_pos (-1075)
  generalize (2 : ℚ) ^ (-1075 : Int) = least at *
  have hqpos : 0 < q := one_pos.trans_le hq
  obtain ⟨w, rfl⟩ : ∃ w, b = w * q := ⟨b / q, (div_mul_cancel₀ b hqpos.ne').symm⟩
  have hw : 0 ≤ w := nonneg_of_mul_nonneg_left hb hqpos
  rw [Nat.cast_zero, zero_mul, add_zero] at h'
  have hp : q * (1 - 16 / 2 ^ 53) ≤ p := by
    have hle : l * (q / 2 ^ 53) ≤ 16 * (q / 2 ^ 53) := by gcongr
    linarith [(abs_le.mp h').1]
  have hppos : 0 < p := lt_of_lt_of_le (by positivity) hp
  have hsplit : a / p - w * q / q = (a - w * q - w * (p - q)) / p := by
    field_simp
    ring
  have hunits : (k : ℚ) + l ≤ (k + l + 1) * (1 - 16 / 2 ^ 53) := by linarith
  have hleasts : (m : ℚ) ≤ (m + 1) * (1 - 16 / 2 ^ 53) := by linarith
  rw [hsplit, abs_div, abs_of_pos hppos, div_le_iff₀ hppos, mul_div_cancel_right₀ w hqpos.ne']
  push_cast
  calc |a - w * q - w * (p - q)| ≤ |a - w * q| + w * |p - q| := by
        refine (abs_sub _ _).trans_eq ?_
        rw [abs_mul, abs_of_nonneg hw]
    _ ≤ (k * (w * q / 2 ^ 53) + m * least) + w * (l * (q / 2 ^ 53)) := by gcongr
    _ = (k + l) * (w / 2 ^ 53 * q) + m * least * 1 := by ring
    _ ≤ (k + l + 1) * (1 - 16 / 2 ^ 53) * (w / 2 ^ 53 * q) + (m + 1) * (1 - 16 / 2 ^ 53) * least * q := by
        gcongr
    _ = ((k + l + 1) * (w / 2 ^ 53) + (m + 1) * least) * (q * (1 - 16 / 2 ^ 53)) := by ring
    _ ≤ ((k + l + 1) * (w / 2 ^ 53) + (m + 1) * least) * p := by gcongr

end Binary64

open Binary64

namespace JsonNumber

variable {digits : Nat} {x y : Binary64}

theorem isFinite_powerOfTen {n : Nat} (h : n ≤ greatestPower) : (powerOfTen n).isFinite = true := by
  have hmax : (powerOfTen greatestPower).isFinite = true := by decide +kernel
  rw [powerOfTen_eq] at hmax ⊢
  exact isFinite_ofRat_of_le (by positivity) (pow_le_pow_right₀ (by norm_num) h) hmax

theorem near_powerOfTen {n : Nat} (h : n ≤ greatestPower) : Near 1 0 (powerOfTen n).absolute (10 ^ n) := by
  have hfinite := isFinite_powerOfTen h
  rw [powerOfTen_eq] at hfinite ⊢
  exact near_ofRat_of_one_le (one_le_pow₀ (by norm_num)) hfinite

theorem near_ofInt (hdigits : 0 < digits) (hlimit : digits ≤ 10 ^ 17) :
    Near 1 0 (Binary64.ofInt digits).absolute digits := by
  have hfinite := isFinite_ofInt_of_le hlimit
  rw [ofInt_natCast] at hfinite ⊢
  exact near_ofRat_of_one_le (by exact_mod_cast hdigits) hfinite

/-- One more division by a power of ten, rounded. -/
theorem near_div_powerOfTen {k m n : Nat} {v : ℚ} (hsign : x.negative = false)
    (hfinite : x.isFinite = true) (hx : Near k m x.absolute v) (hv : 0 ≤ v) (hk : k ≤ 8) (hm : m ≤ 8)
    (hn : n ≤ greatestPower) : Near (k + 4) (m + 3) (x.div (powerOfTen n)).absolute (v / 10 ^ n) := by
  have hten : (1 : ℚ) ≤ 10 ^ n := one_le_pow₀ (by norm_num)
  have hquotient := hx.div (near_powerOfTen hn) hv hten (by omega) (by omega) (by omega)
  have hnonneg := x.absolute_nonneg
  have hpower := (powerOfTen n).absolute_nonneg
  have hdiv := (isFinite_div_powerOfTen hsign hfinite n).1
  rw [div_powerOfTen hsign] at hdiv ⊢
  have hrounded := near_ofRat (by positivity) hdiv
  have h := hrounded.trans hquotient (by positivity) (by omega) (by omega) (by omega)
  exact h.mono (by positivity) (by omega) (by omega)

theorem one_le_absolute_ofInt (hdigits : 0 < digits) : 1 ≤ (Binary64.ofInt digits).absolute := by
  rw [ofInt_natCast]
  exact one_le_absolute_ofRat (by exact_mod_cast hdigits)

/-- A power that is no double is divided by in two steps. -/
theorem scaled_neg_of_gt {n : Nat} (hdigits : 0 < digits) (hn : greatestPower < n)
    (hlimit : n ≤ greatestPower + greatestPower) :
    scaled digits (-(n : Int)) =
      some (((Binary64.ofInt digits).div (powerOfTen greatestPower)).div
        (powerOfTen (n - greatestPower))) := by
  have hzero : (Binary64.ofInt digits).isZero = false := by
    have hsignificand : (Binary64.ofInt digits).significand ≠ 0 :=
      mt absolute_eq_zero_iff.mpr (one_pos.trans_le (one_le_absolute_ofInt hdigits)).ne'
    simp [isZero, hsignificand]
  obtain ⟨m, rfl⟩ := Nat.exists_eq_add_one_of_ne_zero (by omega : n ≠ 0)
  show scaled digits (.negSucc m) = _
  have hrest : m + 1 - greatestPower ≤ greatestPower := by omega
  simp only [scaled, scaleDown, if_neg (not_le.mpr hn), hzero, Bool.false_eq_true, if_false,
    if_pos hrest]

theorem near_scaled_natCast {n : Nat} (hdigits : 0 < digits) (hlimit : digits ≤ 10 ^ 17)
    (hn : n ≤ greatestPower) (hfinite : ((Binary64.ofInt digits).mul (powerOfTen n)).isFinite = true) :
    Near 9 6 ((Binary64.ofInt digits).mul (powerOfTen n)).absolute (digits * 10 ^ n) := by
  have hproduct := (near_ofInt hdigits hlimit).mul (near_powerOfTen hn) (by positivity) (by positivity)
    (by omega) (by omega)
  have hone : 1 ≤ (Binary64.ofInt digits).absolute * (powerOfTen n).absolute :=
    one_le_mul_of_one_le_of_one_le (one_le_absolute_ofInt hdigits) (one_le_absolute_powerOfTen n)
  rw [mul_powerOfTen (negative_ofInt_natCast digits)] at hfinite ⊢
  have hrounded := near_ofRat_of_one_le hone hfinite
  have h := hrounded.trans hproduct (by positivity) (by omega) (by omega) (by omega)
  exact h.mono (by positivity) (by omega) (by omega)

theorem near_scaled_neg {n : Nat} (hdigits : 0 < digits) (hlimit : digits ≤ 10 ^ 17) (hpos : 0 < n)
    (hn : n ≤ greatestPower + greatestPower) (hy : scaled digits (-(n : Int)) = some y) :
    Near 9 6 y.absolute (digits / 10 ^ n) := by
  have hread := near_ofInt hdigits hlimit
  have hsign := negative_ofInt_natCast digits
  have hfinite := isFinite_ofInt_of_le hlimit
  rcases le_or_gt n greatestPower with hsmall | hlarge
  · rw [scaled_neg hpos hsmall] at hy
    obtain rfl := Option.some.inj hy
    have h := near_div_powerOfTen hsign hfinite hread (by positivity) (by omega) (by omega) hsmall
    exact h.mono (by positivity) (by omega) (by omega)
  · rw [scaled_neg_of_gt hdigits hlarge hn] at hy
    obtain rfl := Option.some.inj hy
    obtain ⟨hfinite', hsign'⟩ := isFinite_div_powerOfTen hsign hfinite greatestPower
    have h := near_div_powerOfTen hsign hfinite hread (by positivity) (by omega) (by omega) le_rfl
    have h := near_div_powerOfTen hsign' hfinite' h (by positivity) (by omega) (by omega)
      (by omega : n - greatestPower ≤ greatestPower)
    have hpower : (10 : ℚ) ^ n = 10 ^ greatestPower * 10 ^ (n - greatestPower) := by
      rw [← pow_add, Nat.add_sub_cancel' hlarge.le]
    rw [hpower, ← div_div]
    exact h.mono (by positivity) (by omega) (by omega)

/-- The errors of reading add up to less than ten units. -/
theorem near_scaled {e : Int} (hdigits : 0 < digits) (hlimit : digits ≤ 10 ^ 17)
    (hlow : -616 ≤ e) (hhigh : e ≤ greatestPower) (hy : scaled digits e = some y)
    (hfinite : y.isFinite = true) : Near 9 6 y.absolute (⟨digits, e⟩ : Decimal).value := by
  rcases le_or_gt 0 e with hnonneg | hnegative
  · obtain ⟨n, rfl⟩ := Int.eq_ofNat_of_zero_le hnonneg
    have hn : n ≤ greatestPower := by omega
    obtain rfl : y = (Binary64.ofInt digits).mul (powerOfTen n) := by
      simp only [scaled, if_pos hn] at hy
      split at hy
      · cases hy
      · exact (Option.some.inj hy).symm
    rw [Decimal.value, zpow_natCast]
    exact near_scaled_natCast hdigits hlimit hn hfinite
  · obtain ⟨n, rfl⟩ := Int.exists_eq_neg_ofNat hnegative.le
    have hlimit' : n ≤ greatestPower + greatestPower := by
      unfold greatestPower
      omega
    rw [Decimal.value, zpow_neg, zpow_natCast, ← div_eq_mul_inv]
    exact near_scaled_neg hdigits hlimit (by omega) hlimit' hy

/-! ### Written doubles -/

theorem near_ofBinary64 (hfinite : x.isFinite = true) (hpos : 0 < x.absolute)
    (hread : (ofBinary64 x).magnitude? = some y) (hy : y.isFinite = true) :
    Near 9 6 y.absolute (x.shortest style.tie).value := by
  obtain ⟨hvalue, hdigits, hlow, hhigh⟩ := decimal_ofBinary64 hfinite
  have hsome : 0 < (ofBinary64 x).decimal.digits := by
    apply Nat.pos_of_ne_zero
    intro hzero
    have hten := Decimal.ten_zpow_pos (x.shortest style.tie).exponent
    have hsome : (0 : ℚ) < (x.shortest style.tie).digits := by
      exact_mod_cast shortest_digits_pos style.tie hfinite hpos
    have hshortest : 0 < (x.shortest style.tie).value := mul_pos hsome hten
    rw [← hvalue, Decimal.value, hzero, Nat.cast_zero, zero_mul] at hshortest
    exact hshortest.false
  rw [magnitude?_ofBinary64 hfinite] at hread
  rw [← hvalue]
  exact near_scaled hsome hdigits (hlow.trans' (by decide)) hhigh hread hy

/-- A written double is read with a relative error of `2 ^ -49` at most, but for four of the least
doubles. -/
theorem abs_absolute_sub_le (hfinite : x.isFinite = true) (hread : (ofBinary64 x).magnitude? = some y)
    (hy : y.isFinite = true) :
    |y.absolute - x.absolute| ≤ x.absolute / 2 ^ 49 + 2 ^ (-1072 : Int) := by
  rcases shortest_cases style.tie hfinite with ⟨-, hzero⟩ | ⟨hpos, -⟩
  · have hshort : (ofBinary64 x).IsShort := by
      have hdecimal : ∀ negative, (ofDecimal negative ⟨0, 0⟩).IsShort := by decide
      rw [ofBinary64, hzero]
      exact hdecimal x.negative
    rw [magnitude?_ofBinary64_of_isShort hfinite hshort] at hread
    obtain rfl := Option.some.inj hread
    have hleast := two_zpow_pos (-1072)
    have hnonneg := x.absolute_nonneg
    rw [absolute_congr (magnitude_ofMagnitude x.magnitude_lt), sub_self, abs_zero]
    positivity
  · have hreads := readsAs_shortest style.tie hfinite
    have hvalue := (x.shortest style.tie).value_nonneg
    have hwritten : Near 1 1 x.absolute (x.shortest style.tie).value := by
      rw [readsAs_iff, ofDecimal_eq] at hreads
      have h := @near_ofRat x.negative _ hvalue (by rwa [hreads])
      rwa [hreads] at h
    have hread := near_ofBinary64 hfinite hpos hread hy
    unfold Near at hwritten hread
    generalize (x.shortest style.tie).value = v at *
    have height : (2 : ℚ) ^ (3 : Int) = 8 := by norm_num
    have hleast : (2 : ℚ) ^ (-1072 : Int) = 8 * 2 ^ (-1075 : Int) := by
      rw [← height, ← zpow_add₀ two_ne_zero]
      rfl
    have hpos := two_zpow_pos (-1075)
    rw [hleast]
    generalize (2 : ℚ) ^ (-1075 : Int) = least at *
    have htriangle := abs_sub_le y.absolute v x.absolute
    rw [abs_sub_comm v] at htriangle
    have hlow := (abs_le.mp hwritten).1
    push_cast at hwritten hread hlow
    linarith

end JsonNumber

end RecordMapping
