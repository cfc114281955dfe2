import RecordMapping.Proofs.ExactDoubles
import Mathlib.Data.Int.Log
import Mathlib.Data.Rat.Floor
import Mathlib.Tactic.Linarith

/-!
# RecordMapping.Proofs.Rounding — rounding is a function of the number

`Binary64.ofRatio` works on a quotient of integers, but the double depends on the rational number alone:
it is `ofRat`, as are the product and the quotient of doubles (`ofRatio_eq`, `mul_eq`, `div_eq`).  Rounding
is monotone (`rounded_mono`), leaves doubles as they are (`ofRat_absolute`), takes what is less than
`2 ^ -54` of a double away from it back to the double (`rounded_of_near`), and moves no number by more than
`2 ^ -53` of itself or half of the least double (`abs_absolute_ofRat_sub_le`).
-/

namespace RecordMapping.Binary64

variable {r s : ℚ}

/-! ### The nearest integer -/

/-- `k` is nearest to `r`, and even if another integer is as near. -/
def IsNearest (r : ℚ) (k : Nat) : Prop := |r - k| ≤ 1 / 2 ∧ (|r - k| = 1 / 2 → k % 2 = 0)

theorem IsNearest.mono {k l : Nat} (h : IsNearest r k) (h' : IsNearest s l) (hrs : r ≤ s) : k ≤ l := by
  by_contra hlt
  obtain ⟨hr, hkeven⟩ := h
  obtain ⟨hs, hleven⟩ := h'
  have hcast : (l : ℚ) + 1 ≤ k := by exact_mod_cast not_le.mp hlt
  have hlow := (abs_le.mp hr).1
  have hhigh := (abs_le.mp hs).2
  -- both are as far away as can be, halfway between `l` and `k = l + 1`
  have hkr : r - k = -(1 / 2) := by linarith
  have hls : s - l = 1 / 2 := by linarith
  have hk : (k : ℚ) = l + 1 := by linarith
  have hk : k = l + 1 := by exact_mod_cast hk
  have := hkeven (by rw [hkr]; norm_num)
  have := hleven (by rw [hls]; norm_num)
  omega

theorem IsNearest.unique {k l : Nat} (h : IsNearest r k) (h' : IsNearest r l) : k = l :=
  le_antisymm (h.mono h' le_rfl) (h'.mono h le_rfl)

theorem isNearest_of_lt {k : Nat} (h : |r - k| < 1 / 2) : IsNearest r k :=
  ⟨h.le, fun heq => absurd heq h.ne⟩

theorem isNearest_divideNearest {n d : Nat} (hd : 0 < d) :
    IsNearest ((n : ℚ) / d) (divideNearest n d) := by
  have hd' : (0 : ℚ) < d := by exact_mod_cast hd
  have hn : (n : ℚ) / d = (n / d : Nat) + (n % d : Nat) / d := by
    rw [div_eq_iff hd'.ne', add_mul, div_mul_cancel₀ _ hd'.ne']
    exact_mod_cast (Nat.div_add_mod' n d).symm
  have hrem : 0 ≤ ((n % d : Nat) : ℚ) / d := by positivity
  have hhalf : ((n % d : Nat) : ℚ) / d < 1 / 2 ↔ 2 * (n % d) < d := by
    rw [div_lt_div_iff₀ hd' two_pos]
    norm_cast
    omega
  have hhalf' : (1 : ℚ) / 2 < ((n % d : Nat) : ℚ) / d ↔ d < 2 * (n % d) := by
    rw [div_lt_div_iff₀ two_pos hd']
    norm_cast
    omega
  have hlt : ((n % d : Nat) : ℚ) / d < 1 := by
    rw [div_lt_one hd']
    exact_mod_cast Nat.mod_lt n hd
  unfold divideNearest
  dsimp only
  rw [hn]
  by_cases hless : 2 * (n % d) < d
  · have := hhalf.mpr hless
    rw [if_pos hless]
    apply isNearest_of_lt
    rw [abs_lt]
    constructor <;> linarith
  · rw [if_neg hless]
    by_cases hmore : d < 2 * (n % d)
    · have := hhalf'.mpr hmore
      rw [if_pos hmore]
      apply isNearest_of_lt
      push_cast
      rw [abs_lt]
      constructor <;> linarith
    · have hle := not_lt.mp (mt hhalf.mp hless)
      have hge := not_lt.mp (mt hhalf'.mp hmore)
      have heq : ((n % d : Nat) : ℚ) / d = 1 / 2 := le_antisymm hge hle
      rw [if_neg hmore, heq]
      by_cases heven : n / d % 2 = 0
      · rw [if_pos heven]
        refine ⟨?_, fun _ => heven⟩
        norm_num
      · rw [if_neg heven]
        refine ⟨?_, fun _ => by omega⟩
        push_cast
        rw [abs_le]
        constructor <;> linarith

/-- The integer nearest to a number that is not negative. -/
def nearest (r : ℚ) : Nat := divideNearest r.num.toNat r.den

theorem isNearest_nearest (hr : 0 ≤ r) : IsNearest r (nearest r) := by
  have hnum : (r.num.toNat : ℚ) = r.num := by
    exact_mod_cast Int.toNat_of_nonneg (Rat.num_nonneg.mpr hr)
  have := isNearest_divideNearest (n := r.num.toNat) r.den_pos
  rwa [hnum, Rat.num_div_den] at this

theorem nearest_eq {k : Nat} (h : IsNearest r k) (hr : 0 ≤ r) : nearest r = k :=
  (isNearest_nearest hr).unique h

theorem nearest_mono (hr : 0 ≤ r) (hrs : r ≤ s) : nearest r ≤ nearest s :=
  (isNearest_nearest hr).mono (isNearest_nearest (hr.trans hrs)) hrs

@[simp] theorem nearest_natCast (k : Nat) : nearest k = k :=
  nearest_eq (isNearest_of_lt (by norm_num)) (Nat.cast_nonneg k)

theorem le_nearest {k : Nat} (h : (k : ℚ) ≤ r) : k ≤ nearest r := by
  have := nearest_mono (Nat.cast_nonneg k) h
  rwa [nearest_natCast] at this

theorem nearest_le {k : Nat} (hr : 0 ≤ r) (h : r ≤ k) : nearest r ≤ k := by
  have := nearest_mono hr h
  rwa [nearest_natCast] at this

/-! ### The grid -/

/-- The exponent of the grid of doubles around a positive number. -/
def grid (r : ℚ) : Int := max (Int.log 2 r - 52) (-1074)

theorem cast_fractionLimit : (fractionLimit : ℚ) = 2 ^ 52 := by norm_num [fractionLimit]

theorem log_eq {k l : Int} (hr : 0 < r) (hlow : (2 : ℚ) ^ k ≤ r) (hhigh : r < 2 ^ l) (hl : l = k + 1) :
    Int.log 2 r = k := by
  have := (Int.zpow_le_iff_le_log (b := 2) one_lt_two hr).mp (by exact_mod_cast hlow)
  have := (Int.lt_zpow_iff_log_lt (b := 2) one_lt_two hr).mp (by exact_mod_cast hhigh)
  omega

theorem unscale_den_pos (num : Nat) {den : Nat} (hden : 0 < den) (e : Int) : 0 < (unscale num den e).2 := by
  cases e with
  | ofNat e => simp [unscale, Nat.shiftLeft_eq, hden]
  | negSucc e => exact hden

theorem unscale_eq (num den : Nat) (e : Int) :
    ((unscale num den e).1 : ℚ) / (unscale num den e).2 = num / den / 2 ^ e := by
  cases e with
  | ofNat e => simp [unscale, Nat.shiftLeft_eq, div_mul_eq_div_div]
  | negSucc e => simp [unscale, Nat.shiftLeft_eq, zpow_negSucc, mul_div_right_comm]

theorem zpow_log2_le {n : Nat} (hn : 0 < n) : (2 : ℚ) ^ (n.log2 : Int) ≤ n := by
  rw [zpow_natCast]
  exact_mod_cast Nat.log2_self_le hn.ne'

theorem lt_zpow_log2 (n : Nat) : (n : ℚ) < 2 ^ ((n.log2 : Int) + 1) := by
  have h : n < 2 ^ (n.log2 + 1) := Nat.lt_log2_self
  exact_mod_cast h

theorem gridExponent_eq {num den : Nat} (hnum : 0 < num) (hden : 0 < den) :
    gridExponent num den = grid (num / den) := by
  have hden' : (0 : ℚ) < den := by exact_mod_cast hden
  have hr : (0 : ℚ) < num / den := by positivity
  have htwo : (2 : ℚ) ≠ 0 := two_ne_zero
  -- the lengths of the two numbers leave a choice of two exponents
  set g : Int := (Nat.log2 num : Int) - (Nat.log2 den : Int) - 53 with hg
  have hlow : (2 : ℚ) ^ (g + 52) ≤ num / den := by
    rw [show g + 52 = Nat.log2 num - (Nat.log2 den + 1) by omega, zpow_sub₀ htwo]
    exact div_le_div₀ (Nat.cast_nonneg num) (zpow_log2_le hnum) hden' (lt_zpow_log2 den).le
  have hhigh : (num : ℚ) / den < 2 ^ (g + 54) := by
    rw [show g + 54 = Nat.log2 num + 1 - Nat.log2 den by omega, zpow_sub₀ htwo]
    exact div_lt_div₀ (lt_zpow_log2 num) (zpow_log2_le hden) (by positivity) (by positivity)
  have hsmall : (unscale num den g).1 / (unscale num den g).2 < 2 * fractionLimit ↔
      (num : ℚ) / den < 2 ^ (g + 53) := by
    have hpos := unscale_den_pos num hden g
    have hpos' : (0 : ℚ) < (unscale num den g).2 := by exact_mod_cast hpos
    rw [Nat.div_lt_iff_lt_mul hpos, ← Nat.cast_lt (α := ℚ), Nat.cast_mul, ← div_lt_iff₀ hpos',
      unscale_eq, div_lt_iff₀ (two_zpow_pos g), add_comm g, zpow_add₀ htwo, Nat.cast_mul,
      cast_fractionLimit]
    norm_num
  have hlog : (if (unscale num den g).1 / (unscale num den g).2 < 2 * fractionLimit then g else g + 1) =
      Int.log 2 ((num : ℚ) / den) - 52 := by
    split
    case isTrue h =>
      rw [log_eq hr hlow (hsmall.mp h) (by ring)]
      omega
    case isFalse h =>
      rw [log_eq hr (not_lt.mp (mt hsmall.mpr h)) hhigh (by ring)]
      omega
  unfold grid
  rw [← hlog]
  rfl

/-- On its grid a positive number has at most 53 bits. -/
theorem div_zpow_grid_lt (r : ℚ) : r / 2 ^ grid r < 2 * fractionLimit := by
  have hlog := Int.lt_zpow_succ_log_self (b := 2) one_lt_two r
  have hgrid : Int.log 2 r + 1 ≤ 53 + grid r := by
    unfold grid
    omega
  rw [div_lt_iff₀ (two_zpow_pos _)]
  calc r < (2 : ℚ) ^ (Int.log 2 r + 1) := by exact_mod_cast hlog
    _ ≤ 2 ^ (53 + grid r) := zpow_le_zpow_right₀ one_le_two hgrid
    _ = 2 * fractionLimit * 2 ^ grid r := by
      rw [zpow_add₀ two_ne_zero, cast_fractionLimit]
      norm_num

/-- It has no fewer unless the grid is the finest. -/
theorem le_div_zpow_grid (hr : 0 < r) (hgrid : -1074 < grid r) :
    (fractionLimit : ℚ) ≤ r / 2 ^ grid r := by
  have hlog := Int.zpow_log_le_self (b := 2) one_lt_two hr
  have heq : Int.log 2 r = 52 + grid r := by
    unfold grid at *
    omega
  rw [le_div_iff₀ (two_zpow_pos _)]
  calc (fractionLimit : ℚ) * 2 ^ grid r = 2 ^ (52 + grid r) := by
        rw [zpow_add₀ two_ne_zero, cast_fractionLimit]
        norm_num
    _ ≤ r := by
        rw [← heq]
        exact_mod_cast hlog

theorem neg_le_grid (r : ℚ) : -1074 ≤ grid r := le_max_right _ _

theorem grid_mono (hr : 0 < r) (hrs : r ≤ s) : grid r ≤ grid s := by
  have := Int.log_mono_right (b := 2) hr hrs
  unfold grid
  omega

/-! ### The rounded number -/

/-- The bits below the sign of the double nearest to a number that is not negative; beyond infinity
they stand for infinity. -/
def rounded (r : ℚ) : Nat :=
  if r = 0 then 0 else (grid r + 1074).toNat * fractionLimit + nearest (r / 2 ^ grid r)

@[simp] theorem rounded_zero : rounded 0 = 0 := if_pos rfl

theorem rounded_of_pos (hr : 0 < r) :
    rounded r = (grid r + 1074).toNat * fractionLimit + nearest (r / 2 ^ grid r) := if_neg hr.ne'

theorem nearest_grid_le (hr : 0 < r) : nearest (r / 2 ^ grid r) ≤ 2 * fractionLimit := by
  have := two_zpow_pos (grid r)
  apply nearest_le (by positivity)
  exact_mod_cast (div_zpow_grid_lt r).le

theorem le_nearest_grid (hr : 0 < r) (hgrid : -1074 < grid r) :
    fractionLimit ≤ nearest (r / 2 ^ grid r) :=
  le_nearest (le_div_zpow_grid hr hgrid)

theorem rounded_mono (hr : 0 ≤ r) (hrs : r ≤ s) : rounded r ≤ rounded s := by
  rcases hr.eq_or_lt with rfl | hr
  · exact Nat.zero_le _
  · have hs := hr.trans_le hrs
    have hlow := neg_le_grid r
    have hpos := two_zpow_pos (grid r)
    rw [rounded_of_pos hr, rounded_of_pos hs]
    rcases (grid_mono hr hrs).eq_or_lt with heq | hlt
    · rw [← heq]
      exact Nat.add_le_add_left (nearest_mono (by positivity) (by gcongr)) _
    · -- a coarser grid starts where the finer one ends
      have hmax := nearest_grid_le hr
      have hmin := le_nearest_grid hs (by omega)
      unfold fractionLimit at *
      omega

/-! ### Doubles are left as they are -/

/-- The grid on which a number has 53 bits, or has fewer and no finer grid has it. -/
theorem grid_eq {e : Nat} (hr : 0 < r) (hlow : e = 0 ∨ (fractionLimit : ℚ) ≤ r / 2 ^ ((e : Int) - 1074))
    (hhigh : r / 2 ^ ((e : Int) - 1074) < 2 * fractionLimit) : grid r = (e : Int) - 1074 := by
  have hpos := two_zpow_pos ((e : Int) - 1074)
  have hupper : Int.log 2 r < e - 1021 := by
    apply (Int.lt_zpow_iff_log_lt one_lt_two hr).mp
    rw [div_lt_iff₀ hpos] at hhigh
    have hexponent : (e : Int) - 1021 = 53 + (e - 1074) := by ring
    rw [cast_fractionLimit] at hhigh
    rw [hexponent, Nat.cast_ofNat, zpow_add₀ two_ne_zero]
    norm_num at hhigh ⊢
    exact hhigh
  unfold grid
  rcases hlow with rfl | hlow
  · omega
  · have hlower : (e : Int) - 1022 ≤ Int.log 2 r := by
      apply (Int.zpow_le_iff_le_log one_lt_two hr).mp
      rw [le_div_iff₀ hpos] at hlow
      have hexponent : (e : Int) - 1022 = 52 + (e - 1074) := by ring
      rw [cast_fractionLimit] at hlow
      rw [hexponent, Nat.cast_ofNat, zpow_add₀ two_ne_zero]
      exact hlow
    omega

theorem rounded_eq {e q : Nat} (hr : 0 < r)
    (hlow : e = 0 ∨ (fractionLimit : ℚ) ≤ r / 2 ^ ((e : Int) - 1074))
    (hhigh : r / 2 ^ ((e : Int) - 1074) < 2 * fractionLimit)
    (hq : IsNearest (r / 2 ^ ((e : Int) - 1074)) q) : rounded r = e * fractionLimit + q := by
  have hpos := two_zpow_pos ((e : Int) - 1074)
  have hexponent : ((e : Int) - 1074 + 1074).toNat = e := by omega
  rw [rounded_of_pos hr, grid_eq hr hlow hhigh, hexponent, nearest_eq hq (by positivity)]

variable {x : Binary64}

theorem exists_magnitude (x : Binary64) :
    ∃ e : Nat, x.scale = (e : Int) - 1074 ∧ x.magnitude = e * fractionLimit + x.significand ∧
      x.significand < 2 * fractionLimit ∧ (e = 0 ∨ fractionLimit ≤ x.significand) := by
  have hbits := x.magnitude_eq
  have hfraction := x.fractionField_lt
  unfold scale significand
  generalize x.exponentField = e, x.fractionField = f at hbits hfraction ⊢
  unfold fractionLimit at *
  refine ⟨e - 1, ?_⟩
  split <;> omega

/-- Below a power of two the doubles are twice as dense, so a number is rounded up to it from half as far
away. -/
theorem rounded_below_power {k : Nat} {t : ℚ} (hlow : 2 ^ 52 - 1 / 4 < t) (hhigh : t < 2 ^ 52) :
    rounded (t * 2 ^ (((k + 1 : Nat) : Int) - 1074)) = (k + 1) * fractionLimit + fractionLimit := by
  have hpos := two_zpow_pos (((k + 1 : Nat) : Int) - 1074)
  have ht : 0 < t := by linarith
  have htwice : t * 2 ^ (((k + 1 : Nat) : Int) - 1074) / 2 ^ ((k : Int) - 1074) = 2 * t := by
    have hk : ((k + 1 : Nat) : Int) - 1074 = 1 + (k - 1074) := by omega
    have hpos' := two_zpow_pos ((k : Int) - 1074)
    rw [hk, zpow_add₀ two_ne_zero, zpow_one]
    field_simp
  have hnearest : IsNearest (2 * t) (2 * fractionLimit) := by
    apply isNearest_of_lt
    rw [Nat.cast_mul, cast_fractionLimit, Nat.cast_ofNat, abs_lt]
    constructor <;> linarith
  rw [rounded_eq (e := k) (q := 2 * fractionLimit) (by positivity)]
  · ring
  · rw [htwice, cast_fractionLimit]
    right
    linarith
  · rw [htwice, cast_fractionLimit]
    linarith
  · rwa [htwice]

/-- A number is rounded to a double that is closer than a quarter of its last place.  Half of the last
place would not do, because of the powers of two. -/
theorem rounded_of_near (hr : 0 < r) (h : |r - x.absolute| < x.absolute / 2 ^ 54) :
    rounded r = x.magnitude := by
  obtain ⟨e, hscale, hmagnitude, hlimit, hnormal⟩ := x.exists_magnitude
  have hpos := two_zpow_pos ((e : Int) - 1074)
  obtain ⟨t, rfl⟩ : ∃ t, r = t * 2 ^ ((e : Int) - 1074) :=
    ⟨r / 2 ^ ((e : Int) - 1074), (div_mul_cancel₀ r hpos.ne').symm⟩
  have ht : t * 2 ^ ((e : Int) - 1074) / 2 ^ ((e : Int) - 1074) = t := mul_div_cancel_right₀ t hpos.ne'
  have hnear : |t - x.significand| < x.significand / 2 ^ 54 := by
    rw [absolute, hscale, ← sub_mul, abs_mul, abs_of_pos hpos, mul_div_right_comm] at h
    exact lt_of_mul_lt_mul_right h hpos.le
  rw [hmagnitude]
  generalize x.significand = q at hnear hlimit hnormal ⊢
  have hq : (q : ℚ) + 1 ≤ 2 * fractionLimit := by exact_mod_cast hlimit
  obtain ⟨hleft, hright⟩ := abs_lt.mp hnear
  rw [cast_fractionLimit] at hq
  by_cases hlow : e = 0 ∨ (fractionLimit : ℚ) ≤ t
  · have hhigh : t < 2 * fractionLimit := by
      rw [cast_fractionLimit]
      linarith
    have hhalf : |t - q| < 1 / 2 := by
      rw [abs_lt]
      constructor <;> linarith
    exact rounded_eq hr (by rwa [ht]) (by rwa [ht]) (by rw [ht]; exact isNearest_of_lt hhalf)
  · -- only a power of two is that near and on a coarser grid
    rw [not_or, not_le, cast_fractionLimit] at hlow
    obtain ⟨he, hlow⟩ := hlow
    have hfraction : fractionLimit ≤ q := hnormal.resolve_left he
    have hqle : (q : ℚ) < 2 ^ 52 + 1 := by linarith
    obtain rfl : q = fractionLimit := by
      have : q < 2 ^ 52 + 1 := by exact_mod_cast hqle
      unfold fractionLimit at *
      omega
    obtain ⟨k, rfl⟩ := Nat.exists_eq_add_one_of_ne_zero he
    rw [cast_fractionLimit] at hleft
    exact rounded_below_power (by linarith) hlow

theorem rounded_absolute (x : Binary64) : rounded x.absolute = x.magnitude := by
  rcases x.absolute_nonneg.eq_or_lt with hzero | hpos
  · have hsignificand : x.significand = 0 := by
      have := two_zpow_pos x.scale
      have h : (x.significand : ℚ) = 0 := by
        unfold absolute at hzero
        exact (mul_eq_zero.mp hzero.symm).resolve_right this.ne'
      exact_mod_cast h
    obtain ⟨e, -, hmagnitude, -, hnormal⟩ := x.exists_magnitude
    rw [← hzero, hmagnitude, hsignificand, rounded_zero]
    unfold fractionLimit at *
    omega
  · apply rounded_of_near hpos
    rw [sub_self, abs_zero]
    positivity

/-! ### The nearest double -/

/-- The double nearest to `± r`, where `r` is not negative.  From half a unit above the largest double on
it is infinite. -/
def ofRat (negative : Bool) (r : ℚ) : Binary64 :=
  ofMagnitude negative (min (rounded r) infinityMagnitude)

variable {negative : Bool}

theorem magnitude_ofRat : (ofRat negative r).magnitude = min (rounded r) infinityMagnitude :=
  magnitude_ofMagnitude ((min_le_right _ _).trans_lt (by decide))

@[simp] theorem negative_ofRat : (ofRat negative r).negative = negative :=
  negative_ofMagnitude ((min_le_right _ _).trans_lt (by decide))

theorem isFinite_ofRat : (ofRat negative r).isFinite = true ↔ rounded r < infinityMagnitude := by
  rw [isFinite_iff, magnitude_ofRat]
  omega

theorem isFinite_ofRat_of_le (hr : 0 ≤ r) (hrs : r ≤ s) (h : (ofRat negative s).isFinite = true) :
    (ofRat negative r).isFinite = true := by
  rw [isFinite_ofRat] at h ⊢
  exact (rounded_mono hr hrs).trans_lt h

/-- A double is nearest to itself. -/
theorem ofRat_absolute (hfinite : x.isFinite = true) : ofRat x.negative x.absolute = x := by
  have hmagnitude := isFinite_iff.mp hfinite
  rw [ofRat, rounded_absolute, min_eq_left hmagnitude.le, ofMagnitude_magnitude]

theorem absolute_ofRat_mono (hr : 0 ≤ r) (hrs : r ≤ s) :
    (ofRat negative r).absolute ≤ (ofRat negative s).absolute := by
  have := rounded_mono hr hrs
  apply absolute_le
  rw [magnitude_ofRat, magnitude_ofRat]
  omega

/-- Rounding does not fall below a double. -/
theorem absolute_le_absolute_ofRat (hfinite : x.isFinite = true) (h : x.absolute ≤ r) :
    x.absolute ≤ (ofRat negative r).absolute := by
  apply absolute_le
  rw [magnitude_ofRat, ← rounded_absolute]
  refine le_min (rounded_mono x.absolute_nonneg h) ?_
  rw [rounded_absolute]
  exact (isFinite_iff.mp hfinite).le

/-- The number on the grid that a number is rounded to. -/
theorem absolute_ofRat (hr : 0 < r) (hfinite : (ofRat negative r).isFinite = true) :
    (ofRat negative r).absolute = nearest (r / 2 ^ grid r) * 2 ^ grid r := by
  have hlow := neg_le_grid r
  have hmagnitude : (ofRat negative r).magnitude = rounded r := by
    rw [magnitude_ofRat, min_eq_left (isFinite_ofRat.mp hfinite).le]
  rw [absolute_of_magnitude (e := (grid r + 1074).toNat) (q := nearest (r / 2 ^ grid r))]
  · congr 2
    omega
  · rw [hmagnitude, rounded_of_pos hr]
  · exact nearest_grid_le hr
  · rcases hlow.eq_or_lt with heq | hlt
    · left
      omega
    · exact .inr (le_nearest_grid hr hlt)

theorem absolute_ofRat_zero : (ofRat negative 0).absolute = 0 := by
  rw [absolute_of_magnitude (e := 0) (q := 0)]
  · simp
  · rw [magnitude_ofRat, rounded_zero]
    rfl
  · exact Nat.zero_le _
  · exact .inl rfl

/-- A number of 53 bits is a whole number on its grid. -/
theorem exists_natCast_eq_div_grid {q : Nat} {e : Int} (hqpos : 0 < q) (hq : q ≤ 2 ^ 53) (he : -1074 ≤ e) :
    ∃ k : Nat, q * (2 : ℚ) ^ e / 2 ^ grid (q * 2 ^ e) = k := by
  have hpos := two_zpow_pos e
  rcases le_or_gt (grid (q * 2 ^ e)) e with hle | hlt
  · refine ⟨q * 2 ^ (e - grid (q * 2 ^ e)).toNat, ?_⟩
    have hexponent : ((e - grid (q * 2 ^ e)).toNat : Int) = e - grid (q * 2 ^ e) := by omega
    push_cast
    rw [← zpow_natCast, hexponent, zpow_sub₀ two_ne_zero, mul_div_assoc]
  · -- only the power of two with one bit more is on a coarser grid
    have hqpos' : (0 : ℚ) < q := by exact_mod_cast hqpos
    have hr : 0 < q * (2 : ℚ) ^ e := by positivity
    have hle := (le_div_iff₀ (two_zpow_pos _)).mp (le_div_zpow_grid hr (by omega))
    have hnext : (2 : ℚ) ^ e * 2 ≤ 2 ^ grid (q * 2 ^ e) := by
      rw [← zpow_add_one₀ two_ne_zero]
      exact zpow_le_zpow_right₀ one_le_two hlt
    rw [cast_fractionLimit] at hle
    have hqge : (2 : ℚ) ^ 53 ≤ q := by
      apply le_of_mul_le_mul_right _ hpos
      linarith
    obtain rfl : q = 2 ^ 53 := hq.antisymm (by exact_mod_cast hqge)
    generalize grid ((2 ^ 53 : Nat) * (2 : ℚ) ^ e) = g at hle hnext ⊢
    rw [Nat.cast_pow, Nat.cast_ofNat] at hle ⊢
    have hg : (2 : ℚ) ^ g = 2 ^ e * 2 := by linarith
    refine ⟨2 ^ 52, ?_⟩
    rw [hg]
    field_simp
    norm_num

/-- So it is a double. -/
theorem absolute_ofRat_mul_zpow {q : Nat} {e : Int} (hq : q ≤ 2 ^ 53) (he : -1074 ≤ e)
    (hfinite : (ofRat negative (q * 2 ^ e)).isFinite = true) :
    (ofRat negative (q * 2 ^ e)).absolute = q * 2 ^ e := by
  rcases Nat.eq_zero_or_pos q with rfl | hqpos
  · rw [Nat.cast_zero, zero_mul, absolute_ofRat_zero]
  · have hqpos' : (0 : ℚ) < q := by exact_mod_cast hqpos
    have hpos := two_zpow_pos e
    have hgrid := two_zpow_pos (grid (q * 2 ^ e))
    obtain ⟨k, hk⟩ := exists_natCast_eq_div_grid hqpos hq he
    rw [absolute_ofRat (by positivity) hfinite, hk, nearest_natCast, ← hk, div_mul_cancel₀ _ hgrid.ne']

theorem half_two_zpow (e : Int) : (2 : ℚ) ^ e / 2 = 2 ^ (e - 1) := by
  rw [zpow_sub_one₀ two_ne_zero, div_eq_mul_inv]

/-- Rounding is off by half a unit of the grid at most. -/
theorem abs_absolute_ofRat_sub_le_half (hr : 0 < r) (hfinite : (ofRat negative r).isFinite = true) :
    |(ofRat negative r).absolute - r| ≤ 2 ^ grid r / 2 := by
  have hgrid := two_zpow_pos (grid r)
  have hnearest := (isNearest_nearest (r := r / 2 ^ grid r) (by positivity)).1
  rw [absolute_ofRat hr hfinite]
  calc |nearest (r / 2 ^ grid r) * 2 ^ grid r - r|
      = |(nearest (r / 2 ^ grid r) - r / 2 ^ grid r) * 2 ^ grid r| := by
        rw [sub_mul, div_mul_cancel₀ _ hgrid.ne']
    _ = |r / 2 ^ grid r - nearest (r / 2 ^ grid r)| * 2 ^ grid r := by
        rw [abs_mul, abs_of_pos hgrid, abs_sub_comm]
    _ ≤ 1 / 2 * 2 ^ grid r := by gcongr
    _ = 2 ^ grid r / 2 := by ring

theorem half_grid_le (hr : 0 < r) (hgrid : -1074 < grid r) : (2 : ℚ) ^ grid r / 2 ≤ r / 2 ^ 53 := by
  have hle := (le_div_iff₀ (two_zpow_pos _)).mp (le_div_zpow_grid hr hgrid)
  rw [cast_fractionLimit] at hle
  linarith

/-- That is half of the last of 53 bits, or half of the least double. -/
theorem abs_absolute_ofRat_sub_le (hr : 0 < r) (hfinite : (ofRat negative r).isFinite = true) :
    |(ofRat negative r).absolute - r| ≤ r / 2 ^ 53 + 2 ^ (-1075 : Int) := by
  refine (abs_absolute_ofRat_sub_le_half hr hfinite).trans ?_
  rcases (neg_le_grid r).eq_or_lt with hleast | hnormal
  · rw [← hleast, half_two_zpow]
    exact le_add_of_nonneg_left (by positivity)
  · exact (half_grid_le hr hnormal).trans (le_add_of_nonneg_right (two_zpow_pos (-1075)).le)

theorem abs_absolute_ofRat_sub_le_of_one_le (hr : 1 ≤ r) (hfinite : (ofRat negative r).isFinite = true) :
    |(ofRat negative r).absolute - r| ≤ r / 2 ^ 53 := by
  have hpos : 0 < r := one_pos.trans_le hr
  have hlog : 0 ≤ Int.log 2 r := by
    apply (Int.zpow_le_iff_le_log one_lt_two hpos).mp
    rwa [zpow_zero]
  have hgrid : -1074 < grid r := by
    unfold grid
    omega
  exact (abs_absolute_ofRat_sub_le_half hpos hfinite).trans (half_grid_le hpos hgrid)

/-! ### What is rounded -/

/-- The double nearest to a quotient depends on the number alone. -/
theorem ofRatio_eq (negative : Bool) (num : Nat) {den : Nat} (hden : 0 < den) :
    ofRatio negative num den = ofRat negative (num / den) := by
  have hden' : (0 : ℚ) < den := by exact_mod_cast hden
  unfold ofRat
  by_cases hnum : num = 0
  · simp [hnum, ofRatio, zero]
  · have hr : (0 : ℚ) < num / den := by
      have : (0 : ℚ) < num := by exact_mod_cast Nat.pos_of_ne_zero hnum
      positivity
    have hnearest (e : Int) :
        divideNearest (unscale num den e).1 (unscale num den e).2 = nearest (num / den / 2 ^ e) := by
      have hpos := two_zpow_pos e
      apply (nearest_eq _ (by positivity)).symm
      rw [← unscale_eq]
      exact isNearest_divideNearest (unscale_den_pos num hden e)
    rw [rounded_of_pos hr, ← hnearest, ← gridExponent_eq (Nat.pos_of_ne_zero hnum) hden]
    simp only [ofRatio, if_neg hnum]

theorem ofInt_natCast (n : Nat) : ofInt n = ofRat false n := by
  have hnegative : decide ((n : Int) < 0) = false := decide_eq_false (by omega)
  rw [ofInt, ofRatio_eq _ _ Nat.one_pos, Int.natAbs_natCast, Nat.cast_one, div_one, hnegative]

/-- A natural number of 53 bits is a double. -/
theorem absolute_ofInt_natCast {n : Nat} (h : n ≤ 2 ^ 53) : (ofInt n).absolute = n := by
  have hle : (n : ℚ) ≤ (2 ^ 53 : Nat) := by exact_mod_cast h
  have hpower : (ofRat false (2 ^ 53 : Nat)).isFinite = true := by
    rw [← ofInt_natCast]
    decide
  have hfinite := isFinite_ofRat_of_le (Nat.cast_nonneg n) hle hpower
  have hone : (n : ℚ) * 2 ^ (0 : Int) = n := by rw [zpow_zero, mul_one]
  have hexact := @absolute_ofRat_mul_zpow false n 0 h (by decide)
  rw [hone] at hexact
  rw [ofInt_natCast, hexact hfinite]

theorem one_le_absolute_ofRat (hr : 1 ≤ r) : 1 ≤ (ofRat negative r).absolute := by
  have hone : (ofInt (1 : Nat)).absolute = 1 := by
    rw [absolute_ofInt_natCast (by decide), Nat.cast_one]
  rw [← hone]
  exact absolute_le_absolute_ofRat (by decide) (hone.trans_le hr)

theorem mul_eq (x y : Binary64) :
    x.mul y = ofRat (x.negative != y.negative) (x.absolute * y.absolute) := by
  unfold mul
  dsimp only
  rw [ofRatio_eq _ _ (Nat.mul_pos x.ratio_den_pos y.ratio_den_pos), ← x.ratio_eq, ← y.ratio_eq,
    Nat.cast_mul, Nat.cast_mul, mul_div_mul_comm]

theorem div_eq {y : Binary64} (hy : 0 < y.absolute) :
    x.div y = ofRat (x.negative != y.negative) (x.absolute / y.absolute) := by
  unfold div
  dsimp only
  rw [ofRatio_eq _ _ (Nat.mul_pos x.ratio_den_pos (ratio_num_pos hy)), ← x.ratio_eq, ← y.ratio_eq,
    Nat.cast_mul, Nat.cast_mul, div_div_div_eq]

end RecordMapping.Binary64
