import RecordMapping.Json.Number
import RecordMapping.Proofs.Numerals
import RecordMapping.Proofs.ShortestDigits

/-!
# RecordMapping.Proofs.DocumentNumbers — the double that a number in a document stands for

A number with point or exponent writes a decimal, `JsonNumber.decimal`.  Its digits become a double, and so
does the power of ten, before one is multiplied with the other or divided by it: up to three roundings.
Where the digits and the power are doubles already only one is left, and the number stands for its nearest
double (`magnitude?_of_isShort`).
-/

namespace RecordMapping

open Binary64

namespace JsonNumber

/-- The decimal that the digits of a number write, without its sign. -/
def decimal (n : JsonNumber) : Decimal where
  digits := digitsValue (n.whole ++ n.fraction.getD [])
  exponent := (match n.exponent with
    | none => 0
    | some (negative, digits) => if negative then -(digitsValue digits : Int) else digitsValue digits) -
      (n.fraction.getD []).length

/-- The digits are at most `2 ^ 53`, the power of ten lies between `10 ^ -22` and `10 ^ 22`: both are
doubles as they are. -/
def IsShort (n : JsonNumber) : Prop :=
  n.decimal.digits ≤ 2 ^ 53 ∧ -22 ≤ n.decimal.exponent ∧ n.decimal.exponent ≤ 22

instance (n : JsonNumber) : Decidable n.IsShort := inferInstanceAs (Decidable (_ ∧ _ ∧ _))

/-! ### Digits -/

theorem le_foldl_digits (n : Nat) (cs : List Char) :
    n ≤ cs.foldl (fun n c => 10 * n + (digitValue? c).getD 0) n := by
  induction cs generalizing n with
  | nil => exact le_rfl
  | cons c rest ih => exact (by omega : n ≤ 10 * n + (digitValue? c).getD 0).trans (ih _)

/-- Nothing is dropped of digits that 64 bits hold. -/
theorem accumulate_eq {n : Nat} {cs : List Char}
    (h : cs.foldl (fun n c => 10 * n + (digitValue? c).getD 0) n ≤ significandLimit) :
    accumulate n cs = (cs.foldl (fun n c => 10 * n + (digitValue? c).getD 0) n, []) := by
  induction cs generalizing n with
  | nil => rfl
  | cons c rest ih =>
    rw [List.foldl_cons] at h
    unfold accumulate
    dsimp only
    rw [if_pos ((le_foldl_digits _ rest).trans h), ih h, List.foldl_cons]

/-- A number whose digits 64 bits hold is scaled as it is written. -/
theorem magnitude?_eq {n : JsonNumber} (hdigits : n.decimal.digits ≤ significandLimit)
    (hexponent : ∀ e ∈ n.exponent, digitsValue e.2 ≤ exponentLimit) :
    n.magnitude? = scaled n.decimal.digits n.decimal.exponent := by
  have hfold : n.decimal.digits =
      (n.fraction.getD []).foldl (fun n c => 10 * n + (digitValue? c).getD 0) (digitsValue n.whole) :=
    List.foldl_append
  have hwhole : accumulate 0 n.whole = (digitsValue n.whole, []) := by
    apply accumulate_eq
    rw [hfold] at hdigits
    exact (le_foldl_digits _ _).trans hdigits
  have hfraction : accumulate (digitsValue n.whole) (n.fraction.getD []) = (n.decimal.digits, []) := by
    rw [hfold] at hdigits ⊢
    exact accumulate_eq hdigits
  unfold magnitude?
  simp only [hwhole, hfraction, List.length_nil, Nat.sub_zero]
  generalize n.decimal.digits = digits
  unfold decimal
  cases hmark : n.exponent with
  | none => simp
  | some e =>
    obtain ⟨negative, ds⟩ := e
    dsimp only
    rw [if_neg (not_lt.mpr (hexponent _ hmark))]
    congr 1
    cases negative
    · simp
      omega
    · simp
      omega

/-! ### Powers of ten -/

theorem powerOfTen_eq (n : Nat) : powerOfTen n = ofRat false (10 ^ n) := by
  have hvalue : (⟨1, n⟩ : Decimal).value = 10 ^ n := by simp [Decimal.value]
  rw [powerOfTen, ofDecimal_eq, hvalue]

/-- The powers of ten that are doubles. -/
theorem absolute_powerOfTen {n : Nat} (h : n ≤ 22) : (powerOfTen n).absolute = 10 ^ n := by
  have hratio : ∀ k < 23, (powerOfTen k).ratio.1 = 10 ^ k * (powerOfTen k).ratio.2 := by decide +kernel
  have hden : ((powerOfTen n).ratio.2 : ℚ) ≠ 0 := by exact_mod_cast (ratio_den_pos _).ne'
  rw [← ratio_eq, hratio n (by omega), Nat.cast_mul, mul_div_cancel_right₀ _ hden, Nat.cast_pow,
    Nat.cast_ofNat]

theorem one_le_absolute_powerOfTen (n : Nat) : 1 ≤ (powerOfTen n).absolute := by
  rw [powerOfTen_eq]
  exact one_le_absolute_ofRat (one_le_pow₀ (by norm_num))

theorem mul_powerOfTen {x : Binary64} (hx : x.negative = false) (n : Nat) :
    x.mul (powerOfTen n) = ofRat false (x.absolute * (powerOfTen n).absolute) := by
  have hsign : (powerOfTen n).negative = false := by rw [powerOfTen_eq, negative_ofRat]
  rw [mul_eq, hx, hsign]
  rfl

theorem div_powerOfTen {x : Binary64} (hx : x.negative = false) (n : Nat) :
    x.div (powerOfTen n) = ofRat false (x.absolute / (powerOfTen n).absolute) := by
  have hsign : (powerOfTen n).negative = false := by rw [powerOfTen_eq, negative_ofRat]
  rw [div_eq (one_pos.trans_le (one_le_absolute_powerOfTen n)), hx, hsign]
  rfl

theorem negative_ofInt_natCast (n : Nat) : (Binary64.ofInt n).negative = false := by
  rw [ofInt_natCast, negative_ofRat]

/-! ### Scaling -/

/-- The double of the digits is multiplied with the double of the power. -/
theorem scaled_natCast {digits e : Nat} (he : e ≤ greatestPower)
    (hfinite : ((Binary64.ofInt digits).mul (powerOfTen e)).isFinite = true) :
    scaled digits e = some ((Binary64.ofInt digits).mul (powerOfTen e)) := by
  have hinfinite : ((Binary64.ofInt digits).mul (powerOfTen e)).isInfinite = false := by
    rw [isInfinite, hfinite]
    rfl
  show scaled digits (.ofNat e) = _
  simp only [scaled, if_pos he, hinfinite, Bool.false_eq_true, if_false]

/-- It is divided by the double of the power if the exponent is negative. -/
theorem scaled_neg {digits e : Nat} (hpos : 0 < e) (he : e ≤ greatestPower) :
    scaled digits (-(e : Int)) = some ((Binary64.ofInt digits).div (powerOfTen e)) := by
  obtain ⟨n, rfl⟩ := Nat.exists_eq_add_one_of_ne_zero hpos.ne'
  show scaled digits (.negSucc n) = _
  simp only [scaled, scaleDown, if_pos he]

/-- Short digits and a short power: the only rounding is that of the number itself. -/
theorem scaled_of_short {digits : Nat} {e : Int} (hdigits : digits ≤ 2 ^ 53) (hlow : -22 ≤ e)
    (hhigh : e ≤ 22) : scaled digits e = some (Binary64.ofDecimal false digits e) := by
  have hexact := absolute_ofInt_natCast hdigits
  have hsign := negative_ofInt_natCast digits
  rw [ofDecimal_eq]
  rcases le_or_gt 0 e with hnonneg | hnegative
  · obtain ⟨n, rfl⟩ := Int.eq_ofNat_of_zero_le hnonneg
    have hn : n ≤ 22 := by omega
    have hproduct : (Binary64.ofInt digits).mul (powerOfTen n) =
        ofRat false (⟨digits, n⟩ : Decimal).value := by
      rw [mul_powerOfTen hsign, hexact, absolute_powerOfTen hn, Decimal.value, zpow_natCast]
    have hfinite : ((Binary64.ofInt digits).mul (powerOfTen n)).isFinite = true := by
      have hmax : ((Binary64.ofInt (2 ^ 53 : Nat)).mul (powerOfTen 22)).isFinite = true := by
        decide +kernel
      rw [mul_powerOfTen (negative_ofInt_natCast _), absolute_ofInt_natCast le_rfl,
        absolute_powerOfTen le_rfl] at hmax
      rw [mul_powerOfTen hsign, hexact, absolute_powerOfTen hn]
      refine isFinite_ofRat_of_le (by positivity) ?_ hmax
      gcongr
      norm_num
    rw [scaled_natCast (hn.trans (by decide)) hfinite, hproduct]
  · obtain ⟨n, rfl⟩ := Int.exists_eq_neg_ofNat hnegative.le
    have hn : n ≤ 22 := by omega
    rw [scaled_neg (by omega) (hn.trans (by decide)), div_powerOfTen hsign, hexact,
      absolute_powerOfTen hn, Decimal.value, zpow_neg, zpow_natCast, div_eq_mul_inv]

/-- A short number stands for its nearest double. -/
theorem magnitude?_of_isShort {n : JsonNumber} (h : n.IsShort)
    (hexponent : ∀ e ∈ n.exponent, digitsValue e.2 ≤ exponentLimit) :
    n.magnitude? = some (Binary64.ofDecimal false n.decimal.digits n.decimal.exponent) := by
  rw [magnitude?_eq (h.1.trans (by decide)) hexponent, scaled_of_short h.1 h.2.1 h.2.2]

/-! ### Finite answers -/

/-- Division by powers of ten leaves a finite double finite. -/
theorem isFinite_div_powerOfTen {x : Binary64} (hsign : x.negative = false) (hfinite : x.isFinite = true)
    (n : Nat) : (x.div (powerOfTen n)).isFinite = true ∧ (x.div (powerOfTen n)).negative = false := by
  have hpower := one_le_absolute_powerOfTen n
  have hnonneg := x.absolute_nonneg
  have hself : (ofRat false x.absolute).isFinite = true := by
    have := ofRat_absolute hfinite
    rw [hsign] at this
    rwa [this]
  rw [div_powerOfTen hsign]
  refine ⟨isFinite_ofRat_of_le ?_ (div_le_self hnonneg hpower) hself, negative_ofRat⟩
  positivity

theorem isFinite_scaleDown {x : Binary64} (hsign : x.negative = false) (hfinite : x.isFinite = true)
    (fuel n : Nat) : (scaleDown fuel x n).isFinite = true ∧ (scaleDown fuel x n).negative = false := by
  induction fuel generalizing x n with
  | zero =>
    unfold scaleDown
    rw [hsign]
    decide
  | succ fuel ih =>
    unfold scaleDown
    split_ifs
    · exact isFinite_div_powerOfTen hsign hfinite n
    · exact ⟨hfinite, hsign⟩
    · obtain ⟨hfinite', hsign'⟩ := isFinite_div_powerOfTen hsign hfinite greatestPower
      exact ih hsign' hfinite' _

/-- The largest double. -/
def greatest : Nat := 2 ^ 1024 - 2 ^ 971

/-- The greatest digits, up to seventeen of them, that a power of ten leaves below the largest double. -/
def greatestDigits (e : Nat) : Nat := min (10 ^ 17) (greatest / 10 ^ e)

theorem le_greatestDigits {digits e : Nat} (hdigits : digits ≤ 10 ^ 17)
    (hgreatest : digits * 10 ^ e ≤ greatest) : digits ≤ greatestDigits e := by
  have hpower : 0 < 10 ^ e := Nat.pow_pos (by decide)
  unfold greatestDigits
  rw [Nat.le_min, Nat.le_div_iff_mul_le hpower]
  exact ⟨hdigits, hgreatest⟩

/-- The three roundings do not add up to an overflow. -/
theorem isFinite_mul_greatestDigits : ∀ k < 19,
    ((Binary64.ofInt (greatestDigits (290 + k))).mul (powerOfTen (290 + k))).isFinite = true := by
  decide +kernel

theorem isFinite_mul_of_le {digits digits' e e' : Nat} (hdigits : digits ≤ digits') (he : e ≤ e')
    (hfinite : ((Binary64.ofInt digits').mul (powerOfTen e')).isFinite = true) :
    ((Binary64.ofInt digits).mul (powerOfTen e)).isFinite = true := by
  have hleft : (Binary64.ofInt digits).absolute ≤ (Binary64.ofInt digits').absolute := by
    rw [ofInt_natCast, ofInt_natCast]
    exact absolute_ofRat_mono (Nat.cast_nonneg _) (by exact_mod_cast hdigits)
  have hright : (powerOfTen e).absolute ≤ (powerOfTen e').absolute := by
    rw [powerOfTen_eq, powerOfTen_eq]
    exact absolute_ofRat_mono (by positivity) (pow_le_pow_right₀ (by norm_num) he)
  have hdigits_nonneg := (Binary64.ofInt digits).absolute_nonneg
  have hdigits'_nonneg := (Binary64.ofInt digits').absolute_nonneg
  have hpower_nonneg := (powerOfTen e).absolute_nonneg
  rw [mul_powerOfTen (negative_ofInt_natCast _)] at hfinite ⊢
  refine isFinite_ofRat_of_le (by positivity) ?_ hfinite
  gcongr

theorem isFinite_mul {digits e : Nat} (hdigits : digits ≤ 10 ^ 17) (he : e ≤ greatestPower)
    (hgreatest : digits * 10 ^ e ≤ greatest) :
    ((Binary64.ofInt digits).mul (powerOfTen e)).isFinite = true := by
  have hpower : greatestPower = 290 + 18 := rfl
  rcases le_or_gt e 290 with hsmall | hlarge
  · have hall : greatestDigits (290 + 0) = 10 ^ 17 := by decide +kernel
    have hmax := isFinite_mul_greatestDigits 0 (by decide)
    rw [hall] at hmax
    exact isFinite_mul_of_le hdigits hsmall hmax
  · obtain ⟨k, rfl⟩ := Nat.exists_eq_add_of_le hlarge.le
    have hle := le_greatestDigits hdigits hgreatest
    exact isFinite_mul_of_le hle le_rfl (isFinite_mul_greatestDigits k (by omega))

theorem isFinite_ofInt_of_le {digits : Nat} (h : digits ≤ 10 ^ 17) :
    (Binary64.ofInt digits).isFinite = true := by
  have hmax : (ofRat false (10 ^ 17 : Nat)).isFinite = true := by
    rw [← ofInt_natCast]
    decide +kernel
  rw [ofInt_natCast]
  exact isFinite_ofRat_of_le (Nat.cast_nonneg _) (by exact_mod_cast h) hmax

/-- A decimal of up to seventeen digits below the largest double stands for a finite double. -/
theorem scaled_isFinite {digits : Nat} {e : Int} (hdigits : digits ≤ 10 ^ 17) (he : e ≤ greatestPower)
    (hgreatest : (⟨digits, e⟩ : Decimal).value ≤ greatest) :
    ∃ y, scaled digits e = some y ∧ y.isFinite = true ∧ y.negative = false := by
  rcases e with e | e
  · have hgreatest : digits * 10 ^ e ≤ greatest := by
      have hvalue := Decimal.value_natCast digits e
      exact Nat.cast_le.mp (hvalue.symm.trans_le hgreatest)
    have hpower : e ≤ greatestPower := by simpa using he
    have hfinite := isFinite_mul hdigits hpower hgreatest
    refine ⟨_, scaled_natCast hpower hfinite, hfinite, ?_⟩
    rw [mul_powerOfTen (negative_ofInt_natCast _), negative_ofRat]
  · have hfinite := isFinite_ofInt_of_le hdigits
    exact ⟨_, rfl, isFinite_scaleDown (negative_ofInt_natCast _) hfinite 4 (e + 1)⟩

/-! ### Writing -/

variable {d : Decimal} {negative : Bool}

theorem isDigit_of_mem_digitText {c : Char} (h : c ∈ d.digitText) : isDigit c = true :=
  isDigit_of_mem_toDigits h

/-- An integral numeral is written with all its digits and one more, a zero after the point. -/
theorem ofDecimal_integral {e : Nat} (hstyle : style.isPositional d.leading = true)
    (he : d.exponent = e) :
    ofDecimal negative d =
      ⟨negative, d.digitText ++ List.replicate (if d.digits = 0 then 0 else e) '0', some ['0'], none⟩ := by
  have htext : d.positional true =
      (d.digitText ++ List.replicate (if d.digits = 0 then 0 else e) '0') ++ ['.', '0'] := by
    unfold Decimal.positional
    rw [he]
    rfl
  have hdigits : ∀ c ∈ d.digitText ++ List.replicate (if d.digits = 0 then 0 else e) '0',
      isDigit c = true :=
    List.forall_mem_append.mpr ⟨fun _ => isDigit_of_mem_digitText, fun _ => isDigit_of_mem_zeros⟩
  unfold ofDecimal
  dsimp only
  rw [if_pos hstyle, htext, List.takeWhile_append_of_pos hdigits, List.dropWhile_append_of_pos hdigits]
  simp [isDigit, digitValue?]

/-- Any other has a point among its digits, which zeros precede as far as necessary. -/
theorem ofDecimal_fractional {e : Nat} (hstyle : style.isPositional d.leading = true)
    (he : d.exponent = .negSucc e) :
    let digits := List.replicate (e + 2 - d.digitText.length) '0' ++ d.digitText
    ofDecimal negative d =
      ⟨negative, digits.take (digits.length - (e + 1)), some (digits.drop (digits.length - (e + 1))),
        none⟩ := by
  intro digits
  have htext : d.positional true =
      digits.take (digits.length - (e + 1)) ++ '.' :: digits.drop (digits.length - (e + 1)) := by
    unfold Decimal.positional
    rw [he]
  have hall : ∀ c ∈ digits, isDigit c = true :=
    List.forall_mem_append.mpr ⟨fun _ => isDigit_of_mem_zeros, fun _ => isDigit_of_mem_digitText⟩
  have hdigits : ∀ c ∈ digits.take (digits.length - (e + 1)), isDigit c = true :=
    fun c hc => hall c (List.mem_of_mem_take hc)
  unfold ofDecimal
  dsimp only
  rw [if_pos hstyle, htext, List.takeWhile_append_of_pos hdigits, List.dropWhile_append_of_pos hdigits]
  simp [isDigit, digitValue?]

theorem isPositional_iff {k : Int} : style.isPositional k = true ↔ -5 ≤ k ∧ k ≤ 15 := by
  simp [NumeralStyle.isPositional, style]

@[simp] theorem digitsValue_digitText (d : Decimal) : digitsValue d.digitText = d.digits :=
  digitsValue_toDigits d.digits

/-- The zero at the end of an integral numeral counts. -/
theorem decimal_integral {e : Nat} (hstyle : style.isPositional d.leading = true) (he : d.exponent = e) :
    (ofDecimal negative d).decimal = ⟨d.digits * 10 ^ (e + 1), -1⟩ := by
  have hdigits (k : Nat) :
      digitsValue (d.digitText ++ List.replicate k '0' ++ ['0']) = d.digits * 10 ^ (k + 1) := by
    rw [List.append_assoc, ← List.replicate_succ',
      digitsValue_append_zeros fun c => isDigit_of_mem_digitText, digitsValue_digitText]
  rw [ofDecimal_integral hstyle he]
  show (⟨digitsValue (_ ++ ['0']), 0 - 1⟩ : Decimal) = _
  rw [hdigits]
  by_cases hzero : d.digits = 0
  · simp [hzero]
  · simp [hzero]

theorem decimal_fractional {e : Nat} (hstyle : style.isPositional d.leading = true)
    (he : d.exponent = .negSucc e) : (ofDecimal negative d).decimal = d := by
  have hlength : (List.replicate (e + 2 - d.digitText.length) '0' ++ d.digitText).length =
      e + 2 - d.digitText.length + d.digitText.length := by simp
  rw [ofDecimal_fractional hstyle he]
  generalize hall : List.replicate (e + 2 - d.digitText.length) '0' ++ d.digitText = digits at hlength
  have hvalue : digitsValue digits = d.digits := by
    rw [← hall, digitsValue_zeros_append, digitsValue_digitText]
  have hplaces : (0 : Int) - (digits.drop (digits.length - (e + 1))).length = d.exponent := by
    rw [List.length_drop, he]
    omega
  show (⟨digitsValue (digits.take _ ++ digits.drop _), 0 - _⟩ : Decimal) = d
  rw [List.take_append_drop, hvalue, Option.getD_some, hplaces]

theorem decimal_scientific (hstyle : ¬ style.isPositional d.leading = true) :
    (ofDecimal negative d).decimal = d := by
  have hrest : (if d.digitText.length ≤ 1 then none else some (d.digitText.drop 1)).getD [] =
      d.digitText.drop 1 := by
    split
    · next hshort => exact (List.drop_eq_nil_of_le hshort).symm
    · rfl
  have hpos : 0 < d.digitText.length := Nat.length_toDigits_pos
  have hleading : d.leading = d.exponent + d.digitText.length - 1 := rfl
  unfold ofDecimal decimal
  rw [if_neg hstyle]
  dsimp only
  rw [hrest, List.take_append_drop, digitsValue_digitText, digitsValue_toDigits, List.length_drop]
  congr 1
  split <;> simp only [decide_eq_true_iff] at * <;> omega

/-- The decimal that is written is the given one, but for the zero at the end of an integral numeral. -/
theorem decimal_ofDecimal (negative : Bool) (d : Decimal) :
    (ofDecimal negative d).decimal = d ∨
      ∃ e : Nat, d.exponent = e ∧ d.leading ≤ 15 ∧
        (ofDecimal negative d).decimal = ⟨d.digits * 10 ^ (e + 1), -1⟩ := by
  by_cases hstyle : style.isPositional d.leading = true
  · rcases he : d.exponent with e | e
    · exact .inr ⟨e, rfl, (isPositional_iff.mp hstyle).2, decimal_integral hstyle he⟩
    · exact .inl (decimal_fractional hstyle he)
  · exact .inl (decimal_scientific hstyle)

theorem negative_ofDecimal (negative : Bool) (d : Decimal) :
    (ofDecimal negative d).negative = negative := by
  unfold ofDecimal
  split <;> rfl

/-- A point or an exponent is always there, so a written decimal is never taken for an integer. -/
theorem meaning?_ofDecimal (negative : Bool) (d : Decimal) :
    (ofDecimal negative d).meaning? =
      (ofDecimal negative d).magnitude?.map fun x => .double (signed negative x) := by
  have hmarked : (ofDecimal negative d).fraction.isSome = true ∨
      (ofDecimal negative d).exponent.isSome = true := by
    unfold ofDecimal
    split
    · exact .inl rfl
    · exact .inr rfl
  unfold meaning?
  rw [negative_ofDecimal]
  generalize ofDecimal negative d = n at hmarked
  rcases hfraction : n.fraction with - | fraction
  · rcases hexponent : n.exponent with - | e
    · rw [hfraction, hexponent] at hmarked
      exact hmarked.elim nofun nofun
    · rfl
  · rfl

theorem exponent_ofDecimal_le (hdigits : d.digits ≤ 10 ^ 17) (hlow : -374 ≤ d.exponent)
    (hhigh : d.exponent ≤ 308) :
    ∀ e ∈ (ofDecimal negative d).exponent, digitsValue e.2 ≤ exponentLimit := by
  have hcount : digitCount d.digits ≤ 18 := by
    refine (Nat.length_toDigits_le_iff (by decide) (by decide)).mpr (hdigits.trans_lt ?_)
    decide
  have hpos := digitCount_pos d.digits
  intro e he
  unfold ofDecimal at he
  split at he
  · cases he
  · obtain rfl := Option.some.inj he
    dsimp only
    rw [digitsValue_toDigits]
    unfold Decimal.leading exponentLimit
    omega

/-! ### Written doubles -/

variable {x : Binary64}

/-- The decimal that a document has for a double. -/
theorem decimal_ofBinary64 (hfinite : x.isFinite = true) :
    (ofBinary64 x).decimal.value = (x.shortest style.tie).value ∧
      (ofBinary64 x).decimal.digits ≤ 10 ^ 17 ∧ -374 ≤ (ofBinary64 x).decimal.exponent ∧
      (ofBinary64 x).decimal.exponent ≤ greatestPower := by
  have hdigits := shortest_digits_le style.tie hfinite
  obtain ⟨hlow, hhigh⟩ := shortest_exponent_bounds style.tie hfinite
  unfold ofBinary64
  generalize x.shortest style.tie = d at hdigits hlow hhigh
  rcases decimal_ofDecimal x.negative d with hd | ⟨e, he, hleading, hd⟩
  · rw [hd]
    exact ⟨rfl, hdigits, hlow, hhigh⟩
  · rw [hd]
    refine ⟨?_, ?_, (by decide : (-374 : Int) ≤ -1), (by decide : (-1 : Int) ≤ 308)⟩
    · rw [Decimal.value, Decimal.value, he, zpow_natCast]
      push_cast
      rw [zpow_neg_one, pow_succ]
      field_simp
    · have hcount : d.leading = d.exponent + digitCount d.digits - 1 := rfl
      have hpower : digitCount d.digits + (e + 1) ≤ 17 := by omega
      calc d.digits * 10 ^ (e + 1) ≤ 10 ^ digitCount d.digits * 10 ^ (e + 1) :=
            Nat.mul_le_mul_right _ (lt_pow_digitCount d.digits).le
        _ = 10 ^ (digitCount d.digits + (e + 1)) := (pow_add _ _ _).symm
        _ ≤ 10 ^ 17 := Nat.pow_le_pow_right (by decide) hpower

theorem exponent_ofBinary64_le (hfinite : x.isFinite = true) :
    ∀ e ∈ (ofBinary64 x).exponent, digitsValue e.2 ≤ exponentLimit := by
  obtain ⟨hlow, hhigh⟩ := shortest_exponent_bounds style.tie hfinite
  exact exponent_ofDecimal_le (shortest_digits_le style.tie hfinite) hlow hhigh

theorem magnitude?_ofBinary64 (hfinite : x.isFinite = true) :
    (ofBinary64 x).magnitude? = scaled (ofBinary64 x).decimal.digits (ofBinary64 x).decimal.exponent := by
  have hlimit : 10 ^ 17 ≤ significandLimit := by decide
  exact magnitude?_eq ((decimal_ofBinary64 hfinite).2.1.trans hlimit) (exponent_ofBinary64_le hfinite)

/-- No double is written as more than the largest.  For all but the largest that is because they are read
back; of the largest, numerals on both sides would be. -/
theorem value_shortest_le (hfinite : x.isFinite = true) : (x.shortest style.tie).value ≤ greatest := by
  have hgreatest : rounded greatest = infinityMagnitude - 1 := by
    have hmagnitude : (Binary64.ofInt greatest).magnitude = infinityMagnitude - 1 := by decide +kernel
    rw [ofInt_natCast, magnitude_ofRat] at hmagnitude
    unfold infinityMagnitude fractionLimit at *
    omega
  have hmagnitude := rounded_value_of_readsAs hfinite (readsAs_shortest style.tie hfinite)
  have hlimit := isFinite_iff.mp hfinite
  by_cases hlargest : x.magnitude = infinityMagnitude - 1
  · have hshortest : ∀ negative,
        (ofMagnitude negative (infinityMagnitude - 1)).shortest style.tie = ⟨17976931348623157, 292⟩ := by
      decide +kernel
    have hle : 17976931348623157 * 10 ^ 292 ≤ greatest := by decide +kernel
    rw [← x.ofMagnitude_magnitude, hlargest, hshortest]
    exact (Decimal.value_natCast 17976931348623157 292).trans_le (Nat.cast_le.mpr hle)
  · by_contra hmore
    have := rounded_mono (Nat.cast_nonneg greatest) (not_le.mp hmore).le
    omega

/-- A written double is read as a finite double. -/
theorem exists_magnitude?_ofBinary64 (hfinite : x.isFinite = true) :
    ∃ y, (ofBinary64 x).magnitude? = some y ∧ y.isFinite = true ∧ y.negative = false := by
  obtain ⟨hvalue, hdigits, -, hexponent⟩ := decimal_ofBinary64 hfinite
  rw [magnitude?_ofBinary64 hfinite]
  apply scaled_isFinite hdigits hexponent
  exact hvalue.le.trans (value_shortest_le hfinite)

/-- If its numeral is short, it is read as it was but for its sign. -/
theorem magnitude?_ofBinary64_of_isShort (hfinite : x.isFinite = true) (h : (ofBinary64 x).IsShort) :
    (ofBinary64 x).magnitude? = some (ofMagnitude false x.magnitude) := by
  have hreads := readsAs_shortest style.tie hfinite
  have hmagnitude := rounded_value_of_readsAs hfinite hreads
  have hvalue := (decimal_ofBinary64 hfinite).1
  rw [magnitude?_of_isShort h (exponent_ofBinary64_le hfinite), ofDecimal_eq]
  show some (ofRat false (ofBinary64 x).decimal.value) = _
  rw [hvalue, ofRat, hmagnitude, min_eq_left (isFinite_iff.mp hfinite).le]

end JsonNumber

end RecordMapping
