import RecordMapping.Proofs.JsonSpelling
import RecordMapping.Proofs.ReadingError
import RecordMapping.Value.Json

/-!
# RecordMapping.Proofs.ValueDocuments — values in documents and back

The document of a value does not say which variant it is of: reading takes the first that fits.
Only null is written as null, only doubles with a point or an exponent, and only bytes as an array,
so each value comes back as what it was (`ofJson?_toJson`, `parseJson?_renderJson_float`).  The
numeral of a double stands for it (`JsonNumber.readBinary64_ofBinary64`), but the reader of documents
rounds more than once: a double comes back as a double, and as itself where its numeral is short
enough for that reader to be exact.
-/

namespace RecordMapping

open Binary64

/-! ### Numbers as they are written -/

namespace JsonNumber

theorem zero_not_mem_head_toDigits {n : Nat} (hn : 0 < n) : '0' ∉ (Nat.toDigits 10 n).head? := by
  induction n using Nat.strongRecOn with
  | ind n ih =>
    by_cases hsmall : n < 10
    · have hdigit : ∀ k < 10, 0 < k → '0' ∉ [k.digitChar].head? := by decide
      rw [Nat.toDigits_of_lt_base hsmall]
      exact hdigit n hsmall hn
    · rw [Nat.toDigits_of_base_le (by decide) (by omega), List.head?_append_of_ne_nil _ Nat.toDigits_ne_nil]
      exact ih (n / 10) (by omega) (by omega)

/-- The digits of a natural number are those of a whole number. -/
theorem whole_toDigits (n : Nat) :
    Nat.toDigits 10 n = ['0'] ∨ Nat.toDigits 10 n ≠ [] ∧ '0' ∉ (Nat.toDigits 10 n).head? := by
  rcases Nat.eq_zero_or_pos n with rfl | hn
  · exact .inl (Nat.toDigits_zero 10)
  · exact .inr ⟨Nat.toDigits_ne_nil, zero_not_mem_head_toDigits hn⟩

theorem digitsValue_whole_ofInt (k : Int) : digitsValue (ofInt k).whole = k.natAbs :=
  digitsValue_toDigits k.natAbs

theorem meaning?_ofInt_of_neg {k : Int} (hlow : -2 ^ 63 ≤ k) (hneg : k < 0) :
    (ofInt k).meaning? = some (.negative k) := by
  have hsign : (ofInt k).negative = true := decide_eq_true hneg
  have hnonzero : ¬ k.natAbs = 0 := by omega
  have hfits : k.natAbs ≤ 0x8000000000000000 := by omega
  have hminus : -(k.natAbs : Int) = k := by omega
  unfold meaning?
  simp only [digitsValue_whole_ofInt, hsign, if_true, if_neg hnonzero, if_pos hfits, hminus]
  rfl

theorem meaning?_ofInt_natCast {n : Nat} (h : n ≤ significandLimit) :
    (ofInt n).meaning? = some (.nat n) := by
  have hsign : (ofInt n).negative = false := decide_eq_false (not_lt.mpr (Int.natCast_nonneg n))
  unfold meaning?
  simp only [digitsValue_whole_ofInt, hsign, Int.natAbs_natCast, if_pos h]
  rfl

theorem wellFormed_ofInt (n : Int) : (ofInt n).WellFormed where
  digits := fun _ => isDigit_of_mem_toDigits
  whole := whole_toDigits n.natAbs
  fraction := nofun
  exponent := nofun

/-- The digits before a point, where zeros are put in front of a number that is less than one. -/
theorem whole_take {n places : Nat} (hplaces : 0 < places) {digits : List Char}
    (h : digits = List.replicate (places + 1 - (Nat.toDigits 10 n).length) '0' ++ Nat.toDigits 10 n) :
    digits.take (digits.length - places) = ['0'] ∨
      digits.take (digits.length - places) ≠ [] ∧ '0' ∉ (digits.take (digits.length - places)).head? := by
  have hlength : digits.length =
      places + 1 - (Nat.toDigits 10 n).length + (Nat.toDigits 10 n).length := by simp [h]
  by_cases hshort : (Nat.toDigits 10 n).length ≤ places
  · left
    obtain ⟨k, hk⟩ : ∃ k, places + 1 - (Nat.toDigits 10 n).length = k + 1 :=
      Nat.exists_eq_add_one_of_ne_zero (by omega)
    have hone : digits.length - places = 1 := by omega
    rw [hone, h, hk]
    rfl
  · right
    have hnone : places + 1 - (Nat.toDigits 10 n).length = 0 := by omega
    have hdigits : digits = Nat.toDigits 10 n := by simp [h, hnone]
    have hn : 0 < n := by
      apply Nat.pos_of_ne_zero
      rintro rfl
      rw [Nat.toDigits_zero, List.length_singleton] at hshort
      omega
    have hsome : digits.length - places ≠ 0 := by omega
    have hhead : (digits.take (digits.length - places)).head? = (Nat.toDigits 10 n).head? := by
      rw [List.head?_take, if_neg hsome, hdigits]
    refine ⟨?_, hhead ▸ zero_not_mem_head_toDigits hn⟩
    rw [← List.length_pos_iff_ne_nil, List.length_take]
    omega

section Decimals

variable {d : Decimal} {negative : Bool} {e : Nat}

theorem wellFormed_integral (hstyle : style.isPositional d.leading = true) (he : d.exponent = e) :
    (ofDecimal negative d).WellFormed := by
  rw [ofDecimal_integral hstyle he]
  refine ⟨?_, ?_, ?_, nofun⟩
  · exact List.forall_mem_append.mpr ⟨fun _ => isDigit_of_mem_digitText, fun _ => isDigit_of_mem_zeros⟩
  · dsimp only [Decimal.digitText]
    by_cases hdigits : d.digits = 0
    · left
      simp [hdigits]
    · right
      rw [List.head?_append_of_ne_nil _ Nat.toDigits_ne_nil]
      exact ⟨List.append_ne_nil_of_left_ne_nil Nat.toDigits_ne_nil _,
        zero_not_mem_head_toDigits (Nat.pos_of_ne_zero hdigits)⟩
  · rintro digits ⟨⟩
    exact ⟨nofun, List.forall_mem_singleton.mpr (by decide)⟩

theorem wellFormed_fractional (hstyle : style.isPositional d.leading = true)
    (he : d.exponent = .negSucc e) : (ofDecimal negative d).WellFormed := by
  have h := @ofDecimal_fractional d negative e hstyle he
  dsimp only at h
  rw [h]
  generalize hall : List.replicate (e + 2 - d.digitText.length) '0' ++ d.digitText = digits
  have hlength : digits.length = e + 2 - d.digitText.length + d.digitText.length := by simp [← hall]
  have hdigits : ∀ c ∈ digits, isDigit c = true := by
    rw [← hall]
    exact List.forall_mem_append.mpr ⟨fun _ => isDigit_of_mem_zeros, fun _ => isDigit_of_mem_digitText⟩
  refine ⟨fun c hc => hdigits c (List.mem_of_mem_take hc), whole_take e.succ_pos hall.symm, ?_, nofun⟩
  rintro fraction ⟨⟩
  refine ⟨?_, fun c hc => hdigits c (List.mem_of_mem_drop hc)⟩
  rw [← List.length_pos_iff_ne_nil, List.length_drop]
  omega

theorem wellFormed_scientific (hstyle : ¬ style.isPositional d.leading = true) :
    (ofDecimal negative d).WellFormed := by
  unfold ofDecimal
  rw [if_neg hstyle]
  refine ⟨fun c hc => isDigit_of_mem_digitText (List.mem_of_mem_take hc), ?_, ?_, ?_⟩
  · -- one digit before the point: it is zero or not
    obtain ⟨c, cs, hcs⟩ := List.exists_cons_of_ne_nil (Nat.toDigits_ne_nil (b := 10) (n := d.digits))
    dsimp only [Decimal.digitText]
    rw [hcs, List.take_succ_cons, List.take_zero]
    by_cases hc : c = '0'
    · exact .inl (by rw [hc])
    · exact .inr ⟨nofun, fun h => hc (Option.some.inj h)⟩
  · intro fraction hfraction
    dsimp only at hfraction
    split at hfraction
    · cases hfraction
    · next hlong =>
      obtain rfl := Option.some.inj hfraction
      refine ⟨?_, fun c hc => isDigit_of_mem_digitText (List.mem_of_mem_drop hc)⟩
      rw [← List.length_pos_iff_ne_nil, List.length_drop]
      omega
  · rintro e ⟨⟩
    exact ⟨Nat.toDigits_ne_nil, fun c hc => isDigit_of_mem_toDigits hc⟩

theorem wellFormed_ofDecimal (negative : Bool) (d : Decimal) : (ofDecimal negative d).WellFormed := by
  by_cases hstyle : style.isPositional d.leading = true
  · rcases he : d.exponent with e | e
    · exact wellFormed_integral hstyle he
    · exact wellFormed_fractional hstyle he
  · exact wellFormed_scientific hstyle

end Decimals

/-! ### Numerals rounded once -/

theorem toLower_of_isDigit {c : Char} (h : isDigit c = true) : c.toLower = c := by
  obtain ⟨hlow, hhigh⟩ := isDigit_eq_true.mp h
  unfold Char.toLower
  rw [dif_neg]
  intro hupper
  have hfirst : 0x41 ≤ c.toNat := hupper.1
  omega

/-- What begins with a digit is not a name. -/
theorem readBinary64_digit {cs ds : List Char} {d : Char} {negative : Bool}
    (hsplit : splitSign cs = (negative, d :: ds)) (hd : isDigit d = true) :
    readBinary64 cs = readMagnitude negative (d :: ds) := by
  have hname (c : Char) (rest : List Char) (hc : ¬ isDigit c = true) :
      (d :: ds).map Char.toLower ≠ c :: rest := by
    intro hequal
    obtain rfl : d.toLower = c := (List.cons.inj hequal).1
    rw [toLower_of_isDigit hd] at hc
    exact hc hd
  have hinfinity : ¬ ((d :: ds).map Char.toLower = "inf".toList ∨
      (d :: ds).map Char.toLower = "infinity".toList) :=
    not_or.mpr ⟨hname 'i' _ (by decide), hname 'i' _ (by decide)⟩
  have hnan : ¬ (d :: ds).map Char.toLower = "nan".toList := hname 'n' _ (by decide)
  unfold readBinary64
  rw [hsplit]
  dsimp only
  rw [if_neg hinfinity, if_neg hnan]

end JsonNumber

namespace Json

theorem splitMantissa_append {n : JsonNumber} (h : n.WellFormed) {rest : List Char}
    (hrest : ∀ c ∈ rest.head?, isDigit c = false ∧ c ≠ '.') :
    splitMantissa (n.whole ++ (fractionChars n.fraction ++ rest)) =
      (n.whole, n.fraction.getD [], rest) := by
  have hspan {ds more : List Char} (hds : ∀ c ∈ ds, isDigit c = true)
      (hmore : ∀ c ∈ more.head?, isDigit c = false) :
      (ds ++ more).takeWhile isDigit = ds ∧ (ds ++ more).dropWhile isDigit = more := by
    have hsplit := splitDigits_append hds hmore
    rw [splitDigits, List.span_eq_takeWhile_dropWhile] at hsplit
    exact Prod.mk.inj hsplit
  have hdigit : ∀ c ∈ rest.head?, isDigit c = false := fun c hc => (hrest c hc).1
  obtain ⟨hwhole, hfraction⟩ := hspan h.digits (head_fraction n.fraction hdigit)
  unfold splitMantissa
  rw [hwhole, hfraction]
  cases hn : n.fraction with
  | none =>
    have hplain : fractionChars none ++ rest = rest := rfl
    rw [hplain]
    dsimp only
    split
    · exact absurd rfl (hrest '.' rfl).2
    · rfl
  | some digits =>
    obtain ⟨hdigits, hmore⟩ := hspan (h.fraction digits hn).2 hdigit
    show (n.whole, (digits ++ rest).takeWhile isDigit, (digits ++ rest).dropWhile isDigit) = _
    rw [hdigits, hmore]
    rfl

theorem readExponent_digits {cs digits : List Char} {negative : Bool}
    (hsplit : splitSign cs = (negative, digits)) (hsome : digits ≠ [])
    (hdigits : ∀ c ∈ digits, isDigit c = true) :
    readExponent cs = some (if negative then -(digitsValue digits : Int) else digitsValue digits) := by
  unfold readExponent readInteger
  rw [hsplit]
  exact if_pos ⟨hsome, List.all_eq_true.mpr hdigits⟩

/-- A numeral of a document, rounded once, is its decimal. -/
theorem readMagnitude_of_spells {n : JsonNumber} (h : n.WellFormed) {cs : List Char}
    (hcs : SpellsExponent n.exponent cs) (negative : Bool) :
    readMagnitude negative (n.whole ++ (fractionChars n.fraction ++ cs)) =
      some (Binary64.ofDecimal negative n.decimal.digits n.decimal.exponent) := by
  have hends : EndsNumber [] := by simp [EndsNumber]
  have hrest : ∀ c ∈ cs.head?, isDigit c = false ∧ c ≠ '.' := by
    have hhead := head_exponent hcs hends
    rwa [List.append_nil] at hhead
  obtain ⟨d, ds, hwhole, -⟩ := h.whole_eq_cons
  have hempty : n.whole.isEmpty = false := by rw [hwhole]; rfl
  have hexponent := h.exponent
  unfold readMagnitude JsonNumber.decimal
  rw [splitMantissa_append h hrest]
  dsimp only
  rw [hempty, Bool.false_and, if_neg Bool.false_ne_true]
  generalize n.exponent = exponent at hcs hexponent
  cases hcs with
  | none =>
    dsimp only
    rw [Int.zero_sub]
  | @signed marker letter negative digits =>
    obtain ⟨hsome, hdigits⟩ := hexponent _ rfl
    have hsign : splitSign ((if negative then '-' else '+') :: digits) = (negative, digits) := by
      cases negative <;> rfl
    dsimp only
    rw [if_pos letter, readExponent_digits hsign hsome hdigits]
    rfl
  | @unsigned marker letter digits =>
    obtain ⟨hsome, hdigits⟩ := hexponent _ rfl
    obtain ⟨c, more, rfl⟩ := List.exists_cons_of_ne_nil hsome
    have hsign := splitSign_digit (hdigits c List.mem_cons_self) more
    dsimp only
    rw [if_pos letter, readExponent_digits hsign hsome hdigits]
    rfl

theorem readBinary64_of_spells {n : JsonNumber} {cs : List Char} (h : SpellsNumber n cs) :
    readBinary64 cs =
      some (Binary64.ofDecimal n.negative n.decimal.digits n.decimal.exponent) := by
  cases h with
  | @parts exponent wellFormed spells =>
    have hread := readMagnitude_of_spells wellFormed spells n.negative
    obtain ⟨d, ds, hwhole, hd⟩ := wellFormed.whole_eq_cons
    rw [hwhole, List.cons_append] at hread ⊢
    refine (JsonNumber.readBinary64_digit ?_ hd).trans hread
    cases n.negative with
    | true => rfl
    | false => exact splitSign_digit hd _

end Json
/-- The text of a double stands for it: rounded once, it is that double again. -/
theorem JsonNumber.readBinary64_ofBinary64 {x : Binary64} (hfinite : x.isFinite = true) :
    readBinary64 (ofBinary64 x).chars = some x := by
  have hreads := readsAs_of_value_eq (decimal_ofBinary64 hfinite).1.symm
    (readsAs_shortest style.tie hfinite)
  have hnegative : (ofBinary64 x).negative = x.negative := negative_ofDecimal _ _
  have hwell : (ofBinary64 x).WellFormed := wellFormed_ofDecimal _ _
  rw [Json.readBinary64_of_spells (Json.spellsNumber_chars hwell), hnegative]
  exact congrArg some (readsAs_iff.mp hreads)

namespace Value

theorem parseJson?_renderJson (v : Value) : parseJson? v.renderJson = ofJson? v.toJson := by
  have hwell (n : JsonNumber) (hn : .number n ∈ v.toJson.tokens) : n.WellFormed := by
    rcases number_cases hn with ⟨k, rfl⟩ | ⟨x, -, rfl⟩
    · exact JsonNumber.wellFormed_ofInt k
    · exact JsonNumber.wellFormed_ofDecimal _ _
  have hparse : Json.parse? v.renderJson = some v.toJson := by
    apply Json.parse?_of_spells
    rw [renderJson, Json.render, String.toList_ofList]
    exact Json.spells_renderChars hwell
  rw [parseJson?, hparse, Option.bind_some]

/-! ### Values but doubles -/

theorem ofNumber?_ofInt (n : Int64) : ofNumber? (JsonNumber.ofInt n.toInt) = some (.int n) := by
  have hlow : -2 ^ 63 ≤ n.toInt := n.le_toInt
  have hhigh : n.toInt < 2 ^ 63 := n.toInt_lt
  have hback := n.ofInt_toInt
  unfold ofNumber?
  rcases lt_or_ge n.toInt 0 with hneg | hnonneg
  · rw [JsonNumber.meaning?_ofInt_of_neg hlow hneg]
    exact congrArg (fun m => some (Value.int m)) hback
  · obtain ⟨k, hk⟩ := Int.eq_ofNat_of_zero_le hnonneg
    have hlimit : k ≤ JsonNumber.significandLimit := by
      unfold JsonNumber.significandLimit
      omega
    have hfits : k < 0x8000000000000000 := by omega
    rw [hk] at hback ⊢
    simp only [JsonNumber.meaning?_ofInt_natCast hlimit, Option.map_some, if_pos hfits]
    exact congrArg (fun m => some (Value.int m)) hback

theorem byte?_ofNat (b : UInt8) : byte? (Json.ofNat b.toNat) = some b := by
  have hb : b.toNat < 256 := b.toNat_lt
  have hlimit : b.toNat ≤ JsonNumber.significandLimit := by
    unfold JsonNumber.significandLimit
    omega
  simp only [byte?, Json.ofNat, Json.ofInt, JsonNumber.meaning?_ofInt_natCast hlimit, if_pos hb,
    UInt8.ofNat_toNat]

theorem mapM_byte? (bs : List UInt8) : (bs.map fun b => Json.ofNat b.toNat).mapM byte? = some bs := by
  induction bs with
  | nil => rfl
  | cons b rest ih =>
    rw [List.map_cons, List.mapM_cons, byte?_ofNat, ih]
    rfl

theorem ofJson?_toJson {v : Value} (h : v.kind ≠ .float) : ofJson? v.toJson = some v := by
  cases v with
  | null => rfl
  | bool b => rfl
  | int n => exact ofNumber?_ofInt n
  | float x => exact absurd rfl h
  | text s => rfl
  | bytes bs =>
    show ((bs.map fun b => Json.ofNat b.toNat).mapM byte?).map Value.bytes = _
    rw [mapM_byte?]
    rfl

/-! ### Doubles -/

theorem signed_eq {y : Binary64} (hy : y.negative = false) (negative : Bool) :
    JsonNumber.signed negative y = ofMagnitude negative y.magnitude := by
  have hself : y = ofMagnitude false y.magnitude := by
    have := y.ofMagnitude_magnitude
    rwa [hy, eq_comm] at this
  unfold JsonNumber.signed
  cases negative with
  | false => exact hself
  | true =>
    rw [if_pos rfl, hself, neg_ofMagnitude y.magnitude_lt, magnitude_ofMagnitude y.magnitude_lt]

theorem toJson_float {x : Binary64} (hfinite : x.isFinite = true) :
    toJson (.float x) = .number (JsonNumber.ofBinary64 x) := if_pos hfinite

theorem renderJson_float {x : Binary64} (hfinite : x.isFinite = true) :
    renderJson (.float x) = String.ofList (JsonNumber.ofBinary64 x).chars := by
  rw [renderJson, toJson_float hfinite, Json.render, Json.renderChars, Json.tokens]
  exact congrArg String.ofList (List.append_nil _)

theorem parseJson?_renderJson_float {x y : Binary64} (hfinite : x.isFinite = true)
    (hy : (JsonNumber.ofBinary64 x).magnitude? = some y) (hsign : y.negative = false) :
    parseJson? (renderJson (.float x)) = some (.float (ofMagnitude x.negative y.magnitude)) := by
  have hmeaning := JsonNumber.meaning?_ofDecimal x.negative (x.shortest JsonNumber.style.tie)
  rw [parseJson?_renderJson, toJson_float hfinite]
  show ofNumber? (JsonNumber.ofDecimal _ _) = _
  rw [ofNumber?, hmeaning]
  show (((JsonNumber.ofBinary64 x).magnitude?.map _).map _) = _
  rw [hy, ← signed_eq hsign]
  rfl

/-- Every value but a double comes back from its document as itself.  The numeral of a finite double
stands for it, and comes back as a finite double of its sign: as the same if the numeral is short,
and else no further off than the reader of numbers goes wrong. -/
theorem values_come_back_from_documents (v : Value) :
    (v.kind ≠ .float → parseJson? v.renderJson = some v) ∧
      ∀ x : Binary64, v = .float x → x.isFinite = true →
        readBinary64 v.renderJson.toList = some x ∧
        ∃ y : Binary64, parseJson? v.renderJson = some (.float y) ∧ y.isFinite = true ∧
          y.negative = x.negative ∧ ((JsonNumber.ofBinary64 x).IsShort → y = x) ∧
          |y.exact - x.exact| ≤ |x.exact| / 2 ^ 49 + 2 ^ (-1072 : Int) := by
  constructor
  · intro hv
    rw [parseJson?_renderJson, ofJson?_toJson hv]
  · rintro x rfl hfinite
    obtain ⟨y, hread, hy, hsign⟩ := JsonNumber.exists_magnitude?_ofBinary64 hfinite
    have hmagnitude := @magnitude_ofMagnitude x.negative _ y.magnitude_lt
    have hnegative := @negative_ofMagnitude x.negative _ y.magnitude_lt
    have hnumeral : readBinary64 (renderJson (.float x)).toList = some x := by
      rw [renderJson_float hfinite, String.toList_ofList,
        JsonNumber.readBinary64_ofBinary64 hfinite]
    refine ⟨hnumeral, _, parseJson?_renderJson_float hfinite hread hsign, ?_, hnegative,
      fun hshort => ?_, ?_⟩
    · rw [isFinite_iff, hmagnitude]
      exact isFinite_iff.mp hy
    · have hexact := JsonNumber.magnitude?_ofBinary64_of_isShort hfinite hshort
      obtain rfl := Option.some.inj (hread.symm.trans hexact)
      rw [magnitude_ofMagnitude x.magnitude_lt, x.ofMagnitude_magnitude]
    · rw [abs_exact_sub hnegative, abs_exact, absolute_congr hmagnitude]
      exact JsonNumber.abs_absolute_sub_le hfinite hread hy

/-- A tenth, and no bytes at all. -/
theorem values_come_back_from_documents_tenth :
    (Value.bytes []).kind ≠ .float ∧ parseJson? (renderJson (.bytes [])) = some (.bytes []) ∧
      (⟨0x3FB999999999999A⟩ : Binary64).isFinite = true ∧
      (JsonNumber.ofBinary64 ⟨0x3FB999999999999A⟩).IsShort ∧
      parseJson? (renderJson (.float ⟨0x3FB999999999999A⟩)) = some (.float ⟨0x3FB999999999999A⟩) := by
  have hkind : (Value.bytes []).kind ≠ .float := by decide
  have hfinite : (⟨0x3FB999999999999A⟩ : Binary64).isFinite = true := by decide
  have hshort : (JsonNumber.ofBinary64 ⟨0x3FB999999999999A⟩).IsShort := by decide +kernel
  have hbytes := (values_come_back_from_documents (.bytes [])).1 hkind
  obtain ⟨-, y, hread, -, -, hself, -⟩ := (values_come_back_from_documents (.float _)).2 _ rfl hfinite
  obtain rfl := hself hshort
  exact ⟨hkind, hbytes, hfinite, hshort, hread⟩

/-- The largest odd double: its numeral stands for it, but is read as the double below. -/
theorem largest_odd_double_comes_back_even :
    renderJson (.float ⟨0x433FFFFFFFFFFFFF⟩) = "9007199254740991.0" ∧
      readBinary64 "9007199254740991.0".toList = some ⟨0x433FFFFFFFFFFFFF⟩ ∧
      parseJson? "9007199254740991.0" = some (.float ⟨0x433FFFFFFFFFFFFE⟩) ∧
      parseJson? (renderJson (.float ⟨0x433FFFFFFFFFFFFF⟩)) ≠ some (.float ⟨0x433FFFFFFFFFFFFF⟩) := by
  decide +kernel

end Value

end RecordMapping
