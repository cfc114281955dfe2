import RecordMapping.Proofs.IntegerReading

/-!
# RecordMapping.Proofs.ConversionErrors — what a refused value is told

`Conversion.Reports s v e` lists the errors with which a type `s` may refuse a value `v`: they name `s`, and
what they quote is the value's own text or kind.  Each conversion keeps to the list, but for one way out
of the narrower integers: a double that denotes no 64-bit integer is refused in the name of the wide type
(`toNarrow_error`).
-/

namespace RecordMapping

/-- The types whose integers are read by way of 64 signed bits without being them. -/
def Scalar.isDetoured : Scalar → Bool
  | int32 | nat32 | nat64 => true
  | _ => false

/-- A double that denotes no integer of 64 signed bits. -/
def Value.IsWideDouble (v : Value) : Prop := v.kind = .float ∧ ∀ m : Int64, ¬ v.Denotes m.toInt

namespace Conversion

/-- The errors with which a type refuses a value in its own name.  Text stands in them as it was, with
its blanks; bytes have no text that could. -/
inductive Reports (s : Scalar) : Value → ConversionError → Prop
  | null : Reports s .null (.unexpectedNull s)
  | text (text : String) : Reports s (.text text) (.parse s text)
  | bytes (bs : List UInt8) (text : String) : Reports s (.bytes bs) (.parse s text)
  | incompatible {v : Value} (given : v.isNull = false) : Reports s v (.incompatible s v.kind)
  | outOfRange {v : Value} (given : v.isNull = false) (shown : String) :
    Reports s v (.outOfRange s shown)

theorem error_of_map {α β : Type} {f : α → β} {x : Except ConversionError α} {e : ConversionError}
    (h : x.map f = .error e) : x = .error e := by
  cases x with
  | error e' => exact congrArg Except.error (Except.error.inj h)
  | ok a => cases h

variable {v : Value} {e : ConversionError}

/-! ### Texts -/

theorem parseInt64_error {s : Scalar} {text : String} (h : parseInt64 s text = .error e) :
    e = .parse s text := by
  unfold parseInt64 at h
  split at h
  · split at h
    · cases h
    · exact (Except.error.inj h).symm
  · exact (Except.error.inj h).symm

theorem toBool_text {s : String} (h : toBool (.text s) = .error e) : e = .parse .bool s := by
  simp only [toBool] at h
  split at h <;> cases h
  rfl

theorem toFloat_text {s : String} (h : toFloat (.text s) = .error e) : e = .parse .float s := by
  simp only [toFloat] at h
  split at h <;> cases h
  rfl

/-! ### Each conversion -/

theorem toInt64_error (h : toInt64 v = .error e) : Reports .int64 v e := by
  cases v with
  | null => cases h; exact .null
  | bool b => cases h
  | int n => cases h
  | float x =>
    rcases toInt64_float x with ⟨n, hread⟩ | hread <;> rw [hread] at h <;> cases h
    exact .outOfRange rfl _
  | text s =>
    obtain rfl := parseInt64_error h
    exact .text s
  | bytes bs => cases h; exact .incompatible rfl

/-- The detour puts the name of the type into each error but that of a wide double. -/
theorem toWide_error {s : Scalar} (h : toWide s v = .error e) :
    Reports s v e ∨ v.IsWideDouble ∧ e = .outOfRange .int64 v.display := by
  cases v with
  | null => cases h; exact .inl .null
  | bool b => cases h
  | int n => cases h
  | float x =>
    rw [toWide_float] at h
    have hwide (m : Int64) : ¬ (Value.float x).Denotes m.toInt := by
      rw [← toInt64_eq_ok_iff, h]
      nofun
    rcases toInt64_float x with ⟨n, hread⟩ | hread <;> rw [hread] at h <;> cases h
    exact .inr ⟨⟨rfl, hwide⟩, rfl⟩
  | text s =>
    obtain rfl := parseInt64_error h
    exact .inl (.text s)
  | bytes bs => cases h; exact .inl (.incompatible rfl)

theorem toWide_of_isWideDouble {s : Scalar} (h : v.IsWideDouble) :
    toWide s v = .error (.outOfRange .int64 v.display) := by
  obtain ⟨hkind, hwide⟩ := h
  cases v with
  | float x =>
    rw [toWide_float]
    rcases toInt64_float x with ⟨n, hread⟩ | hread
    · exact absurd (toInt64_eq_ok_iff.mp hread) (hwide n)
    · exact hread
  | null | bool | int | text | bytes => cases hkind

theorem isNull_of_toWide {s : Scalar} {n : Int64} (h : toWide s v = .ok n) : v.isNull = false := by
  cases v with
  | null => cases h
  | bool | int | float | text | bytes => rfl

theorem toNarrow_error {s : Scalar} {fits : Int → Bool} (h : toNarrow s fits v = .error e) :
    Reports s v e ∨ v.IsWideDouble ∧ e = .outOfRange .int64 v.display := by
  cases hwide : toWide s v with
  | error e' =>
    rw [toNarrow_of_error hwide] at h
    cases h
    exact toWide_error hwide
  | ok n =>
    rw [toNarrow_of_ok hwide] at h
    split at h <;> cases h
    exact .inl (.outOfRange (isNull_of_toWide hwide) _)

theorem toBool_error (h : toBool v = .error e) : Reports .bool v e := by
  cases v with
  | null => cases h; exact .null
  | bool b => cases h
  | int n =>
    simp only [toBool] at h
    split_ifs at h
    cases h
    exact .outOfRange rfl _
  | float x => cases h; exact .incompatible rfl
  | text s =>
    obtain rfl := toBool_text h
    exact .text s
  | bytes bs => cases h; exact .incompatible rfl

theorem toFloat_error (h : toFloat v = .error e) : Reports .float v e := by
  cases v with
  | null => cases h; exact .null
  | bool b => cases h; exact .incompatible rfl
  | int n => cases h
  | float x => cases h
  | text s =>
    obtain rfl := toFloat_text h
    exact .text s
  | bytes bs => cases h; exact .incompatible rfl

theorem toText_error (h : toText v = .error e) : Reports .text v e := by
  cases v with
  | null => cases h; exact .null
  | bool | int | float | text => cases h
  | bytes bs =>
    simp only [toText] at h
    split at h <;> cases h
    exact .bytes bs _

theorem toBytes_error (h : toBytes v = .error e) : Reports .bytes v e := by
  cases v with
  | null => cases h; exact .null
  | bool | int | float => cases h; exact .incompatible rfl
  | text | bytes => cases h

end Conversion

open Conversion

theorem Scalar.read_error {s : Scalar} {v : Value} {e : ConversionError} (h : s.read v = .error e) :
    Reports s v e ∨ s.isDetoured = true ∧ v.IsWideDouble ∧ e = .outOfRange .int64 v.display := by
  cases s with
  | bool => exact .inl (toBool_error h)
  | int64 => exact .inl (toInt64_error h)
  | float => exact .inl (toFloat_error h)
  | text => exact .inl (toText_error h)
  | bytes => exact .inl (toBytes_error h)
  | value => cases h
  | int32 | nat32 | nat64 => exact (toNarrow_error (error_of_map h)).imp_right fun hwide => ⟨rfl, hwide⟩

theorem Scalar.read_of_isWideDouble {s : Scalar} {v : Value} (hs : s.isDetoured = true)
    (hv : v.IsWideDouble) : s.read v = .error (.outOfRange .int64 v.display) := by
  cases s with
  | bool | int64 | float | text | bytes | value => cases hs
  | int32 | nat32 | nat64 =>
    rw [read, toNarrow_of_error (toWide_of_isWideDouble hv)]
    rfl

theorem FieldType.read_error {t : FieldType} {v : Value} {e : ConversionError}
    (h : t.read v = .error e) :
    t.scalar.read v = .error e ∧ (v = .null → t.isOptional = false) := by
  obtain ⟨s, isOptional⟩ := t
  cases isOptional with
  | false => exact ⟨h, fun _ => rfl⟩
  | true =>
    cases v with
    | null => cases h
    | bool | int | float | text | bytes => exact ⟨error_of_map h, nofun⟩

/-- An error names the type of the field, but for a narrower type of integers and a double that is no
64-bit integer.  Null fails as such and never for an optional field, text is quoted as it was, and an
incompatible value by its kind. -/
theorem errors_name_their_type {t : FieldType} {v : Value} {e : ConversionError}
    (h : t.read v = .error e) :
    (¬ (t.scalar.isDetoured = true ∧ v.IsWideDouble) → e.expected = t.scalar) ∧
      (t.scalar.isDetoured = true ∧ v.IsWideDouble → e = .outOfRange .int64 v.display) ∧
      (v = .null → t.isOptional = false ∧ e = .unexpectedNull t.scalar) ∧
      (∀ s, v = .text s → ∀ expected quoted, e = .parse expected quoted → quoted = s) ∧
      ∀ expected found, e = .incompatible expected found → found = v.kind := by
  obtain ⟨hread, hnull⟩ := FieldType.read_error h
  rcases Scalar.read_error hread with hreports | ⟨hdetoured, hwide, rfl⟩
  · have hexception : ¬ (t.scalar.isDetoured = true ∧ v.IsWideDouble) → e.expected = t.scalar := by
      intro _
      cases hreports <;> rfl
    refine ⟨hexception, fun ⟨hdetoured, hwide⟩ => ?_, fun hv => ⟨hnull hv, ?_⟩, ?_, ?_⟩
    · rw [Scalar.read_of_isWideDouble hdetoured hwide] at hread
      exact (Except.error.inj hread).symm
    · subst hv
      cases hreports with
      | null => rfl
      | incompatible given => cases given
      | outOfRange given => cases given
    · rintro s rfl expected quoted rfl
      cases hreports
      rfl
    · rintro expected found rfl
      cases hreports
      rfl
  · refine ⟨fun hexception => absurd ⟨hdetoured, hwide⟩ hexception, fun _ => rfl, ?_, ?_, ?_⟩
    · rintro rfl
      cases hwide.1
    · intro s hv expected quoted hparse
      cases hparse
    · intro expected found hincompatible
      cases hincompatible

/-- An optional field that is given the text of no number. -/
theorem errors_name_their_type_text :
    FieldType.read ⟨.nat32, true⟩ (.text " x ") = .error (.parse .nat32 " x ") ∧
      (ConversionError.parse .nat32 " x ").expected = .nat32 := by
  have h : FieldType.read ⟨.nat32, true⟩ (.text " x ") = .error (.parse .nat32 " x ") := by
    rfl
  exact ⟨h, (errors_name_their_type h).1 fun hexception => nomatch hexception.2.1⟩

/-- A half read as a narrower integer is told about the wide type. -/
theorem half_reports_other_type :
    FieldType.read ⟨.int32, false⟩ (.float ⟨0x3FF8000000000000⟩) = .error (.outOfRange .int64 "1.5") ∧
      (ConversionError.outOfRange .int64 "1.5").expected ≠ .int32 := by
  refine ⟨?_, by decide⟩
  show (Conversion.toNarrow .int32 fitsInt32 (.float ⟨0x3FF8000000000000⟩)).map Int32.ofInt =
    .error (.outOfRange .int64 "1.5")
  decide +kernel

end RecordMapping
