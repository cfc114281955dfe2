import RecordMapping.Proofs.IntegerReading
import RecordMapping.Proofs.Projection

/-!
# RecordMapping.Proofs.TextDetours — values that go through text and come back

Every truth value, integer and text has a text, and bytes have one just when they are the UTF-8 of
some characters (`Text.IsUtf8`).  A property of the kind that the value had reads the value again
from that text.  Blanks around it are trimmed away for truth values and integers (`Kind.Restates`);
for texts and bytes they would be part of the value.

What `coerce` gives is null or of the kind that it was asked for, and such a value is left as it is
(`coerce_of_kind`).  So a second coercion changes nothing.
-/

namespace RecordMapping

/-! ### Bytes of characters -/

namespace Text

/-- The bytes are those of characters, one character after the other. -/
def IsUtf8 (bytes : List UInt8) : Prop := ∃ cs : List Char, bytes = cs.flatMap String.utf8EncodeChar

variable {bytes : List UInt8} {s : String}

theorem isValidUTF8_iff : (⟨bytes.toArray⟩ : ByteArray).IsValidUTF8 ↔ IsUtf8 bytes := by
  have hbytes (cs : List Char) :
      (⟨bytes.toArray⟩ : ByteArray) = cs.utf8Encode ↔ bytes = cs.flatMap String.utf8EncodeChar := by
    rw [ByteArray.ext_iff, List.utf8Encode, List.data_toByteArray]
    exact ⟨fun h => by simpa using congrArg Array.toList h, fun h => by rw [h]⟩
  constructor
  · rintro ⟨cs, h⟩
    exact ⟨cs, (hbytes cs).mp h⟩
  · rintro ⟨cs, h⟩
    exact ⟨cs, (hbytes cs).mpr h⟩

theorem decode?_eq_none_iff : decode? bytes = none ↔ ¬ IsUtf8 bytes := by
  rw [← isValidUTF8_iff]
  unfold decode? String.fromUTF8?
  split <;> simp [*]

/-- A text that bytes stand for has these bytes. -/
theorem encode_of_decode? (h : decode? bytes = some s) : encode s = bytes := by
  unfold decode? String.fromUTF8? at h
  split at h
  · obtain rfl := Option.some.inj h
    rfl
  · cases h

/-! ### Blanks around a word -/

theorem trimChars_between {before after : String} (hbefore : isBlankText before = true)
    (hs : ∀ c ∈ s.toList, isBlank c = false) (hafter : isBlankText after = true) :
    trimChars (before ++ s ++ after).toList = s.toList := by
  rw [String.toList_append, String.toList_append, List.append_assoc]
  exact trimMatches_append (List.all_eq_true.mp hbefore) (.of_forall hs)
    (List.all_eq_true.mp hafter)

end Text

/-- Do blanks around a text make no difference to a property of the kind? -/
def Kind.trims : Kind → Bool
  | bool | int | float => true
  | text | bytes | any => false

/-- The texts that say to a property of the kind what `s` says. -/
inductive Kind.Restates (k : Kind) (s : String) : String → Prop
  | same : Restates k s s
  | between {before after : String} (trims : k.trims = true)
    (blankBefore : Text.isBlankText before = true) (blankAfter : Text.isBlankText after = true) :
    Restates k s (before ++ s ++ after)

/-- A kind that trims finds the text again, if no character of it is blank. -/
theorem Kind.Restates.trimChars_eq {k : Kind} {s t : String} (h : k.Restates s t)
    (hs : ∀ c ∈ s.toList, Text.isBlank c = false) : Text.trimChars t.toList = s.toList := by
  cases h with
  | same =>
    have h := @Text.trimChars_between s "" "" rfl hs rfl
    rwa [String.empty_append, String.append_empty] at h
  | between trims blankBefore blankAfter => exact Text.trimChars_between blankBefore hs blankAfter

/-- A kind that does not trim takes the text alone. -/
theorem Kind.Restates.eq {k : Kind} {s t : String} (h : k.Restates s t) (hk : k.trims = false) :
    t = s := by
  cases h with
  | same => rfl
  | between trims => exact absurd trims (by simp [hk])

/-! ### Reading a text as the value that it came from -/

namespace Conversion

variable {t : String}

theorem toBool_restated {b : Bool} (h : Kind.bool.Restates (Value.bool b).display t) :
    toBool (.text t) = .ok b := by
  have hword : ∀ c ∈ (Value.bool b).display.toList, Text.isBlank c = false := by
    cases b <;> simp [Value.display] <;> decide
  have hspelled : spelledBool? t = some b := by
    unfold spelledBool? Text.trim
    rw [h.trimChars_eq hword]
    cases b <;> decide
  rw [toBool, hspelled]

theorem toInt64_restated {n : Int64} (h : Kind.int.Restates (Value.int n).display t) :
    toInt64 (.text t) = .ok n := by
  have hnumeral : Numeral (Value.int n).display.toList n.toInt := numeral_toString n.toInt
  rw [toInt64_eq_ok_iff, Value.denotes_text_iff, h.trimChars_eq hnumeral.not_isBlank,
    readInteger_eq_some_iff]
  exact hnumeral

/-- Bytes have no text just when they are not UTF-8, and every other value has one but null. -/
theorem toText_eq_error_iff {v : Value} :
    (∃ e, toText v = .error e) ↔ v = .null ∨ ∃ bs, v = .bytes bs ∧ ¬ Text.IsUtf8 bs := by
  cases v with
  | null => simp [toText]
  | bool | int | float | text => simp [toText]
  | bytes bs =>
    simp only [toText, Value.bytes.injEq, exists_eq_left', reduceCtorEq, false_or,
      ← Text.decode?_eq_none_iff]
    cases Text.decode? bs <;> simp

end Conversion

open Conversion

theorem coerce_toText {v : Value} (hv : v.kind ∈ [Kind.bool, .int, .text, .bytes]) {s t : String}
    (hs : toText v = .ok s) (ht : v.kind.Restates s t) : coerce v.kind (.text t) = .ok v := by
  cases v with
  | null | float => simp [Value.kind] at hv
  | bool b =>
    obtain rfl := Except.ok.inj hs
    show (toBool (.text t)).map Value.bool = _
    rw [toBool_restated ht]
    rfl
  | int n =>
    obtain rfl := Except.ok.inj hs
    show (toInt64 (.text t)).map Value.int = _
    rw [toInt64_restated ht]
    rfl
  | text s =>
    obtain rfl := Except.ok.inj hs
    rw [ht.eq rfl]
    rfl
  | bytes bs =>
    rw [ht.eq rfl]
    simp only [toText] at hs
    split at hs
    · next hdecode =>
      obtain rfl := Except.ok.inj hs
      show Except.ok (Value.bytes (Text.encode _)) = _
      rw [Text.encode_of_decode? hdecode]
    · cases hs

/-! ### Coercing twice -/

/-- A value of the kind is left as it is. -/
theorem coerce_of_kind (v : Value) : coerce v.kind v = .ok v := by
  cases v <;> rfl

theorem coerce_any (v : Value) : coerce .any v = .ok v := by
  cases v <;> rfl

theorem coerce_coerce {k : Kind} {v w : Value} (h : coerce k v = .ok w) : coerce k w = .ok w := by
  rcases coerce_cases h with ⟨-, rfl⟩ | ⟨-, rfl, -⟩ | ⟨-, -, rfl⟩
  · rfl
  · exact coerce_any w
  · exact coerce_of_kind w

theorem coerced_eq_null_iff {k : Kind} {v w : Value} (h : coerce k v = .ok w) :
    w = .null ↔ v = .null := by
  rcases coerce_cases h with ⟨hv, hw⟩ | ⟨-, -, rfl⟩ | ⟨hv, hk, hkind⟩
  · exact iff_of_true hw hv
  · rfl
  · refine iff_of_false ?_ hv
    rintro rfl
    exact hk hkind.symm

/-! ### The detour -/

/-- A truth value, an integer, a text or bytes have a text unless they are bytes that are not UTF-8,
and from that text a property of the kind reads the value again, for truth values and integers with
blanks around it as well.  What a coercion gives is left alone by another one.  It is null just when
the value was; of any other value it has the kind, or it is the value itself where the kind is
`any`. -/
theorem text_detour_loses_nothing (v : Value) (k : Kind) (w : Value) :
    (v.kind ∈ [Kind.bool, .int, .text, .bytes] →
      ((∃ e, Scalar.text.read v = .error e) ↔ ∃ bs, v = .bytes bs ∧ ¬ Text.IsUtf8 bs) ∧
      ∀ s, Scalar.text.read v = .ok s →
        ∀ t, v.kind.Restates s t → coerce v.kind (.text t) = .ok v) ∧
    ∀ x, coerce k w = .ok x →
      coerce k x = .ok x ∧ (x = .null ↔ w = .null) ∧
        (w ≠ .null → if k = .any then x = w else x.kind = k) := by
  constructor
  · intro hv
    refine ⟨?_, fun s hs t ht => coerce_toText hv hs ht⟩
    have hnull : v ≠ .null := by
      rintro rfl
      simp [Value.kind] at hv
    show (∃ e, toText v = .error e) ↔ _
    rw [toText_eq_error_iff, or_iff_right hnull]
  · intro x hx
    refine ⟨coerce_coerce hx, coerced_eq_null_iff hx, fun hw => ?_⟩
    rcases coerce_cases hx with ⟨hnull, -⟩ | ⟨-, hk, hsame⟩ | ⟨-, hk, hkind⟩
    · exact absurd hnull hw
    · rwa [if_pos hk]
    · rwa [if_neg hk]

/-- The least integer, with blanks of several scripts around it; bytes that stop in the middle of a
character; and a double that becomes an integer once. -/
theorem text_detour_loses_nothing_least :
    let least : Value := .int (-0x8000000000000000)
    let broken : Value := .bytes [0x61, 0xC3]
    Scalar.text.read least = .ok "-9223372036854775808" ∧
      coerce .int (.text "\u2003\n-9223372036854775808\u00a0") = .ok least ∧
      Scalar.text.read broken = .error (.parse .text "<2 non-utf8 bytes>") ∧
      ¬ Text.IsUtf8 [0x61, 0xC3] ∧
      coerce .int (.float ⟨0x4000000000000000⟩) = .ok (.int 2) ∧
      coerce .int (.int 2) = .ok (.int 2) := by
  intro least broken
  have hleast : Scalar.text.read least = .ok "-9223372036854775808" := rfl
  have hrestates :
      least.kind.Restates "-9223372036854775808" "\u2003\n-9223372036854775808\u00a0" :=
    @Kind.Restates.between .int _ "\u2003\n" "\u00a0" rfl (by decide) (by decide)
  have hbroken : Scalar.text.read broken = .error (.parse .text "<2 non-utf8 bytes>") := by
    decide +kernel
  have hdouble : coerce .int (.float ⟨0x4000000000000000⟩) = .ok (.int 2) := by decide +kernel
  obtain ⟨hdetour, hcoerce⟩ :=
    text_detour_loses_nothing least .int (.float ⟨0x4000000000000000⟩)
  obtain ⟨hfails, -⟩ := (text_detour_loses_nothing broken .any .null).1 (by decide)
  obtain ⟨bs, hbs, hnot⟩ := hfails.mp ⟨_, hbroken⟩
  obtain rfl := Value.bytes.inj hbs
  exact ⟨hleast, (hdetour (by decide)).2 _ hleast _ hrestates, hbroken, hnot, hdouble,
    (hcoerce _ hdouble).1⟩

end RecordMapping
