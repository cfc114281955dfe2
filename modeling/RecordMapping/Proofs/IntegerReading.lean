import RecordMapping.Proofs.ExactDoubles
import RecordMapping.Proofs.Numerals
import RecordMapping.Value.Conversion

/-!
# RecordMapping.Proofs.IntegerReading — reading the integer that a value denotes

`Value.Denotes v n` says which integer a value stands for, by its variant and without regard to any
type.  All integer types are read by way of 64 signed bits.  That loses nothing and adds nothing as far
as these bits go (`toNarrow_eq_ok_iff`), so a type that has no integer beyond them gives exactly the
integers of its range.
-/

namespace RecordMapping

/-- The integer that a value denotes.  Text denotes the integer of a numeral, with blanks around it or
without; a double denotes its number, if that is an integer. -/
inductive Value.Denotes : Value → Int → Prop
  | int (m : Int64) : Denotes (.int m) m.toInt
  | bool (b : Bool) : Denotes (.bool b) (if b = true then 1 else 0)
  | float {x : Binary64} {n : Int} (finite : x.isFinite = true) (exact : x.exact = n) :
    Denotes (.float x) n
  | text {before numeral after : List Char} {n : Int}
    (blankBefore : ∀ c ∈ before, Text.isBlank c = true) (writes : Numeral numeral n)
    (blankAfter : ∀ c ∈ after, Text.isBlank c = true) :
    Denotes (.text (String.ofList (before ++ (numeral ++ after)))) n

theorem Value.denotes_float_iff {x : Binary64} {n : Int} :
    Denotes (.float x) n ↔ x.toInt? = some n := by
  rw [Binary64.toInt?_eq_some_iff]
  constructor
  · intro h
    cases h with
    | float finite exact => exact ⟨finite, exact⟩
  · rintro ⟨finite, exact⟩
    exact .float finite exact

theorem Value.denotes_text_iff {s : String} {n : Int} :
    Denotes (.text s) n ↔ readInteger (Text.trimChars s.toList) = some n := by
  rw [readInteger_trimChars_iff]
  constructor
  · intro h
    cases h with
    | @text before numeral after _ blankBefore writes blankAfter =>
      exact ⟨before, numeral, after, blankBefore, blankAfter, writes, String.toList_ofList⟩
  · rintro ⟨before, numeral, after, blankBefore, blankAfter, writes, hs⟩
    obtain rfl : s = String.ofList (before ++ (numeral ++ after)) := by
      rw [← hs, String.ofList_toList]
    exact .text blankBefore writes blankAfter

namespace Conversion

/-! ### By way of 64 bits -/

theorem fitsInt64_iff {k : Int} : fitsInt64 k = true ↔ -2 ^ 63 ≤ k ∧ k < 2 ^ 63 := by
  unfold fitsInt64
  rw [decide_eq_true_iff]
  norm_num

theorem fitsInt64_toInt (n : Int64) : fitsInt64 n.toInt = true :=
  fitsInt64_iff.mpr ⟨n.le_toInt, n.toInt_lt⟩

/-- An integer that fits is taken as it is, any other is refused. -/
theorem checked_eq_ok_iff {k : Int} {n : Int64} {e : ConversionError} :
    (if fitsInt64 k = true then Except.ok (Int64.ofInt k) else .error e) = .ok n ↔ k = n.toInt := by
  by_cases hfits : fitsInt64 k = true
  · obtain ⟨hlow, hhigh⟩ := fitsInt64_iff.mp hfits
    rw [if_pos hfits, Except.ok.injEq]
    constructor
    · rintro rfl
      exact (Int64.toInt_ofInt_of_le hlow hhigh).symm
    · rintro rfl
      exact n.ofInt_toInt
  · rw [if_neg hfits]
    refine ⟨nofun, ?_⟩
    rintro rfl
    exact absurd (fitsInt64_toInt n) hfits

theorem parseInt64_eq_ok_iff {expected : Scalar} {s : String} {n : Int64} :
    parseInt64 expected s = .ok n ↔ Value.Denotes (.text s) n.toInt := by
  rw [Value.denotes_text_iff, parseInt64]
  cases readInteger (Text.trimChars s.toList) with
  | none => exact ⟨nofun, nofun⟩
  | some k => rw [checked_eq_ok_iff, Option.some_inj]

/-- A value is read as the 64-bit integer that it denotes. -/
theorem toInt64_eq_ok_iff {v : Value} {n : Int64} : toInt64 v = .ok n ↔ v.Denotes n.toInt := by
  cases v with
  | null => exact ⟨nofun, nofun⟩
  | bytes bs => exact ⟨nofun, nofun⟩
  | text s => exact parseInt64_eq_ok_iff
  | int m =>
    rw [toInt64, Except.ok.injEq]
    constructor
    · rintro rfl
      exact .int m
    · intro h
      generalize hk : n.toInt = k at h
      cases h with
      | int => exact Int64.toInt_inj.mp hk.symm
  | bool b =>
    have hbool : (if b then 1 else 0 : Int64).toInt = if b = true then 1 else 0 := by
      cases b <;> decide
    rw [toInt64, Except.ok.injEq, ← Int64.toInt_inj, hbool]
    constructor
    · intro h
      rw [← h]
      exact .bool b
    · intro h
      generalize n.toInt = k at h ⊢
      cases h with
      | bool => rfl
  | float x =>
    rw [Value.denotes_float_iff, toInt64]
    cases x.toInt? with
    | none => exact ⟨nofun, nofun⟩
    | some k => rw [checked_eq_ok_iff, Option.some_inj]

/-- A double that is no 64-bit integer is always refused in the same words. -/
theorem toInt64_float (x : Binary64) :
    (∃ n, toInt64 (.float x) = .ok n) ∨
      toInt64 (.float x) = .error (.outOfRange .int64 (Value.displayBinary64 x)) := by
  simp only [toInt64]
  cases x.toInt? with
  | none => exact .inr rfl
  | some k =>
    by_cases hfits : fitsInt64 k = true
    · exact .inl ⟨Int64.ofInt k, if_pos hfits⟩
    · exact .inr (if_neg hfits)

theorem toWide_float (expected : Scalar) (x : Binary64) :
    toWide expected (.float x) = toInt64 (.float x) := by
  rcases toInt64_float x with ⟨n, h⟩ | h <;> simp only [toWide, h]

/-- The detour of the narrower types changes errors alone. -/
theorem toWide_eq_ok_iff {expected : Scalar} {v : Value} {n : Int64} :
    toWide expected v = .ok n ↔ v.Denotes n.toInt := by
  rw [← toInt64_eq_ok_iff]
  cases v with
  | null => exact ⟨nofun, nofun⟩
  | text s => rw [toInt64_eq_ok_iff, toWide, parseInt64_eq_ok_iff]
  | bytes bs => exact ⟨nofun, nofun⟩
  | bool b => rfl
  | int m => rfl
  | float x => rw [toWide_float]

theorem toNarrow_of_error {expected : Scalar} {fits : Int → Bool} {v : Value} {e : ConversionError}
    (h : toWide expected v = .error e) : toNarrow expected fits v = .error e := by
  unfold toNarrow
  rw [h]
  rfl

theorem toNarrow_of_ok {expected : Scalar} {fits : Int → Bool} {v : Value} {wide : Int64}
    (h : toWide expected v = .ok wide) :
    toNarrow expected fits v =
      if fits wide.toInt = true then .ok wide.toInt
      else .error (.outOfRange expected (Value.displayInt wide.toInt)) := by
  unfold toNarrow
  rw [h]
  rfl

/-- A narrower type reads the integers of its own that a value denotes, if 64 bits hold them. -/
theorem toNarrow_eq_ok_iff {expected : Scalar} {fits : Int → Bool} {v : Value} {n : Int} :
    toNarrow expected fits v = .ok n ↔ fits n = true ∧ fitsInt64 n = true ∧ v.Denotes n := by
  constructor
  · intro h
    cases hwide : toWide expected v with
    | error e =>
      rw [toNarrow_of_error hwide] at h
      cases h
    | ok wide =>
      rw [toNarrow_of_ok hwide] at h
      split at h
      · next hfits =>
        obtain rfl := Except.ok.inj h
        exact ⟨hfits, fitsInt64_toInt wide, toWide_eq_ok_iff.mp hwide⟩
      · cases h
  · rintro ⟨hfits, hwide, hdenotes⟩
    obtain ⟨hlow, hhigh⟩ := fitsInt64_iff.mp hwide
    have hn : (Int64.ofInt n).toInt = n := Int64.toInt_ofInt_of_le hlow hhigh
    have hread : toWide expected v = .ok (Int64.ofInt n) := toWide_eq_ok_iff.mpr (by rwa [hn])
    rw [toNarrow_of_ok hread, hn, if_pos hfits]

/-- The same for the members `α` of the type, which are the integers that it has. -/
theorem map_toNarrow_eq_ok_iff {α : Type} {expected : Scalar} {fits : Int → Bool} (ofInt : Int → α)
    (toInt : α → Int) {v : Value} {a : α} (hleft : ofInt (toInt a) = a)
    (hright : ∀ n, fits n = true → toInt (ofInt n) = n) (hfits : fits (toInt a) = true) :
    (toNarrow expected fits v).map ofInt = .ok a ↔
      fitsInt64 (toInt a) = true ∧ v.Denotes (toInt a) := by
  constructor
  · intro h
    cases hread : toNarrow expected fits v with
    | error e =>
      rw [hread] at h
      cases h
    | ok n =>
      rw [hread] at h
      obtain rfl := Except.ok.inj h
      have hn := toNarrow_eq_ok_iff.mp hread
      rw [hright n hn.1]
      exact hn.2
  · rintro ⟨hwide, hdenotes⟩
    have hread : toNarrow expected fits v = .ok (toInt a) :=
      toNarrow_eq_ok_iff.mpr ⟨hfits, hwide, hdenotes⟩
    rw [hread]
    exact congrArg Except.ok hleft

end Conversion

/-! ### The integer types -/

namespace Scalar

open Conversion

variable {v : Value}

theorem int32_read_eq_ok_iff {n : Int32} : int32.read v = .ok n ↔ v.Denotes n.toInt := by
  have hlow : -2 ^ 31 ≤ n.toInt := n.le_toInt
  have hhigh : n.toInt < 2 ^ 31 := n.toInt_lt
  have hwide : fitsInt64 n.toInt = true := fitsInt64_iff.mpr (by omega)
  refine (map_toNarrow_eq_ok_iff Int32.ofInt Int32.toInt n.ofInt_toInt (fun k hk => ?_) ?_).trans
    (and_iff_right hwide)
  · have hk : -2 ^ 31 ≤ k ∧ k < 2 ^ 31 := by simpa [fitsInt32] using hk
    exact Int32.toInt_ofInt_of_le hk.1 hk.2
  · simp only [fitsInt32, decide_eq_true_iff]
    omega

/-- A width of natural numbers, whose members are those below the power of two. -/
theorem fitsNat_iff {width : Nat} {k : Int} : fitsNat width k = true ↔ 0 ≤ k ∧ k.toNat < 2 ^ width := by
  unfold fitsNat
  rw [decide_eq_true_iff]
  simp only [Nat.pow_eq]
  omega

theorem nat32_read_eq_ok_iff {n : UInt32} : nat32.read v = .ok n ↔ v.Denotes n.toNat := by
  have hn : n.toNat < 2 ^ 32 := n.toNat_lt
  have hwide : fitsInt64 n.toNat = true := fitsInt64_iff.mpr (by omega)
  refine (map_toNarrow_eq_ok_iff (fun k => UInt32.ofNat k.toNat) (fun a => (a.toNat : Int))
    UInt32.ofNat_toNat (fun k hk => ?_) ?_).trans (and_iff_right hwide)
  · obtain ⟨hnonneg, hk⟩ := fitsNat_iff.mp hk
    rw [UInt32.toNat_ofNat_of_lt' hk]
    omega
  · exact fitsNat_iff.mpr ⟨by omega, hn⟩

/-- The narrower types of integers read exactly the integers of their range: `n` comes of the values
that denote it and of no other. -/
theorem reads_integers_in_range (v : Value) :
    (∀ n : Int32, int32.read v = .ok n ↔ v.Denotes n.toInt) ∧
      (∀ n : Int64, int64.read v = .ok n ↔ v.Denotes n.toInt) ∧
      ∀ n : UInt32, nat32.read v = .ok n ↔ v.Denotes n.toNat :=
  ⟨fun _ => int32_read_eq_ok_iff, fun _ => toInt64_eq_ok_iff, fun _ => nat32_read_eq_ok_iff⟩

end Scalar

end RecordMapping
