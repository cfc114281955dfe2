import RecordMapping.Proofs.IntegerReading
import RecordMapping.Proofs.Rounding
import RecordMapping.Target.Property

/-!
# RecordMapping.Proofs.WideNaturals — natural numbers of 64 bits

The type `nat64` has twice as many natural numbers as the 64 signed bits by way of which it is read.  Of
its members it reads the lower half (`nat64_read_eq_ok_iff`).  From `2 ^ 63` on it refuses their digits and
their doubles, and also the value that it writes for them itself: rounding does not take a double below
`2 ^ 63` (`Binary64.two_pow_le_absolute_ofInt`).
-/

namespace RecordMapping

/-- The double of a natural number from `2 ^ 63` on is not less. -/
theorem Binary64.two_pow_le_absolute_ofInt {n : Nat} (h : 2 ^ 63 ≤ n) :
    2 ^ 63 ≤ (ofInt n).absolute := by
  have hpower : (ofMagnitude false (1086 * fractionLimit)).absolute = 2 ^ 63 := by
    have hsignificand : (ofMagnitude false (1086 * fractionLimit)).significand = 2 ^ 52 := by decide
    have hscale : (ofMagnitude false (1086 * fractionLimit)).scale = 11 := by decide
    rw [absolute, hsignificand, hscale]
    norm_num
  rw [← hpower, ofInt_natCast]
  apply absolute_le_absolute_ofRat (by decide)
  rw [hpower]
  exact_mod_cast h

namespace Scalar

open Conversion

variable {v : Value}

/-- The natural numbers that a `nat64` takes are those below `2 ^ 63`. -/
theorem nat64_read_eq_ok_iff {n : UInt64} :
    nat64.read v = .ok n ↔ n.toNat < 2 ^ 63 ∧ v.Denotes n.toNat := by
  have hn : n.toNat < 2 ^ 64 := n.toNat_lt
  refine (map_toNarrow_eq_ok_iff (fun k => UInt64.ofNat k.toNat) (fun a => (a.toNat : Int))
    UInt64.ofNat_toNat (fun k hk => ?_) ?_).trans ?_
  · obtain ⟨hnonneg, hk⟩ := fitsNat_iff.mp hk
    rw [UInt64.toNat_ofNat_of_lt' hk]
    omega
  · exact fitsNat_iff.mpr ⟨by omega, hn⟩
  · rw [fitsInt64_iff]
    refine and_congr_left fun _ => ?_
    omega

theorem nat64_read_of_toWide {e : ConversionError} (h : toWide .nat64 v = .error e) :
    nat64.read v = .error e := by
  rw [read, toNarrow_of_error h]
  rfl

/-- A text that denotes too great an integer is refused as if it denoted none. -/
theorem nat64_read_text_of_le {s : String} {n : Nat} (hs : (Value.text s).Denotes n) (hn : 2 ^ 63 ≤ n) :
    nat64.read (.text s) = .error (.parse .nat64 s) := by
  have hfits : ¬ fitsInt64 n = true := by
    rw [fitsInt64_iff]
    omega
  apply nat64_read_of_toWide
  rw [Value.denotes_text_iff] at hs
  simp only [toWide, parseInt64, hs, if_neg hfits]

theorem nat64_read_float_of_forall {x : Binary64} (hx : ∀ m : Int64, ¬ (Value.float x).Denotes m.toInt) :
    nat64.read (.float x) = .error (.outOfRange .int64 (Value.displayBinary64 x)) := by
  apply nat64_read_of_toWide
  rw [toWide_float]
  rcases toInt64_float x with ⟨m, h⟩ | h
  · exact absurd (toInt64_eq_ok_iff.mp h) (hx m)
  · exact h

theorem nat64_read_float_of_le {x : Binary64} {n : Nat} (hx : (Value.float x).Denotes n)
    (hn : 2 ^ 63 ≤ n) :
    nat64.read (.float x) = .error (.outOfRange .int64 (Value.displayBinary64 x)) := by
  apply nat64_read_float_of_forall
  intro m hm
  have hlt := m.toInt_lt
  have heq : (n : Int) = m.toInt := by
    rw [Value.denotes_float_iff] at hx hm
    exact Option.some.inj (hx.symm.trans hm)
  omega

theorem nat64_read_float_ofInt {n : Nat} (hn : 2 ^ 63 ≤ n) :
    nat64.read (.float (Binary64.ofInt n)) =
      .error (.outOfRange .int64 (Value.displayBinary64 (Binary64.ofInt n))) := by
  apply nat64_read_float_of_forall
  intro m hm
  have hlt := m.toInt_lt
  have hle := Binary64.two_pow_le_absolute_ofInt hn
  have hnegative : (Binary64.ofInt n).negative = false := by
    rw [Binary64.ofInt_natCast, Binary64.negative_ofRat]
  cases hm with
  | float finite exact =>
    rw [Binary64.exact, hnegative, if_neg Bool.false_ne_true] at exact
    rw [exact] at hle
    have : 2 ^ 63 ≤ m.toInt := by exact_mod_cast hle
    omega

theorem nat64_write_of_lt {n : UInt64} (h : n.toNat < 2 ^ 63) :
    nat64.write n = .int (Int64.ofInt n.toNat) := if_pos h

theorem nat64_write_of_le {n : UInt64} (h : 2 ^ 63 ≤ n.toNat) :
    nat64.write n = .float (Binary64.ofInt n.toNat) := if_neg (not_lt.mpr h)

theorem denotes_toString (n : Nat) : (Value.text (toString n)).Denotes n := by
  have h := @Value.Denotes.text [] (Nat.toDigits 10 n) [] n nofun (numeral_toDigits n) nofun
  rwa [List.nil_append, List.append_nil] at h

/-- What becomes of a member of `nat64` as digits, as a double that is it, as the value that is written
for it, and as a property that is read and set again.  The lower half comes back; the upper half is
refused, as a double with the name of another type. -/
theorem lower_half_of_nat64_comes_back (n : UInt64) :
    nat64.read (.text (toString n.toNat)) =
        (if n.toNat < 2 ^ 63 then .ok n else .error (.parse .nat64 (toString n.toNat))) ∧
      (∀ x : Binary64, x.isFinite = true → x.exact = n.toNat →
        nat64.read (.float x) =
          if n.toNat < 2 ^ 63 then .ok n else .error (.outOfRange .int64 (Value.displayBinary64 x))) ∧
      nat64.read (nat64.write n) =
        (if n.toNat < 2 ^ 63 then .ok n
        else .error (.outOfRange .int64 (Value.displayBinary64 (Binary64.ofInt n.toNat)))) ∧
      ∀ (σ : Type) (name : String) (get : σ → UInt64) (set : σ → UInt64 → σ) (s : σ), get s = n →
        let p := Property.ofField name ⟨.nat64, false⟩ get set
        p.set s (p.get s) =
          if n.toNat < 2 ^ 63 then .ok (set s n)
          else .error (.outOfRange .int64 (Value.displayBinary64 (Binary64.ofInt n.toNat))) := by
  have hwritten : nat64.read (nat64.write n) =
      if n.toNat < 2 ^ 63 then .ok n
      else .error (.outOfRange .int64 (Value.displayBinary64 (Binary64.ofInt n.toNat))) := by
    split
    case isTrue h =>
      rw [nat64_write_of_lt h, nat64_read_eq_ok_iff]
      have hn : (Int64.ofInt n.toNat).toInt = n.toNat := Int64.toInt_ofInt_of_le (by omega) (by omega)
      have hdenotes := Value.Denotes.int (Int64.ofInt n.toNat)
      rw [hn] at hdenotes
      exact ⟨h, hdenotes⟩
    case isFalse h => rw [nat64_write_of_le (not_lt.mp h), nat64_read_float_ofInt (not_lt.mp h)]
  refine ⟨?_, fun x hfinite hexact => ?_, hwritten, ?_⟩
  · have hdenotes := denotes_toString n.toNat
    split
    case isTrue h => exact nat64_read_eq_ok_iff.mpr ⟨h, hdenotes⟩
    case isFalse h => exact nat64_read_text_of_le hdenotes (not_lt.mp h)
  · have hdenotes : (Value.float x).Denotes n.toNat := .float hfinite (by exact_mod_cast hexact)
    split
    case isTrue h => exact nat64_read_eq_ok_iff.mpr ⟨h, hdenotes⟩
    case isFalse h => exact nat64_read_float_of_le hdenotes (not_lt.mp h)
  · rintro σ name get set s rfl
    have hset : (Property.ofField name ⟨.nat64, false⟩ get set).set s (nat64.write (get s)) =
        (nat64.read (nat64.write (get s))).map (set s) := Property.set_ofField ..
    refine hset.trans ?_
    rw [hwritten]
    split <;> rfl

/-- The double that is the least member of the upper half, and a counter that stands there. -/
theorem lower_half_of_nat64_comes_back_two_pow :
    let counter := Property.ofField "Count" ⟨.nat64, false⟩ id fun _ n => n
    (⟨0x43E0000000000000⟩ : Binary64).isFinite = true ∧
      (⟨0x43E0000000000000⟩ : Binary64).exact = (9223372036854775808 : UInt64).toNat ∧
      nat64.read (.float ⟨0x43E0000000000000⟩) =
        .error (.outOfRange .int64 "9223372036854776000") ∧
      counter.set 9223372036854775808 (counter.get 9223372036854775808) =
        .error (.outOfRange .int64 "9223372036854776000") := by
  obtain ⟨hfinite, hexact⟩ := Binary64.toInt?_eq_some_iff.mp
    (by decide : (⟨0x43E0000000000000⟩ : Binary64).toInt? = some 9223372036854775808)
  have hexact : (⟨0x43E0000000000000⟩ : Binary64).exact = (9223372036854775808 : UInt64).toNat := hexact
  obtain ⟨-, hfloat, -, hproperty⟩ := lower_half_of_nat64_comes_back 9223372036854775808
  refine ⟨hfinite, hexact, (hfloat _ hfinite hexact).trans ?_,
    (hproperty _ "Count" id (fun _ n => n) _ rfl).trans ?_⟩ <;>
  · rw [if_neg (by decide)]
    decide +kernel

/-- The least member of the upper half is refused as digits and as the double that is written for it. -/
theorem nat64_refuses_two_pow :
    (9223372036854775808 : UInt64).toNat = 2 ^ 63 ∧
      nat64.read (.text "9223372036854775808") = .error (.parse .nat64 "9223372036854775808") ∧
      nat64.write 9223372036854775808 = .float ⟨0x43E0000000000000⟩ ∧
      (⟨0x43E0000000000000⟩ : Binary64).toInt? = some (2 ^ 63) ∧
      nat64.read (.float ⟨0x43E0000000000000⟩) =
        .error (.outOfRange .int64 "9223372036854776000") := by
  decide +kernel

end Scalar

end RecordMapping
