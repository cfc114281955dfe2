import RecordMapping.Number.Numeral
import RecordMapping.Proofs.Words
import Mathlib.Algebra.Group.Nat.Defs

/-!
# RecordMapping.Proofs.Numerals — integers in text

`Numeral cs n` says that `cs` is an optional sign and one or more ASCII digits, and `n` the integer
that they write.  `readInteger` reads the numerals and nothing else (`readInteger_eq_some_iff`).  Blanks
may stand around a numeral, which trimming takes away (`readInteger_trimChars_iff`).
-/

namespace RecordMapping

/-! ### Digits -/

theorem isDigit_eq_true {c : Char} : isDigit c = true ↔ 0x30 ≤ c.toNat ∧ c.toNat ≤ 0x39 := by
  unfold isDigit digitValue?
  by_cases h : '0' ≤ c ∧ c ≤ '9'
  · rw [if_pos h]
    exact ⟨fun _ => h, fun _ => rfl⟩
  · rw [if_neg h]
    exact ⟨nofun, fun hc => absurd hc h⟩

theorem isDigit_eq (c : Char) : isDigit c = c.isDigit := by
  rw [Bool.eq_iff_iff, isDigit_eq_true, Char.isDigit_iff_toNat]
  rfl

/-- The digits of a natural number are digits. -/
theorem isDigit_of_mem_toDigits {n : Nat} {c : Char} (h : c ∈ Nat.toDigits 10 n) :
    isDigit c = true := by
  rw [isDigit_eq]
  exact Nat.isDigit_of_mem_toDigits (by decide) (by decide) h

theorem isDigit_of_mem_zeros {k : Nat} {c : Char} (h : c ∈ List.replicate k '0') : isDigit c = true := by
  obtain rfl := List.eq_of_mem_replicate h
  rfl

/-- Digits write the number that they write in positional notation. -/
theorem digitsValue_eq {cs : List Char} (h : ∀ c ∈ cs, isDigit c = true) :
    digitsValue cs = Nat.ofDigitChars 10 cs 0 := by
  have hfold (k : Nat) : cs.foldl (fun n c => 10 * n + (digitValue? c).getD 0) k =
      Nat.ofDigitChars 10 cs k := by
    induction cs generalizing k with
    | nil => rfl
    | cons c rest ih =>
      obtain ⟨hc, hrest⟩ := List.forall_mem_cons.mp h
      have hvalue : (digitValue? c).getD 0 = c.toNat - '0'.toNat := by
        have hrange : '0' ≤ c ∧ c ≤ '9' := isDigit_eq_true.mp hc
        rw [digitValue?, if_pos hrange, Option.getD_some]
      rw [List.foldl_cons, ih hrest, Nat.ofDigitChars_cons, hvalue]
  exact hfold 0

@[simp] theorem digitsValue_toDigits (n : Nat) : digitsValue (Nat.toDigits 10 n) = n := by
  rw [digitsValue_eq fun c => isDigit_of_mem_toDigits, Nat.ofDigitChars_ten_toDigits]

/-- Zeros after digits multiply, zeros before them do nothing. -/
theorem digitsValue_append_zeros {cs : List Char} (h : ∀ c ∈ cs, isDigit c = true) (k : Nat) :
    digitsValue (cs ++ List.replicate k '0') = digitsValue cs * 10 ^ k := by
  have hall : ∀ c ∈ cs ++ List.replicate k '0', isDigit c = true :=
    List.forall_mem_append.mpr ⟨h, fun _ => isDigit_of_mem_zeros⟩
  rw [digitsValue_eq hall, digitsValue_eq h, Nat.ofDigitChars_append, Nat.ofDigitChars_replicate_zero,
    Nat.mul_comm]

theorem digitsValue_zeros_append (k : Nat) (cs : List Char) :
    digitsValue (List.replicate k '0' ++ cs) = digitsValue cs := by
  have hzeros : digitsValue (List.replicate k '0') = 0 := by
    have h : digitsValue ([] ++ List.replicate k '0') = digitsValue [] * 10 ^ k :=
      digitsValue_append_zeros (fun _ hc => absurd hc List.not_mem_nil) k
    rwa [List.nil_append, show digitsValue [] = 0 from rfl, Nat.zero_mul] at h
  unfold digitsValue at hzeros ⊢
  rw [List.foldl_append, hzeros]

/-! ### Signs -/

theorem splitSign_digit {d : Char} (h : isDigit d = true) (rest : List Char) :
    splitSign (d :: rest) = (false, d :: rest) := by
  unfold splitSign
  split
  case h_1 heq =>
    obtain rfl := (List.cons.inj heq).1
    exact absurd h (by decide)
  case h_2 heq =>
    obtain rfl := (List.cons.inj heq).1
    exact absurd h (by decide)
  case h_3 => rfl

/-- An optional sign and one or more ASCII digits, with the integer that they write. -/
inductive Numeral : List Char → Int → Prop
  | unsigned {digits : List Char} (nonempty : digits ≠ [])
    (ascii : ∀ c ∈ digits, c.isDigit = true) : Numeral digits (Nat.ofDigitChars 10 digits 0)
  | plus {digits : List Char} (nonempty : digits ≠ []) (ascii : ∀ c ∈ digits, c.isDigit = true) :
    Numeral ('+' :: digits) (Nat.ofDigitChars 10 digits 0)
  | minus {digits : List Char} (nonempty : digits ≠ []) (ascii : ∀ c ∈ digits, c.isDigit = true) :
    Numeral ('-' :: digits) (-(Nat.ofDigitChars 10 digits 0 : Nat))

theorem splitSign_cases {cs digits : List Char} {negative : Bool}
    (h : splitSign cs = (negative, digits)) :
    negative = true ∧ cs = '-' :: digits ∨ negative = false ∧ (cs = '+' :: digits ∨ cs = digits) := by
  unfold splitSign at h
  split at h <;> obtain ⟨rfl, rfl⟩ := Prod.mk.inj h <;> simp

theorem readInteger_of_digits {cs digits : List Char} {negative : Bool}
    (hsplit : splitSign cs = (negative, digits)) (hdigits : digits ≠ [])
    (hascii : ∀ c ∈ digits, c.isDigit = true) :
    readInteger cs = some (if negative = true then -(Nat.ofDigitChars 10 digits 0 : Int)
      else (Nat.ofDigitChars 10 digits 0 : Int)) := by
  have hisDigit : ∀ c ∈ digits, isDigit c = true := fun c hc => (isDigit_eq c).trans (hascii c hc)
  unfold readInteger
  rw [hsplit]
  dsimp only
  rw [if_pos ⟨hdigits, List.all_eq_true.mpr hisDigit⟩, digitsValue_eq hisDigit]

theorem readInteger_eq_some_iff {cs : List Char} {n : Int} :
    readInteger cs = some n ↔ Numeral cs n := by
  constructor
  · intro h
    rcases hsplit : splitSign cs with ⟨negative, digits⟩
    by_cases hdigits : digits ≠ [] ∧ digits.all isDigit = true
    · have hascii : ∀ c ∈ digits, c.isDigit = true := fun c hc =>
        (isDigit_eq c).symm.trans (List.all_eq_true.mp hdigits.2 c hc)
      rw [readInteger_of_digits hsplit hdigits.1 hascii] at h
      obtain rfl := Option.some.inj h
      rcases splitSign_cases hsplit with ⟨rfl, rfl⟩ | ⟨rfl, rfl | rfl⟩
      · exact .minus hdigits.1 hascii
      · exact .plus hdigits.1 hascii
      · exact .unsigned hdigits.1 hascii
    · simp only [readInteger, hsplit, if_neg hdigits] at h
      cases h
  · intro h
    cases h with
    | @unsigned digits nonempty ascii =>
      obtain ⟨d, rest, rfl⟩ := List.exists_cons_of_ne_nil nonempty
      have hd : isDigit d = true := (isDigit_eq d).trans (ascii d List.mem_cons_self)
      exact readInteger_of_digits (splitSign_digit hd rest) nonempty ascii
    | plus nonempty ascii => exact readInteger_of_digits rfl nonempty ascii
    | minus nonempty ascii => exact readInteger_of_digits rfl nonempty ascii

theorem ascii_toDigits (n : Nat) : ∀ c ∈ Nat.toDigits 10 n, c.isDigit = true :=
  fun _ hc => Nat.isDigit_of_mem_toDigits (by decide) (by decide) hc

theorem numeral_toDigits (n : Nat) : Numeral (Nat.toDigits 10 n) n := by
  have h := Numeral.unsigned Nat.toDigits_ne_nil (ascii_toDigits n)
  rwa [Nat.ofDigitChars_ten_toDigits] at h

/-- The text of an integer is a numeral that writes it. -/
theorem numeral_toString (n : Int) : Numeral (toString n).toList n := by
  cases n with
  | ofNat m =>
    show Numeral m.repr.toList m
    rw [Nat.toList_repr]
    exact numeral_toDigits m
  | negSucc m =>
    have h := Numeral.minus Nat.toDigits_ne_nil (ascii_toDigits (m + 1))
    rw [Nat.ofDigitChars_ten_toDigits] at h
    show Numeral ("-" ++ (m + 1).repr).toList _
    rw [String.toList_append, Nat.toList_repr]
    exact h

/-! ### Blanks around a numeral -/

/-- The characters of a numeral are no blanks. -/
theorem Numeral.not_isBlank {cs : List Char} {n : Int} (h : Numeral cs n) :
    ∀ c ∈ cs, Text.isBlank c = false := by
  have hdigit {c : Char} (hc : c.isDigit = true) : Text.isBlank c = false := by
    obtain ⟨hlow, hhigh⟩ := Char.isDigit_iff_toNat.mp hc
    have hrange : 0x30 ≤ c.toNat ∧ c.toNat ≤ 0x39 := ⟨hlow, hhigh⟩
    simp [Text.isBlank]
    omega
  cases h with
  | unsigned nonempty ascii => exact fun c hc => hdigit (ascii c hc)
  | plus nonempty ascii =>
    exact List.forall_mem_cons.mpr ⟨by decide, fun c hc => hdigit (ascii c hc)⟩
  | minus nonempty ascii =>
    exact List.forall_mem_cons.mpr ⟨by decide, fun c hc => hdigit (ascii c hc)⟩

/-- A text is read as an integer if it is a numeral of it but for blanks at its ends. -/
theorem readInteger_trimChars_iff {cs : List Char} {n : Int} :
    readInteger (Text.trimChars cs) = some n ↔
      ∃ before numeral after, (∀ c ∈ before, Text.isBlank c = true) ∧
        (∀ c ∈ after, Text.isBlank c = true) ∧ Numeral numeral n ∧
        cs = before ++ (numeral ++ after) := by
  rw [readInteger_eq_some_iff]
  constructor
  · intro h
    obtain ⟨before, after, hbefore, hafter, hcs⟩ := Text.exists_trimMatches Text.isBlank cs
    exact ⟨before, _, after, hbefore, hafter, h, hcs⟩
  · rintro ⟨before, numeral, after, hbefore, hafter, h, rfl⟩
    have htrim := Text.trimMatches_append hbefore (.of_forall h.not_isBlank) hafter
    rwa [Text.trimChars, htrim]

end RecordMapping
