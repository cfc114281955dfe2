import RecordMapping.Target.Record

/-!
# RecordMapping.Proofs.JsonText — documents in one line

A string escapes its control characters, whatever it holds, and the other tokens have none, so the
compact text of a document is `Unbroken` as long as its numbers are.  A number of a value is made of
digits with at most a sign and a point, so the text of a record is one line.
-/

namespace RecordMapping

/-! ### Text without control characters -/

/-- No control character, so none that ends a line. -/
def Text.Unbroken (cs : List Char) : Prop := ∀ c ∈ cs, 0x20 ≤ c.toNat

namespace Text

variable {cs ds : List Char}

@[simp] theorem unbroken_nil : Unbroken [] := nofun

@[simp] theorem unbroken_cons {c : Char} : Unbroken (c :: cs) ↔ 0x20 ≤ c.toNat ∧ Unbroken cs :=
  List.forall_mem_cons

@[simp] theorem unbroken_append : Unbroken (cs ++ ds) ↔ Unbroken cs ∧ Unbroken ds :=
  List.forall_mem_append

theorem unbroken_flatMap {α : Type} {xs : List α} {f : α → List Char}
    (h : ∀ x ∈ xs, Unbroken (f x)) : Unbroken (xs.flatMap f) := by
  intro c hc
  obtain ⟨x, hx, hc⟩ := List.mem_flatMap.mp hc
  exact h x hx c hc

theorem unbroken_replicate {n : Nat} {c : Char} (h : 0x20 ≤ c.toNat) :
    Unbroken (List.replicate n c) := by
  intro d hd
  rw [List.eq_of_mem_replicate hd]
  exact h

theorem Unbroken.sublist (h : Unbroken cs) (hsub : ds.Sublist cs) : Unbroken ds :=
  fun c hc => h c (hsub.subset hc)

theorem Unbroken.newline_not_mem (h : Unbroken cs) : '\n' ∉ cs := by
  intro hmem
  exact absurd (h '\n' hmem) (by decide)

theorem unbroken_toDigits (n : Nat) : Unbroken (Nat.toDigits 10 n) := by
  intro c hc
  have hdigit := Nat.isDigit_of_mem_toDigits (by decide) (by decide) hc
  obtain ⟨hlow, -⟩ := Char.isDigit_iff_toNat.mp hdigit
  exact Nat.le_trans (by decide) hlow

theorem unbroken_hexDigit : ∀ n < 16, 0x20 ≤ (hexDigit n).toNat := by decide

end Text

open Text (Unbroken unbroken_toDigits)

/-! ### Numbers -/

namespace JsonNumber

/-- The marks between the digits are no control characters. -/
theorem unbroken_chars {n : JsonNumber} (hwhole : Unbroken n.whole)
    (hfraction : ∀ digits ∈ n.fraction, Unbroken digits)
    (hexponent : ∀ e ∈ n.exponent, Unbroken e.2) : Unbroken n.chars := by
  obtain ⟨negative, whole, fraction, exponent⟩ := n
  unfold chars
  simp only [Text.unbroken_append]
  refine ⟨⟨⟨?_, hwhole⟩, ?_⟩, ?_⟩
  · cases negative <;> simp
  · cases fraction with
    | none => exact Text.unbroken_nil
    | some digits => exact Text.unbroken_cons.mpr ⟨by decide, hfraction digits rfl⟩
  · cases exponent with
    | none => exact Text.unbroken_nil
    | some e =>
      have hdigits : Unbroken e.2 := hexponent e rfl
      cases hsign : e.1 <;> simp [hsign, hdigits]

theorem unbroken_ofInt (n : Int) : Unbroken (ofInt n).chars :=
  unbroken_chars (unbroken_toDigits _) nofun nofun

theorem unbroken_positional (d : Decimal) (marksIntegral : Bool) :
    Unbroken (d.positional marksIntegral) := by
  have hdigits : Unbroken d.digitText := unbroken_toDigits d.digits
  have hzeros (n : Nat) : Unbroken (List.replicate n '0') := Text.unbroken_replicate (by decide)
  unfold Decimal.positional
  cases d.exponent with
  | ofNat e => cases marksIntegral <;> simp [hdigits, hzeros]
  | negSucc e =>
    have hall := Text.unbroken_append.mpr ⟨hzeros (e + 1 + 1 - d.digitText.length), hdigits⟩
    simp only [Text.unbroken_append, Text.unbroken_cons]
    exact ⟨hall.sublist (List.take_sublist _ _), by decide, hall.sublist (List.drop_sublist _ _)⟩

/-- The digits of a double come from its decimal numeral. -/
theorem unbroken_ofBinary64 (x : Binary64) : Unbroken (ofBinary64 x).chars := by
  unfold ofBinary64 ofDecimal
  generalize x.shortest style.tie = d
  by_cases hstyle : style.isPositional d.leading = true
  · rw [if_pos hstyle]
    have htext := unbroken_positional d true
    refine unbroken_chars (htext.sublist (List.takeWhile_sublist _)) ?_ nofun
    intro digits hdigits
    obtain rfl := Option.some.inj hdigits
    exact htext.sublist ((List.drop_sublist _ _).trans (List.dropWhile_sublist _))
  · rw [if_neg hstyle]
    have htext : Unbroken d.digitText := unbroken_toDigits d.digits
    refine unbroken_chars (htext.sublist (List.take_sublist _ _)) ?_ ?_
    · intro digits hdigits
      dsimp only at hdigits
      split at hdigits
      · cases hdigits
      · obtain rfl := Option.some.inj hdigits
        exact htext.sublist (List.drop_sublist _ _)
    · intro e he
      obtain rfl := Option.some.inj he
      exact unbroken_toDigits _

end JsonNumber

/-! ### Documents -/

namespace Json

theorem unbroken_escapeChar (c : Char) : Unbroken (escapeChar c) := by
  have hbackslash : 0x20 ≤ backslash.toNat := by decide
  unfold escapeChar
  split
  case h_1 hquote => simp [hbackslash, hquote]
  case h_2 hbackslash' => simp [hbackslash, hbackslash']
  case h_8 =>
    by_cases hcontrol : c.toNat < 0x20
    · have hhigh := Text.unbroken_hexDigit (c.toNat / 16) (by omega)
      have hlow := Text.unbroken_hexDigit (c.toNat % 16) (by omega)
      simp [hcontrol, hbackslash, hhigh, hlow]
    · simp [hcontrol, Nat.le_of_not_lt hcontrol]
  -- control characters with a letter of their own
  all_goals simp [hbackslash]

theorem unbroken_quoteChars (cs : List Char) : Unbroken (quoteChars cs) := by
  have hmark : 0x20 ≤ quoteMark.toNat := by decide
  have hescaped : Unbroken (cs.flatMap escapeChar) :=
    Text.unbroken_flatMap fun c _ => unbroken_escapeChar c
  simp [quoteChars, hmark, hescaped]

theorem Token.unbroken_chars {t : Token} (h : ∀ n, t = .number n → Unbroken n.chars) :
    Unbroken t.chars := by
  cases t with
  | number n => exact h n rfl
  | string s => exact unbroken_quoteChars s.toList
  | bool b => cases b <;> simp [chars]
  | leftBracket | rightBracket | leftBrace | rightBrace | comma | colon | null => simp [chars]

theorem unbroken_render {j : Json} (h : ∀ n, .number n ∈ j.tokens → Unbroken n.chars) :
    Unbroken j.render.toList := by
  unfold render renderChars
  rw [String.toList_ofList]
  refine Text.unbroken_flatMap ?_
  intro t ht
  refine Token.unbroken_chars ?_
  rintro n rfl
  exact h n ht

theorem number_mem_itemTokens {n : JsonNumber} {items : List Json} :
    .number n ∈ itemTokens items ↔ ∃ item ∈ items, .number n ∈ item.tokens := by
  induction items with
  | nil => simp [itemTokens]
  | cons item rest ih => simp [itemTokens, ih]

theorem number_mem_memberTokens {n : JsonNumber} {members : List (String × Json)} :
    .number n ∈ memberTokens members ↔ ∃ m ∈ members, .number n ∈ m.2.tokens := by
  induction members with
  | nil => simp [memberTokens]
  | cons m rest ih => simp [memberTokens, ih]

/-- The numbers of an array are those of its items. -/
theorem number_mem_array {n : JsonNumber} {items : List Json} :
    .number n ∈ (array items).tokens ↔ ∃ item ∈ items, .number n ∈ item.tokens := by
  cases items with
  | nil => simp [tokens]
  | cons item rest => simp [tokens, number_mem_itemTokens]

/-- The numbers of an object are those of its members' values. -/
theorem number_mem_object {n : JsonNumber} {members : List (String × Json)} :
    .number n ∈ (object members).tokens ↔ ∃ m ∈ members, .number n ∈ m.2.tokens := by
  cases members with
  | nil => simp [tokens]
  | cons m rest => simp [tokens, number_mem_memberTokens]

end Json

/-! ### Values and records -/

/-- The numbers in the document of a value are those of integers and of finite doubles. -/
theorem Value.number_cases {v : Value} {n : JsonNumber} (h : .number n ∈ v.toJson.tokens) :
    (∃ k, n = JsonNumber.ofInt k) ∨ ∃ x, x.isFinite = true ∧ n = JsonNumber.ofBinary64 x := by
  cases v with
  | null => simp [toJson, Json.tokens] at h
  | bool b => simp [toJson, Json.tokens] at h
  | text s => simp [toJson, Json.tokens] at h
  | int k =>
    left
    exact ⟨k.toInt, by simpa [toJson, Json.ofInt, Json.tokens] using h⟩
  | float x =>
    rw [toJson] at h
    by_cases hfinite : x.isFinite = true
    · right
      exact ⟨x, hfinite, by simpa [hfinite, Json.tokens] using h⟩
    · simp [hfinite, Json.tokens] at h
  | bytes bs =>
    obtain ⟨item, hitem, hn⟩ := Json.number_mem_array.mp h
    obtain ⟨b, -, rfl⟩ := List.mem_map.mp hitem
    left
    exact ⟨b.toNat, by simpa [Json.ofNat, Json.ofInt, Json.tokens] using hn⟩

theorem Value.unbroken_number {v : Value} {n : JsonNumber} (h : .number n ∈ v.toJson.tokens) :
    Unbroken n.chars := by
  rcases number_cases h with ⟨k, rfl⟩ | ⟨x, -, rfl⟩
  · exact JsonNumber.unbroken_ofInt k
  · exact JsonNumber.unbroken_ofBinary64 x

/-- The document of a record is one line, whatever its names and its values are. -/
theorem Record.unbroken_renderJson (r : Record) : Unbroken r.renderJson.toList := by
  refine Json.unbroken_render ?_
  intro n hn
  obtain ⟨m, hm, hn⟩ := Json.number_mem_object.mp hn
  obtain ⟨f, -, rfl⟩ := List.mem_map.mp hm
  exact Value.unbroken_number hn

end RecordMapping
