import RecordMapping.Json.Reader
import RecordMapping.Proofs.JsonText
import RecordMapping.Proofs.Numerals
import Mathlib.Data.List.Chain
import Mathlib.Data.List.TakeDrop
import Mathlib.Data.List.TakeWhile

/-!
# RecordMapping.Proofs.JsonSpelling — every spelling of a document is read

One document has many texts: spaces may stand around each token, most characters of a string can be
escaped in several ways, and the exponent of a number can do without its plus.  `Json.Spells` says
which texts a document has, by rules for each character, number and token; no text is read for it.
The reader takes each of them back to the document (`parse?_of_spells`), and the compact text is one
of them (`spells_renderChars`).

A number has no end of its own.  In the tokens of a document only a mark ever follows one
(`isChain_tokens`), and neither a mark nor a space goes on with a number.
-/

namespace RecordMapping

namespace JsonNumber

/-- The digits are those that a number in a document has. -/
structure WellFormed (n : JsonNumber) : Prop where
  digits : ∀ c ∈ n.whole, isDigit c = true
  whole : n.whole = ['0'] ∨ n.whole ≠ [] ∧ '0' ∉ n.whole.head?
  fraction : ∀ digits ∈ n.fraction, digits ≠ [] ∧ ∀ c ∈ digits, isDigit c = true
  exponent : ∀ e ∈ n.exponent, e.2 ≠ [] ∧ ∀ c ∈ e.2, isDigit c = true

theorem WellFormed.whole_eq_cons {n : JsonNumber} (h : n.WellFormed) :
    ∃ d ds, n.whole = d :: ds ∧ isDigit d = true := by
  have hdigits := h.digits
  rcases h.whole with hzero | ⟨hsome, -⟩
  · exact ⟨'0', [], hzero, rfl⟩
  · obtain ⟨d, ds, hwhole⟩ := List.exists_cons_of_ne_nil hsome
    exact ⟨d, ds, hwhole, hdigits d (by simp [hwhole])⟩

end JsonNumber

namespace Json

/-! ### Spellings -/

/-- The texts of a character in a string. -/
inductive SpellsChar : Char → List Char → Prop
  | plain {c : Char} (noQuote : c ≠ quoteMark) (noBackslash : c ≠ backslash)
    (shown : 0x20 ≤ c.toNat) : SpellsChar c [c]
  | letter {x c : Char} (letter : unescape? x = some c) : SpellsChar c [backslash, x]
  | unit {a b d e : Char} {n : Nat} (digits : hexUnit? a b d e = some n)
    (noHigh : isHighSurrogate n = false) (noLow : isLowSurrogate n = false) :
    SpellsChar (Char.ofNat n) [backslash, 'u', a, b, d, e]
  | pair {a b d e a' b' d' e' : Char} {n m : Nat} (digits : hexUnit? a b d e = some n)
    (digits' : hexUnit? a' b' d' e' = some m) (high : isHighSurrogate n = true)
    (low : isLowSurrogate m = true) :
    SpellsChar (joinSurrogates n m) [backslash, 'u', a, b, d, e, backslash, 'u', a', b', d', e']

/-- The texts of the characters of a string, without its quotes. -/
inductive SpellsChars : List Char → List Char → Prop
  | nil : SpellsChars [] []
  | cons {c : Char} {ds cs more : List Char} (head : SpellsChar c cs)
    (tail : SpellsChars ds more) : SpellsChars (c :: ds) (cs ++ more)

def fractionChars : Option (List Char) → List Char
  | some digits => '.' :: digits
  | none => []

/-- The texts of an exponent. -/
inductive SpellsExponent : Option (Bool × List Char) → List Char → Prop
  | none : SpellsExponent none []
  | signed {marker : Char} (letter : marker = 'e' ∨ marker = 'E') (negative : Bool)
    (digits : List Char) :
    SpellsExponent (some (negative, digits)) (marker :: (if negative then '-' else '+') :: digits)
  | unsigned {marker : Char} (letter : marker = 'e' ∨ marker = 'E') (digits : List Char) :
    SpellsExponent (some (false, digits)) (marker :: digits)

/-- The texts of a number. -/
inductive SpellsNumber (n : JsonNumber) : List Char → Prop
  | parts {exponent : List Char} (wellFormed : n.WellFormed)
    (spells : SpellsExponent n.exponent exponent) :
    SpellsNumber n ((if n.negative then ['-'] else []) ++
      (n.whole ++ (fractionChars n.fraction ++ exponent)))

namespace Token

def isMark : Token → Bool
  | leftBracket | rightBracket | leftBrace | rightBrace | comma | colon => true
  | _ => false

def isNumber : Token → Bool
  | number _ => true
  | _ => false

/-- The texts of a token. -/
inductive Spells : Token → List Char → Prop
  | mark {t : Token} (isMark : t.isMark = true) : Spells t t.chars
  | null : Spells null null.chars
  | bool (b : Bool) : Spells (bool b) (bool b).chars
  | number {n : JsonNumber} {cs : List Char} (spells : SpellsNumber n cs) : Spells (number n) cs
  | string {s : String} {cs : List Char} (spells : SpellsChars s.toList cs) :
    Spells (string s) (quoteMark :: (cs ++ [quoteMark]))

end Token

/-- The texts of tokens, with spaces around each of them. -/
inductive SpellsTokens : List Token → List Char → Prop
  | nil {spaces : List Char} (blank : ∀ c ∈ spaces, isSpace c = true) : SpellsTokens [] spaces
  | cons {spaces cs more : List Char} {t : Token} {ts : List Token}
    (blank : ∀ c ∈ spaces, isSpace c = true) (head : t.Spells cs) (tail : SpellsTokens ts more) :
    SpellsTokens (t :: ts) (spaces ++ (cs ++ more))

/-- The texts of a document. -/
def Spells (j : Json) (cs : List Char) : Prop := SpellsTokens j.tokens cs

/-! ### Strings -/

theorem stringChar?_letter {x : Char} (h : x ≠ 'u') (rest : List Char) :
    stringChar? (backslash :: x :: rest) = (unescape? x).map fun c => (c, 2) := by
  unfold stringChar?
  dsimp only
  rw [if_neg (not_not.mpr rfl)]
  split
  case h_1 heq => exact absurd (List.cons.inj heq).1 h
  case h_2 heq => rw [(List.cons.inj heq).1]
  case h_3 heq => cases heq

theorem stringChar?_of_spells {c : Char} {cs : List Char} (h : SpellsChar c cs) (rest : List Char) :
    stringChar? (cs ++ rest) = some (c, cs.length) := by
  cases h with
  | plain noQuote noBackslash shown =>
    simp [stringChar?, noBackslash, Nat.not_lt.mpr shown]
  | @letter x _ letter =>
    have hu : x ≠ 'u' := by
      rintro rfl
      cases letter
    show stringChar? (backslash :: x :: rest) = _
    rw [stringChar?_letter hu, letter]
    rfl
  | unit digits noHigh noLow => simp [stringChar?, digits, noHigh, noLow]
  | pair digits digits' high low => simp [stringChar?, digits, digits', high, low]

theorem head_of_spellsChar {c : Char} {cs : List Char} (h : SpellsChar c cs) :
    ∃ first rest, cs = first :: rest ∧ first ≠ quoteMark := by
  have hbackslash : backslash ≠ quoteMark := by decide
  cases h with
  | plain noQuote => exact ⟨_, _, rfl, noQuote⟩
  | letter | unit | pair => exact ⟨_, _, rfl, hbackslash⟩

/-- The characters end at the closing quote. -/
theorem stringBody_of_spells {ds cs : List Char} (h : SpellsChars ds cs) (rest : List Char)
    {fuel : Nat} (hfuel : cs.length < fuel) :
    stringBody fuel (cs ++ quoteMark :: rest) = some (ds, rest) := by
  induction h generalizing fuel with
  | nil =>
    cases fuel with
    | zero => cases hfuel
    | succ fuel => rw [List.nil_append, stringBody, if_pos rfl]
  | @cons c ds cs more head tail ih =>
    obtain ⟨first, others, hcs, hquote⟩ := head_of_spellsChar head
    have hchar := stringChar?_of_spells head (more ++ quoteMark :: rest)
    cases fuel with
    | zero => cases hfuel
    | succ fuel =>
      have hmore : more.length < fuel := by
        rw [hcs, List.length_append, List.length_cons] at hfuel
        omega
      rw [List.append_assoc]
      subst hcs
      rw [List.cons_append] at hchar ⊢
      unfold stringBody
      dsimp only
      rw [if_neg hquote, hchar]
      dsimp only
      rw [← List.cons_append, List.drop_left, ih hmore]
      rfl

/-! ### Numbers -/

/-- The text does not go on with the number before it. -/
def EndsNumber (rest : List Char) : Prop :=
  ∀ c ∈ rest.head?, isDigit c = false ∧ c ≠ '.' ∧ c ≠ 'e' ∧ c ≠ 'E'

theorem splitDigits_append {ds rest : List Char} (hdigits : ∀ c ∈ ds, isDigit c = true)
    (hrest : ∀ c ∈ rest.head?, isDigit c = false) : splitDigits (ds ++ rest) = (ds, rest) := by
  unfold splitDigits
  rw [List.span_eq_takeWhile_dropWhile, List.takeWhile_append_of_pos hdigits,
    List.dropWhile_append_of_pos hdigits]
  cases rest with
  | nil => rw [List.takeWhile_nil, List.append_nil, List.dropWhile_nil]
  | cons c more =>
    have hc : ¬ isDigit c = true := Bool.eq_false_iff.mp (hrest c rfl)
    rw [List.takeWhile_cons_of_neg hc, List.dropWhile_cons_of_neg hc, List.append_nil]

theorem lexWhole_append {n : JsonNumber} (h : n.WellFormed) {rest : List Char}
    (hrest : ∀ c ∈ rest.head?, isDigit c = false) :
    lexWhole (n.whole ++ rest) = some (n.whole, rest) := by
  rcases h.whole with hzero | ⟨hsome, hhead⟩
  · rw [hzero]
    rfl
  · have hsplit := splitDigits_append h.digits hrest
    generalize n.whole = ds at hsome hhead hsplit
    cases ds with
    | nil => exact absurd rfl hsome
    | cons d ds =>
      have hd : d ≠ '0' := fun heq => hhead (congrArg some heq)
      unfold lexWhole
      split
      case h_1 heq => exact absurd (List.cons.inj heq).1 hd
      case h_2 => rw [hsplit]; rfl

theorem lexFraction_append {n : JsonNumber} (h : n.WellFormed) {rest : List Char}
    (hrest : ∀ c ∈ rest.head?, isDigit c = false ∧ c ≠ '.') :
    lexFraction (fractionChars n.fraction ++ rest) = some (n.fraction, rest) := by
  cases hfraction : n.fraction with
  | none =>
    show lexFraction rest = _
    unfold lexFraction
    split
    case h_1 => exact absurd rfl (hrest '.' rfl).2
    case h_2 => rfl
  | some digits =>
    obtain ⟨hsome, hdigits⟩ := h.fraction digits hfraction
    have hsplit := splitDigits_append hdigits fun c hc => (hrest c hc).1
    have hempty : digits.isEmpty = false := by simpa using hsome
    show lexFraction ('.' :: (digits ++ rest)) = _
    simp [lexFraction, hsplit, hempty]

theorem lexExponent_letter {marker : Char} (letter : marker = 'e' ∨ marker = 'E')
    {negative : Bool} {digits rest unsigned : List Char}
    (hsign : splitSign unsigned = (negative, digits ++ rest))
    (hsome : digits ≠ []) (hdigits : ∀ c ∈ digits, isDigit c = true)
    (hrest : ∀ c ∈ rest.head?, isDigit c = false) :
    lexExponent (marker :: unsigned) = some (some (negative, digits), rest) := by
  have hempty : digits.isEmpty = false := by simpa using hsome
  unfold lexExponent
  dsimp only
  rw [if_pos letter, hsign]
  dsimp only
  rw [splitDigits_append hdigits hrest]
  dsimp only
  rw [hempty, if_neg Bool.false_ne_true]

theorem lexExponent_append {n : JsonNumber} (h : n.WellFormed) {cs : List Char}
    (hcs : SpellsExponent n.exponent cs) {rest : List Char} (hrest : EndsNumber rest) :
    lexExponent (cs ++ rest) = some (n.exponent, rest) := by
  have hexponent := h.exponent
  have hends : ∀ c ∈ rest.head?, isDigit c = false := fun c hc => (hrest c hc).1
  generalize n.exponent = exponent at hcs hexponent
  cases hcs with
  | none =>
    rw [List.nil_append]
    unfold lexExponent
    cases rest with
    | nil => rfl
    | cons c more =>
      obtain ⟨-, -, hlower, hupper⟩ := hrest c rfl
      simp [hlower, hupper]
  | @signed marker letter negative digits =>
    obtain ⟨hsome, hdigits⟩ := hexponent _ rfl
    have hsign : splitSign ((if negative then '-' else '+') :: (digits ++ rest)) =
        (negative, digits ++ rest) := by
      cases negative <;> rfl
    exact lexExponent_letter letter hsign hsome hdigits hends
  | @unsigned marker letter digits =>
    obtain ⟨hsome, hdigits⟩ := hexponent _ rfl
    have hsign : splitSign (digits ++ rest) = (false, digits ++ rest) := by
      obtain ⟨d, ds, rfl⟩ := List.exists_cons_of_ne_nil hsome
      exact splitSign_digit (hdigits d List.mem_cons_self) (ds ++ rest)
    exact lexExponent_letter letter hsign hsome hdigits hends

/-- An exponent does not go on with the digits before it. -/
theorem head_exponent {exponent : Option (Bool × List Char)} {cs : List Char}
    (h : SpellsExponent exponent cs) {rest : List Char} (hrest : EndsNumber rest) :
    ∀ c ∈ (cs ++ rest).head?, isDigit c = false ∧ c ≠ '.' := by
  have hletter {c : Char} (h : c = 'e' ∨ c = 'E') : isDigit c = false ∧ c ≠ '.' := by
    rcases h with rfl | rfl <;> decide
  intro c hc
  cases h with
  | none => exact ⟨(hrest c hc).1, (hrest c hc).2.1⟩
  | signed letter =>
    obtain rfl := Option.some.inj hc
    exact hletter letter
  | unsigned letter =>
    obtain rfl := Option.some.inj hc
    exact hletter letter

theorem head_fraction (fraction : Option (List Char)) {rest : List Char}
    (hrest : ∀ c ∈ rest.head?, isDigit c = false) :
    ∀ c ∈ (fractionChars fraction ++ rest).head?, isDigit c = false := by
  intro c hc
  cases fraction with
  | none => exact hrest c hc
  | some digits =>
    obtain rfl := Option.some.inj hc
    decide

theorem lexUnsigned_append {n : JsonNumber} (h : n.WellFormed) {cs : List Char}
    (hcs : SpellsExponent n.exponent cs) {rest : List Char} (hrest : EndsNumber rest)
    (negative : Bool) :
    lexUnsigned negative (n.whole ++ (fractionChars n.fraction ++ (cs ++ rest))) =
      some ({ n with negative }, rest) := by
  have hexponent := head_exponent hcs hrest
  have hfraction := head_fraction n.fraction fun c hc => (hexponent c hc).1
  simp only [lexUnsigned, lexWhole_append h hfraction, lexFraction_append h hexponent,
    lexExponent_append h hcs hrest, Option.bind_eq_bind, Option.bind_some, Option.pure_def]

theorem lexNumber_digit {d : Char} (h : isDigit d = true) (rest : List Char) :
    lexNumber (d :: rest) = lexUnsigned false (d :: rest) := by
  unfold lexNumber
  split
  case h_1 heq =>
    obtain rfl := (List.cons.inj heq).1
    exact absurd h (by decide)
  case h_2 => rfl

/-- A number is read up to where it ends. -/
theorem lexNumber_of_spells {n : JsonNumber} {cs : List Char} (h : SpellsNumber n cs)
    {rest : List Char} (hrest : EndsNumber rest) :
    lexNumber (cs ++ rest) = some (n, rest) := by
  cases h with
  | @parts exponent wellFormed spells =>
    have hunsigned := lexUnsigned_append wellFormed spells hrest n.negative
    obtain ⟨d, ds, hwhole, hd⟩ := wellFormed.whole_eq_cons
    rw [List.append_assoc, List.append_assoc, List.append_assoc]
    obtain ⟨negative, whole, fraction, e⟩ := n
    obtain rfl : whole = d :: ds := hwhole
    cases negative with
    | true => exact hunsigned
    | false => exact (lexNumber_digit hd _).trans hunsigned

theorem head_of_spellsNumber {n : JsonNumber} {cs : List Char} (h : SpellsNumber n cs) :
    ∃ c rest, cs = c :: rest ∧ (c = '-' ∨ isDigit c = true) := by
  cases h with
  | parts wellFormed spells =>
    obtain ⟨d, ds, hwhole, hd⟩ := wellFormed.whole_eq_cons
    rw [hwhole]
    cases n.negative with
    | true => exact ⟨_, _, rfl, Or.inl rfl⟩
    | false => exact ⟨_, _, rfl, Or.inr hd⟩

/-! ### Tokens -/

/-- Spaces are no part of a number. -/
theorem isSpace_eq_false {c : Char} (h : c = '-' ∨ isDigit c = true) : isSpace c = false := by
  rw [Bool.eq_false_iff]
  intro hspace
  simp only [isSpace, Bool.or_eq_true, beq_iff_eq] at hspace
  rcases hspace with ((rfl | rfl) | rfl) | rfl <;> exact absurd h (by decide)

/-- No token is read as spaces. -/
theorem head_of_spells {t : Token} {cs : List Char} (h : t.Spells cs) :
    ∃ c rest, cs = c :: rest ∧ isSpace c = false := by
  cases h with
  | mark isMark =>
    cases t with
    | leftBracket | rightBracket | leftBrace | rightBrace | comma | colon =>
      exact ⟨_, _, rfl, by decide⟩
    | null | bool | number | string => cases isMark
  | null => exact ⟨_, _, rfl, by decide⟩
  | bool b => cases b <;> exact ⟨_, _, rfl, by decide⟩
  | string => exact ⟨_, _, rfl, by decide⟩
  | number spells =>
    obtain ⟨c, rest, hcs, hc⟩ := head_of_spellsNumber spells
    exact ⟨c, rest, hcs, isSpace_eq_false hc⟩

theorem punctuation?_eq_none {c : Char} (h : c = '-' ∨ isDigit c = true) :
    punctuation? c = none := by
  rcases h with rfl | hdigit
  · rfl
  · have hrange := isDigit_eq_true.mp hdigit
    unfold punctuation?
    split
    case h_7 => rfl
    all_goals omega

theorem lexToken_number {c : Char} (h : c = '-' ∨ isDigit c = true) (rest : List Char) :
    lexToken (c :: rest) = (lexNumber (c :: rest)).map fun (n, more) => (.number n, more) := by
  have hquote : c ≠ quoteMark := by
    rintro rfl
    exact absurd h (by decide)
  unfold lexToken
  split
  case h_5 heq =>
    obtain ⟨rfl, rfl⟩ := List.cons.inj heq
    rw [if_neg hquote, punctuation?_eq_none h]
  case h_1 heq => cases heq
  -- the words begin with letters
  all_goals
    rename_i heq
    obtain ⟨rfl, -⟩ := List.cons.inj heq
    exact absurd h (by decide)

theorem lexToken_of_spells {t : Token} {cs : List Char} (h : t.Spells cs) {rest : List Char}
    (hrest : t.isNumber = true → EndsNumber rest) : lexToken (cs ++ rest) = some (t, rest) := by
  cases h with
  | mark isMark =>
    cases t with
    | leftBracket | rightBracket | leftBrace | rightBrace | comma | colon => rfl
    | null | bool | number | string => cases isMark
  | null => rfl
  | bool b => cases b <;> rfl
  | @string s cs spells =>
    have hlength : cs.length < (cs ++ quoteMark :: rest).length + 1 := by
      rw [List.length_append]
      omega
    have hbody := stringBody_of_spells spells rest hlength
    have hquoted : lexToken (quoteMark :: (cs ++ quoteMark :: rest)) =
        (stringBody ((cs ++ quoteMark :: rest).length + 1) (cs ++ quoteMark :: rest)).map
          fun p => (.string (String.ofList p.1), p.2) := rfl
    rw [List.cons_append, List.append_assoc, List.singleton_append, hquoted, hbody]
    simp
  | @number n cs spells =>
    obtain ⟨c, more, hcs, hc⟩ := head_of_spellsNumber spells
    have hnumber := lexNumber_of_spells spells (hrest rfl)
    rw [hcs, List.cons_append] at hnumber ⊢
    rw [lexToken_number hc, hnumber]
    rfl

theorem endsNumber_of_isSpace {c : Char} (h : isSpace c = true) (rest : List Char) :
    EndsNumber (c :: rest) := by
  intro d hd
  obtain rfl := Option.some.inj hd
  simp only [isSpace, Bool.or_eq_true, beq_iff_eq] at h
  rcases h with ((rfl | rfl) | rfl) | rfl <;> decide

theorem endsNumber_of_isMark {t : Token} (h : t.isMark = true) (rest : List Char) :
    EndsNumber (t.chars ++ rest) := by
  intro c hc
  cases t with
  | leftBracket | rightBracket | leftBrace | rightBrace | comma | colon =>
    obtain rfl := Option.some.inj hc
    decide
  | null | bool | number | string => cases h

/-- Before a mark, and at the end, every number ends. -/
theorem endsNumber_of_spellsTokens {ts : List Token} {cs : List Char} (h : SpellsTokens ts cs)
    (hmark : ∀ t ∈ ts.head?, t.isMark = true) : EndsNumber cs := by
  cases h with
  | nil blank =>
    cases cs with
    | nil => exact nofun
    | cons c rest => exact endsNumber_of_isSpace (blank c List.mem_cons_self) rest
  | @cons spaces cs more t ts blank head tail =>
    cases spaces with
    | cons c rest => exact endsNumber_of_isSpace (blank c List.mem_cons_self) _
    | nil =>
      have ht := hmark t rfl
      cases head with
      | mark isMark => exact endsNumber_of_isMark isMark more
      | null | bool | number | string => cases ht

/-- Only a mark follows a number. -/
def Token.Precedes (t u : Token) : Prop := t.isNumber = true → u.isMark = true

/-- Tokens are read from any of their texts. -/
theorem lexFrom_of_spells {ts : List Token} {cs : List Char} (h : SpellsTokens ts cs)
    (hchain : ts.IsChain Token.Precedes) {fuel : Nat} (hfuel : cs.length < fuel) :
    lexFrom fuel cs = some ts := by
  induction h generalizing fuel with
  | nil blank =>
    cases fuel with
    | zero => cases hfuel
    | succ fuel =>
      unfold lexFrom
      rw [List.dropWhile_eq_nil_iff.mpr blank]
  | @cons spaces cs more t ts blank head tail ih =>
    obtain ⟨hfollows, hchain⟩ := List.isChain_cons.mp hchain
    obtain ⟨c, rest, hcs, hc⟩ := head_of_spells head
    have htoken : lexToken (cs ++ more) = some (t, more) := by
      refine lexToken_of_spells head ?_
      intro hnumber
      exact endsNumber_of_spellsTokens tail fun u hu => hfollows u hu hnumber
    cases fuel with
    | zero => cases hfuel
    | succ fuel =>
      have hmore : more.length < fuel := by
        rw [hcs, List.length_append, List.length_append, List.length_cons] at hfuel
        omega
      unfold lexFrom
      rw [List.dropWhile_append_of_pos blank]
      rw [hcs, List.cons_append] at htoken ⊢
      rw [List.dropWhile_cons_of_neg (Bool.eq_false_iff.mp hc)]
      dsimp only
      rw [htoken]
      dsimp only
      rw [ih hchain hmore]
      rfl

/-! ### The tokens of a document -/

/-- What follows an item of an array begins with a mark. -/
theorem head_itemTokens (items : List Json) : ∀ t ∈ (itemTokens items).head?, t.isMark = true := by
  intro t ht
  cases items with
  | nil =>
    obtain rfl := Option.some.inj ht
    rfl
  | cons item rest =>
    obtain rfl := Option.some.inj ht
    rfl

theorem head_memberTokens (members : List (String × Json)) :
    ∀ t ∈ (memberTokens members).head?, t.isMark = true := by
  intro t ht
  cases members with
  | nil =>
    obtain rfl := Option.some.inj ht
    rfl
  | cons m rest =>
    obtain rfl := Option.some.inj ht
    rfl

theorem isChain_append {ts us : List Token} (hts : ts.IsChain Token.Precedes)
    (hus : us.IsChain Token.Precedes) (hmark : ∀ t ∈ us.head?, t.isMark = true) :
    (ts ++ us).IsChain Token.Precedes :=
  hts.append hus fun _ _ u hu _ => hmark u hu

theorem isChain_cons {t : Token} (ht : t.isNumber = false) {ts : List Token}
    (hts : ts.IsChain Token.Precedes) : (t :: ts).IsChain Token.Precedes :=
  hts.cons fun _ _ hnumber => absurd hnumber (Bool.eq_false_iff.mp ht)

mutual

theorem isChain_tokens : ∀ j : Json, j.tokens.IsChain Token.Precedes
  | .null | .bool _ | .number _ | .string _ => .singleton _
  | .array [] => isChain_cons rfl (.singleton _)
  | .array (item :: items) =>
    isChain_cons rfl (isChain_append (isChain_tokens item) (isChain_itemTokens items)
      (head_itemTokens items))
  | .object [] => isChain_cons rfl (.singleton _)
  | .object ((_, value) :: members) =>
    isChain_cons rfl (isChain_cons rfl (isChain_cons rfl (isChain_append
      (isChain_tokens value) (isChain_memberTokens members) (head_memberTokens members))))

theorem isChain_itemTokens : ∀ items : List Json, (itemTokens items).IsChain Token.Precedes
  | [] => .singleton _
  | item :: items =>
    isChain_cons rfl (isChain_append (isChain_tokens item) (isChain_itemTokens items)
      (head_itemTokens items))

theorem isChain_memberTokens :
    ∀ members : List (String × Json), (memberTokens members).IsChain Token.Precedes
  | [] => .singleton _
  | (_, value) :: members =>
    isChain_cons rfl (isChain_cons rfl (isChain_cons rfl (isChain_append
      (isChain_tokens value) (isChain_memberTokens members) (head_memberTokens members))))

end

/-! ### Reading tokens -/

/-- No document begins with a closing bracket. -/
theorem head_tokens (j : Json) (rest : List Token) :
    (j.tokens ++ rest).head? ≠ some .rightBracket := by
  cases j with
  | null | bool | number | string => nofun
  | array items => cases items <;> nofun
  | object members => cases members <;> nofun

/-- An array that does not end at once has a first item. -/
theorem parseDocument_leftBracket {ts : List Token} (h : ts.head? ≠ some .rightBracket)
    (fuel : Nat) :
    parseDocument (fuel + 1) (.leftBracket :: ts) =
      match parseDocument fuel ts with
      | some (item, more) =>
        (parseItems fuel more).map fun (items, more) => (.array (item :: items), more)
      | none => none := by
  cases ts with
  | nil => rfl
  | cons t rest =>
    cases t with
    | rightBracket => exact absurd rfl h
    | leftBracket | leftBrace | rightBrace | comma | colon | null | bool | number | string => rfl

mutual

/-- A document is read back from its tokens, whatever follows them. -/
theorem parseDocument_tokens : ∀ (j : Json) {fuel : Nat} (rest : List Token),
    j.tokens.length ≤ fuel → parseDocument fuel (j.tokens ++ rest) = some (j, rest)
  | .null, fuel + 1, _, _ | .bool _, fuel + 1, _, _ | .number _, fuel + 1, _, _
  | .string _, fuel + 1, _, _ | .array [], fuel + 1, _, _ | .object [], fuel + 1, _, _ => rfl
  | .array (item :: items), fuel + 1, rest, hfuel => by
    rw [tokens, List.length_cons, List.length_append] at hfuel
    have hitem := parseDocument_tokens item (itemTokens items ++ rest) (by omega : _ ≤ fuel)
    have hitems := parseItems_itemTokens items rest (by omega : _ ≤ fuel)
    rw [tokens, List.cons_append, List.append_assoc,
      parseDocument_leftBracket (head_tokens item _), hitem]
    dsimp only
    rw [hitems]
    rfl
  | .object ((name, value) :: members), fuel + 1, rest, hfuel => by
    simp only [tokens, List.length_cons, List.length_append] at hfuel
    have hvalue := parseDocument_tokens value (memberTokens members ++ rest) (by omega : _ ≤ fuel)
    have hmembers := parseMembers_memberTokens members rest (by omega : _ ≤ fuel)
    rw [tokens, List.cons_append, List.cons_append, List.cons_append, List.append_assoc,
      parseDocument, hvalue]
    dsimp only
    rw [hmembers]
    rfl
  | .null, 0, _, hfuel | .bool _, 0, _, hfuel | .number _, 0, _, hfuel
  | .string _, 0, _, hfuel | .array [], 0, _, hfuel | .object [], 0, _, hfuel
  | .array (_ :: _), 0, _, hfuel | .object (_ :: _), 0, _, hfuel => nomatch hfuel

theorem parseItems_itemTokens : ∀ (items : List Json) {fuel : Nat} (rest : List Token),
    (itemTokens items).length ≤ fuel → parseItems fuel (itemTokens items ++ rest) = some (items, rest)
  | [], fuel + 1, _, _ => rfl
  | item :: items, fuel + 1, rest, hfuel => by
    rw [itemTokens, List.length_cons, List.length_append] at hfuel
    have hitem := parseDocument_tokens item (itemTokens items ++ rest) (by omega : _ ≤ fuel)
    have hitems := parseItems_itemTokens items rest (by omega : _ ≤ fuel)
    rw [itemTokens, List.cons_append, List.append_assoc, parseItems, hitem]
    dsimp only
    rw [hitems]
    rfl
  | [], 0, _, hfuel | _ :: _, 0, _, hfuel => nomatch hfuel

theorem parseMembers_memberTokens : ∀ (members : List (String × Json)) {fuel : Nat}
    (rest : List Token), (memberTokens members).length ≤ fuel →
      parseMembers fuel (memberTokens members ++ rest) = some (members, rest)
  | [], fuel + 1, _, _ => rfl
  | (name, value) :: members, fuel + 1, rest, hfuel => by
    simp only [memberTokens, List.length_cons, List.length_append] at hfuel
    have hvalue := parseDocument_tokens value (memberTokens members ++ rest) (by omega : _ ≤ fuel)
    have hmembers := parseMembers_memberTokens members rest (by omega : _ ≤ fuel)
    rw [memberTokens, List.cons_append, List.cons_append, List.cons_append, List.append_assoc,
      parseMembers, hvalue]
    dsimp only
    rw [hmembers]
    rfl
  | [], 0, _, hfuel | _ :: _, 0, _, hfuel => nomatch hfuel

end

/-- Every text of a document is read as that document. -/
theorem parse?_of_spells {j : Json} {text : String} (h : j.Spells text.toList) :
    parse? text = some j := by
  have htokens : lex text.toList = some j.tokens :=
    lexFrom_of_spells h (isChain_tokens j) (Nat.lt_succ_self _)
  have hdocument := parseDocument_tokens j [] (Nat.le_succ j.tokens.length)
  rw [List.append_nil] at hdocument
  unfold parse?
  rw [htokens, Option.bind_some]
  unfold ofTokens?
  rw [hdocument]

/-! ### The compact text -/

theorem hexUnit?_control :
    ∀ n < 0x20, hexUnit? '0' '0' (Text.hexDigit (n / 16)) (Text.hexDigit (n % 16)) = some n := by
  decide

theorem eq_ofNat {c : Char} {n : Nat} (h : c.toNat = n) : c = Char.ofNat n := by
  rw [← h, Char.ofNat_toNat]

theorem spellsChar_escapeChar (c : Char) : SpellsChar c (escapeChar c) := by
  unfold escapeChar
  split
  case h_8 hquote hbackslash _ _ _ _ _ =>
    by_cases hcontrol : c.toNat < 0x20
    · have hhigh : isHighSurrogate c.toNat = false := decide_eq_false (by omega)
      have hlow : isLowSurrogate c.toNat = false := decide_eq_false (by omega)
      have hunit := SpellsChar.unit (hexUnit?_control c.toNat hcontrol) hhigh hlow
      rw [Char.ofNat_toNat] at hunit
      rw [if_pos hcontrol]
      exact hunit
    · rw [if_neg hcontrol]
      refine .plain ?_ ?_ (Nat.le_of_not_lt hcontrol)
      · rintro rfl
        exact hquote rfl
      · rintro rfl
        exact hbackslash rfl
  -- the quote, the backslash and the control characters that have a letter
  all_goals
    rename_i hc
    rw [eq_ofNat hc]
    exact .letter rfl

theorem spellsChars_flatMap (cs : List Char) : SpellsChars cs (cs.flatMap escapeChar) := by
  induction cs with
  | nil => exact .nil
  | cons c rest ih => exact .cons (spellsChar_escapeChar c) ih

theorem spellsNumber_chars {n : JsonNumber} (h : n.WellFormed) : SpellsNumber n n.chars := by
  unfold JsonNumber.chars
  rw [List.append_assoc, List.append_assoc]
  refine .parts h ?_
  cases n.exponent with
  | none => exact .none
  | some e => exact .signed (Or.inl rfl) e.1 e.2

theorem Token.spells_chars {t : Token} (h : ∀ n, t = .number n → n.WellFormed) :
    t.Spells t.chars := by
  cases t with
  | null => exact .null
  | bool b => exact .bool b
  | string s => exact .string (spellsChars_flatMap s.toList)
  | number n => exact .number (spellsNumber_chars (h n rfl))
  | leftBracket | rightBracket | leftBrace | rightBrace | comma | colon => exact .mark rfl

/-- The tokens in their plain texts may all stand after the same spaces. -/
theorem spells_flatMap {j : Json} (h : ∀ n, .number n ∈ j.tokens → n.WellFormed)
    {spaces : List Char} (hspaces : ∀ c ∈ spaces, isSpace c = true) :
    j.Spells (j.tokens.flatMap fun t => spaces ++ t.chars) := by
  unfold Spells
  generalize j.tokens = ts at h
  induction ts with
  | nil => exact .nil nofun
  | cons t rest ih =>
    have ht : t.Spells t.chars := by
      refine Token.spells_chars ?_
      rintro n rfl
      exact h n List.mem_cons_self
    have hrest := ih fun n hn => h n (List.mem_cons_of_mem t hn)
    rw [List.flatMap_cons, List.append_assoc]
    exact .cons hspaces ht hrest

/-- The compact text is one of the texts. -/
theorem spells_renderChars {j : Json} (h : ∀ n, .number n ∈ j.tokens → n.WellFormed) :
    j.Spells j.renderChars :=
  @spells_flatMap j h [] nofun

end Json

end RecordMapping
