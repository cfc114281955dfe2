import RecordMapping.Json

/-!
# RecordMapping.Json.Reader — reading documents

`Json.lex` cuts a text into tokens and `Json.parse?` reads one document from the whole of it.  The
grammar is strict: no comment, no trailing comma, no superfluous zero, no bare control character in
a string, and every escaped surrogate is half of a pair.
-/

namespace RecordMapping.Json

/-! ### Strings -/

/-- The number written by four hexadecimal digits. -/
def hexUnit? (a b c d : Char) : Option Nat := Text.hexNumber? [a, b, c, d]

def isHighSurrogate (n : Nat) : Bool := decide (0xD800 ≤ n ∧ n ≤ 0xDBFF)

def isLowSurrogate (n : Nat) : Bool := decide (0xDC00 ≤ n ∧ n ≤ 0xDFFF)

/-- The character of a pair of surrogates. -/
def joinSurrogates (high low : Nat) : Char :=
  Char.ofNat (0x10000 + (high - 0xD800) * 0x400 + (low - 0xDC00))

/-- The character after a backslash, `u` apart. -/
def unescape? (c : Char) : Option Char :=
  match c.toNat with
  | 0x22 => some c
  | 0x5C => some c
  | 0x2F => some c
  | 0x62 => some (Char.ofNat 0x08)
  | 0x66 => some (Char.ofNat 0x0C)
  | 0x6E => some (Char.ofNat 0x0A)
  | 0x72 => some (Char.ofNat 0x0D)
  | 0x74 => some (Char.ofNat 0x09)
  | _ => none

/-- One character of a string, with the number of characters that write it. -/
def stringChar? : List Char → Option (Char × Nat)
  | [] => none
  | c :: rest =>
    if c ≠ backslash then
      if c.toNat < 0x20 then none else some (c, 1)
    else
      match rest with
      | 'u' :: a :: b :: d :: e :: more =>
        match hexUnit? a b d e with
        | none => none
        | some n =>
          if isHighSurrogate n then
            match more with
            | x :: 'u' :: a' :: b' :: d' :: e' :: _ =>
              match hexUnit? a' b' d' e' with
              | some m =>
                if x = backslash ∧ isLowSurrogate m = true then some (joinSurrogates n m, 12)
                else none
              | none => none
            | _ => none
          else if isLowSurrogate n then none
          else some (Char.ofNat n, 6)
      | x :: _ => (unescape? x).map fun c => (c, 2)
      | [] => none

/-- The characters up to the closing quote, and what follows it. -/
def stringBody : Nat → List Char → Option (List Char × List Char)
  | 0, _ => none
  | fuel + 1, cs =>
    match cs with
    | [] => none
    | c :: rest =>
      if c = quoteMark then some ([], rest)
      else
        match stringChar? cs with
        | none => none
        | some (d, n) => (stringBody fuel (cs.drop n)).map fun (ds, more) => (d :: ds, more)

/-! ### Numbers -/

def splitDigits (cs : List Char) : List Char × List Char := cs.span isDigit

/-- The digits before the point: a lone zero, or digits that do not begin with one. -/
def lexWhole : List Char → Option (List Char × List Char)
  | '0' :: rest => some (['0'], rest)
  | cs =>
    let (digits, rest) := splitDigits cs
    if digits.isEmpty then none else some (digits, rest)

/-- An optional point with digits after it. -/
def lexFraction : List Char → Option (Option (List Char) × List Char)
  | '.' :: rest =>
    let (digits, more) := splitDigits rest
    if digits.isEmpty then none else some (some digits, more)
  | cs => some (none, cs)

/-- An optional exponent. -/
def lexExponent : List Char → Option (Option (Bool × List Char) × List Char)
  | [] => some (none, [])
  | c :: rest =>
    if c = 'e' ∨ c = 'E' then
      let (negative, unsigned) := splitSign rest
      let (digits, more) := splitDigits unsigned
      if digits.isEmpty then none else some (some (negative, digits), more)
    else some (none, c :: rest)

def lexUnsigned (negative : Bool) (cs : List Char) : Option (JsonNumber × List Char) := do
  let (whole, rest) ← lexWhole cs
  let (fraction, rest) ← lexFraction rest
  let (exponent, rest) ← lexExponent rest
  return (⟨negative, whole, fraction, exponent⟩, rest)

def lexNumber : List Char → Option (JsonNumber × List Char)
  | '-' :: rest => lexUnsigned true rest
  | cs => lexUnsigned false cs

/-! ### Tokens -/

def isSpace (c : Char) : Bool :=
  c == ' ' || c == '\n' || c == '\t' || c == '\r'

def punctuation? (c : Char) : Option Token :=
  match c.toNat with
  | 0x5B => some .leftBracket
  | 0x5D => some .rightBracket
  | 0x7B => some .leftBrace
  | 0x7D => some .rightBrace
  | 0x2C => some .comma
  | 0x3A => some .colon
  | _ => none

/-- The token at the front of a text that begins with none of the spaces. -/
def lexToken : List Char → Option (Token × List Char)
  | [] => none
  | 'n' :: 'u' :: 'l' :: 'l' :: rest => some (.null, rest)
  | 't' :: 'r' :: 'u' :: 'e' :: rest => some (.bool true, rest)
  | 'f' :: 'a' :: 'l' :: 's' :: 'e' :: rest => some (.bool false, rest)
  | c :: rest =>
    if c = quoteMark then
      (stringBody (rest.length + 1) rest).map fun (cs, more) =>
        (.string (String.ofList cs), more)
    else
      match punctuation? c with
      | some t => some (t, rest)
      | none => (lexNumber (c :: rest)).map fun (n, more) => (.number n, more)

def lexFrom : Nat → List Char → Option (List Token)
  | 0, _ => none
  | fuel + 1, cs =>
    match cs.dropWhile isSpace with
    | [] => some []
    | front =>
      match lexToken front with
      | none => none
      | some (t, rest) => (lexFrom fuel rest).map (t :: ·)

/-- The tokens of a text.  Every token takes a character, so the text's length bounds the steps. -/
def lex (cs : List Char) : Option (List Token) := lexFrom (cs.length + 1) cs

/-! ### Documents -/

mutual

def parseDocument : Nat → List Token → Option (Json × List Token)
  | 0, _ => none
  | _ + 1, .null :: rest => some (.null, rest)
  | _ + 1, .bool b :: rest => some (.bool b, rest)
  | _ + 1, .number n :: rest => some (.number n, rest)
  | _ + 1, .string s :: rest => some (.string s, rest)
  | _ + 1, .leftBracket :: .rightBracket :: rest => some (.array [], rest)
  | fuel + 1, .leftBracket :: rest =>
    match parseDocument fuel rest with
    | some (item, more) =>
      (parseItems fuel more).map fun (items, more) => (.array (item :: items), more)
    | none => none
  | _ + 1, .leftBrace :: .rightBrace :: rest => some (.object [], rest)
  | fuel + 1, .leftBrace :: .string name :: .colon :: rest =>
    match parseDocument fuel rest with
    | some (value, more) =>
      (parseMembers fuel more).map fun (members, more) =>
        (.object ((name, value) :: members), more)
    | none => none
  | _ + 1, _ => none

/-- What follows an item of an array. -/
def parseItems : Nat → List Token → Option (List Json × List Token)
  | 0, _ => none
  | _ + 1, .rightBracket :: rest => some ([], rest)
  | fuel + 1, .comma :: rest =>
    match parseDocument fuel rest with
    | some (item, more) =>
      (parseItems fuel more).map fun (items, more) => (item :: items, more)
    | none => none
  | _ + 1, _ => none

/-- What follows a member of an object. -/
def parseMembers : Nat → List Token → Option (List (String × Json) × List Token)
  | 0, _ => none
  | _ + 1, .rightBrace :: rest => some ([], rest)
  | fuel + 1, .comma :: .string name :: .colon :: rest =>
    match parseDocument fuel rest with
    | some (value, more) =>
      (parseMembers fuel more).map fun (members, more) => ((name, value) :: members, more)
    | none => none
  | _ + 1, _ => none

end

/-- Reads a document that is all of the tokens. -/
def ofTokens? (ts : List Token) : Option Json :=
  match parseDocument (ts.length + 1) ts with
  | some (j, []) => some j
  | _ => none

def parse? (s : String) : Option Json := (lex s.toList).bind ofTokens?

end RecordMapping.Json
