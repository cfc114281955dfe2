import RecordMapping.Number.Numeral
import RecordMapping.Text.Hex

/-!
# RecordMapping.Json — documents and their compact text

A number keeps its digits, so nothing is decided about it before someone asks for a value.  An
object keeps its members in order, repeated ones included.  `Json.tokens` is the token sequence of a
document and `Json.render` its text without white space.
-/

namespace RecordMapping

/-- A number as written: `whole` has no superfluous zero, and neither `fraction` nor the exponent's
digits are empty when present. -/
structure JsonNumber where
  negative : Bool
  whole : List Char
  fraction : Option (List Char)
  exponent : Option (Bool × List Char)
  deriving DecidableEq, Repr

inductive Json
  | null
  | bool (b : Bool)
  | number (n : JsonNumber)
  | string (s : String)
  | array (items : List Json)
  | object (members : List (String × Json))
  deriving Inhabited

namespace Json

inductive Token
  | leftBracket
  | rightBracket
  | leftBrace
  | rightBrace
  | comma
  | colon
  | null
  | bool (b : Bool)
  | number (n : JsonNumber)
  | string (s : String)
  deriving DecidableEq, Repr

/-! ### Text of tokens -/

def quoteMark : Char := Char.ofNat 0x22

def backslash : Char := Char.ofNat 0x5C

/-- A character of a string: the quote, the backslash and the control characters are escaped. -/
def escapeChar (c : Char) : List Char :=
  match c.toNat with
  | 0x22 => [backslash, c]
  | 0x5C => [backslash, c]
  | 0x08 => [backslash, 'b']
  | 0x09 => [backslash, 't']
  | 0x0A => [backslash, 'n']
  | 0x0C => [backslash, 'f']
  | 0x0D => [backslash, 'r']
  | n =>
    if n < 0x20 then
      [backslash, 'u', '0', '0', Text.hexDigit (n / 16), Text.hexDigit (n % 16)]
    else [c]

def quoteChars (cs : List Char) : List Char := quoteMark :: (cs.flatMap escapeChar ++ [quoteMark])

def quote (s : String) : String := String.ofList (quoteChars s.toList)

end Json

namespace JsonNumber

def chars (n : JsonNumber) : List Char :=
  (if n.negative then ['-'] else []) ++ n.whole ++
    (match n.fraction with
      | some digits => '.' :: digits
      | none => []) ++
    (match n.exponent with
      | some (negative, digits) => 'e' :: (if negative then '-' else '+') :: digits
      | none => [])

def ofInt (n : Int) : JsonNumber where
  negative := decide (n < 0)
  whole := Nat.toDigits 10 n.natAbs
  fraction := none
  exponent := none

end JsonNumber

namespace Json

def Token.chars : Token → List Char
  | leftBracket => ['[']
  | rightBracket => [']']
  | leftBrace => [Char.ofNat 0x7B]
  | rightBrace => [Char.ofNat 0x7D]
  | comma => [',']
  | colon => [':']
  | null => "null".toList
  | bool true => "true".toList
  | bool false => "false".toList
  | number n => n.chars
  | string s => quoteChars s.toList

/-! ### Documents -/

mutual

def tokens : Json → List Token
  | .null => [.null]
  | .bool b => [.bool b]
  | .number n => [.number n]
  | .string s => [.string s]
  | .array [] => [.leftBracket, .rightBracket]
  | .array (item :: items) => .leftBracket :: (tokens item ++ itemTokens items)
  | .object [] => [.leftBrace, .rightBrace]
  | .object ((name, value) :: members) =>
    .leftBrace :: .string name :: .colon :: (tokens value ++ memberTokens members)

def itemTokens : List Json → List Token
  | [] => [.rightBracket]
  | item :: items => .comma :: (tokens item ++ itemTokens items)

def memberTokens : List (String × Json) → List Token
  | [] => [.rightBrace]
  | (name, value) :: members =>
    .comma :: .string name :: .colon :: (tokens value ++ memberTokens members)

end

def renderChars (j : Json) : List Char := j.tokens.flatMap Token.chars

def render (j : Json) : String := String.ofList j.renderChars

def ofInt (n : Int) : Json := .number (JsonNumber.ofInt n)

def ofNat (n : Nat) : Json := ofInt n

end Json

end RecordMapping
