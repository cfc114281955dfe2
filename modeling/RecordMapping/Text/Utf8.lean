/-!
# RecordMapping.Text.Utf8 — text as bytes

`encode` and `decode?` pass between text and its UTF-8 bytes; `validLength` finds where a byte
sequence stops being UTF-8.
-/

namespace RecordMapping.Text

def encode (s : String) : List UInt8 := s.toUTF8.data.toList

def decode? (bytes : List UInt8) : Option String := String.fromUTF8? ⟨bytes.toArray⟩

/-- How many bytes a character with this first byte has, and the bounds of its second byte. -/
def leadByte? (b : UInt8) : Option (Nat × UInt8 × UInt8) :=
  if b < 0x80 then some (1, 0, 0)
  else if 0xC2 ≤ b ∧ b ≤ 0xDF then some (2, 0x80, 0xBF)
  else if b = 0xE0 then some (3, 0xA0, 0xBF)
  else if b = 0xED then some (3, 0x80, 0x9F)
  else if 0xE1 ≤ b ∧ b ≤ 0xEF then some (3, 0x80, 0xBF)
  else if b = 0xF0 then some (4, 0x90, 0xBF)
  else if 0xF1 ≤ b ∧ b ≤ 0xF3 then some (4, 0x80, 0xBF)
  else if b = 0xF4 then some (4, 0x80, 0x8F)
  else none

def isTail (b : UInt8) : Bool := decide (0x80 ≤ b ∧ b ≤ 0xBF)

/-- The length of the character at the front of `bytes`, if one is there. -/
def characterLength? (bytes : List UInt8) : Option Nat :=
  match bytes with
  | [] => none
  | b :: rest =>
    match leadByte? b with
    | none => none
    | some (1, _, _) => some 1
    | some (n, low, high) =>
      match rest with
      | second :: more =>
        let tail := more.take (n - 2)
        if low ≤ second ∧ second ≤ high ∧ tail.length = n - 2 ∧ tail.all isTail = true then some n
        else none
      | [] => none

def validLengthFrom : Nat → List UInt8 → Nat
  | 0, _ => 0
  | fuel + 1, bytes =>
    match characterLength? bytes with
    | none => 0
    | some n => n + validLengthFrom fuel (bytes.drop n)

/-- The number of leading bytes that are whole characters. -/
def validLength (bytes : List UInt8) : Nat := validLengthFrom bytes.length bytes

end RecordMapping.Text
