import RecordMapping.Text.Case
import RecordMapping.Text.Hex
import RecordMapping.Text.PrintableTable

/-!
# RecordMapping.Text.Quoted — text between quotes, made visible

Between the quotes every character can be seen: the quote and the backslash follow a backslash, some
control characters have a letter, and whatever does not print on its own stands as its number.
-/

namespace RecordMapping.Text.Quoted

def backslash : Char := Char.ofNat 0x5C

def quoteMark : Char := Char.ofNat 0x22

def escaped (c : Char) : List Char := [backslash, c]

/-- The number of a character in hexadecimal digits between braces. -/
def numbered (c : Char) : List Char :=
  [backslash, 'u', Char.ofNat 0x7B] ++ Nat.toDigits 16 c.toNat ++ [Char.ofNat 0x7D]

/-- Does the character print by itself, not as a mark on the one before? -/
def isVisible (c : Char) : Bool :=
  decide (0x20 ≤ c.toNat ∧ c.toNat < 0x7F) ||
    !(inRanges unprintableRanges c || inRanges graphemeExtendRanges c)

def encodeChar (c : Char) : List Char :=
  match c.toNat with
  | 0x00 => escaped '0'
  | 0x09 => escaped 't'
  | 0x0A => escaped 'n'
  | 0x0D => escaped 'r'
  | 0x22 => escaped c
  | 0x5C => escaped c
  | _ => if isVisible c then [c] else numbered c

def encode (s : String) : String :=
  String.ofList (quoteMark :: (s.toList.flatMap encodeChar ++ [quoteMark]))

end RecordMapping.Text.Quoted
