import RecordMapping.Text.CharSet
import RecordMapping.Text.PrintableTable
import RecordMapping.Text.WidthTable

/-!
# RecordMapping.Text.CharWidth — how many columns a character takes by itself

A wide or fullwidth character of East Asian scripts takes two columns.  A mark that joins the
character before it, a sign that is drawn around the letters after it and a character that a reader
is to ignore take none.  All others, control characters included, take one.
-/

namespace RecordMapping.Text

/-- The property Default_Ignorable_Code_Point. -/
def ignorableRanges : List (Nat × Nat) :=
  [(0xAD, 0xAD), (0x34F, 0x34F), (0x61C, 0x61C), (0x115F, 0x1160), (0x17B4, 0x17B5),
    (0x180B, 0x180F), (0x200B, 0x200F), (0x202A, 0x202E), (0x2060, 0x206F), (0x3164, 0x3164),
    (0xFE00, 0xFE0F), (0xFEFF, 0xFEFF), (0xFFA0, 0xFFA0), (0xFFF0, 0xFFF8), (0x1BCA0, 0x1BCA3),
    (0x1D173, 0x1D17A), (0xE0000, 0xE0FFF)]

/-- The vowels and final consonants that complete a Hangul syllable. -/
def joiningJamoRanges : List (Nat × Nat) := [(0x1160, 0x11FF), (0xD7B0, 0xD7C6), (0xD7CB, 0xD7FB)]

/-- Arabic and Syriac signs that enclose the letters or digits after them. -/
def enclosingRanges : List (Nat × Nat) :=
  [(0x605, 0x605), (0x70F, 0x70F), (0x890, 0x891), (0x8E2, 0x8E2)]

/-- Letters that are drawn on the letter after them, and the Devanagari caret. -/
def prependedRanges : List (Nat × Nat) :=
  [(0xD4E, 0xD4E), (0xA8FA, 0xA8FA), (0x111C2, 0x111C3), (0x113D1, 0x113D1), (0x1193F, 0x1193F),
    (0x11941, 0x11941), (0x11A3A, 0x11A3A), (0x11A84, 0x11A89), (0x11D46, 0x11D46),
    (0x11F02, 0x11F02)]

/-- The Hangul filler stands for a leading consonant, and the Tifinagh joiner is drawn when it
joins nothing. -/
def isVisibleFiller (c : Char) : Bool := c.toNat == 0x115F || c.toNat == 0x2D7F

def isZeroWidth (c : Char) : Bool :=
  !isVisibleFiller c &&
    [graphemeExtendRanges, ignorableRanges, joiningJamoRanges, enclosingRanges, prependedRanges].any
      (inRanges · c)

def isWide (c : Char) : Bool := inRanges wideRanges c

/-- The Khmer sign that abbreviates "and so on" is as wide as the three letters it replaces. -/
def khmerEtCetera : Nat := 0x17D8

def charWidth (c : Char) : Nat :=
  if c.toNat ≤ 0xA0 then 1
  else if c.toNat = khmerEtCetera then 3
  else if isZeroWidth c then 0
  else if isWide c then 2
  else 1

end RecordMapping.Text
