import RecordMapping.Text.CharWidth

/-!
# RecordMapping.Text.Width — how many columns a line takes on a screen

Characters that stand together are not as wide as each by itself: two letters make a ligature, a
selector makes a sign a picture, several pictures make one.  So a line is measured from its end:
each character sees the form of what follows it, adds its columns, and leaves a form to the
character before it.  A character adds less than nothing where it makes the text after it narrower.
-/

namespace RecordMapping.Text

/-! ### Forms -/

/-- Letters with which letters before them make one shape. -/
inductive Tail
  | lamed
  | khmerLetter
  | ya
  /-- The vowel sign i on a ya. -/
  | iYa
  | tifinaghLetter
  /-- A Tifinagh letter and the joiner before it. -/
  | tifinaghJoined
  | lisuTone
  | orkhonI
  | kiratE
  | kiratAi
  deriving DecidableEq, Repr

/-- What a text begins with, as far as it decides about a character before it. -/
inductive Form
  | plain
  /-- The Arabic letter alef, with the marks before it. -/
  | alef
  /-- A letter, and whether a joiner stands before it. -/
  | letter (tail : Tail) (joined : Bool)
  | picture
  | skinTone
  /-- One of the letters whose pairs are flags. -/
  | flagLetter
  | flagLetters
  /-- A joiner before a picture. -/
  | joinedPicture
  | joinedKeycap
  | joinedFlagLetter
  /-- An even number of flag letters from a joiner on. -/
  | joinedFlags
  /-- An odd number of flag letters from a joiner on, more than one. -/
  | joinedFlagsAndLetter
  /-- The tag that ends the name of a flag. -/
  | tagEnd
  | tagLetters (count : Nat)
  | tagDigits (count : Nat)
  deriving DecidableEq, Repr

namespace Form

def isLetter : Form → Bool
  | letter _ _ => true
  | _ => false

end Form

/-- The form of a text, and the selectors before it that still wait for their character. -/
structure Sequel where
  form : Form := .plain
  /-- Is the character to be a picture? -/
  asPicture : Bool := false
  /-- Is the character to be a sign of writing? -/
  asSign : Bool := false
  /-- Is the character to be as wide as an ideograph? -/
  asWide : Bool := false
  deriving DecidableEq, Repr

/-- The end of a line, and a text that makes nothing of a character before it. -/
def Sequel.plain : Sequel := { }

/-! ### Classes of characters -/

def alefRanges : List (Nat × Nat) :=
  [(0x622, 0x623), (0x625, 0x625), (0x627, 0x627), (0x671, 0x673), (0x675, 0x675), (0x773, 0x774),
    (0x870, 0x882)]

def lamRanges : List (Nat × Nat) :=
  [(0x644, 0x644), (0x6B5, 0x6B8), (0x76A, 0x76A), (0x8A6, 0x8A6), (0x8C7, 0x8C7)]

/-- Khmer letters that are written below the letter before them after a coeng. -/
def khmerRanges : List (Nat × Nat) :=
  [(0x1780, 0x1782), (0x1784, 0x1787), (0x1789, 0x178C), (0x178E, 0x1793), (0x1795, 0x1798),
    (0x179B, 0x179D), (0x17A0, 0x17A0), (0x17A2, 0x17A2), (0x17A7, 0x17A7), (0x17AB, 0x17AC),
    (0x17AF, 0x17AF)]

def tifinaghRanges : List (Nat × Nat) := [(0x2D31, 0x2D65), (0x2D6F, 0x2D6F)]

def flagLetterRanges : List (Nat × Nat) := [(0x1F1E6, 0x1F1FF)]

def skinToneRanges : List (Nat × Nat) := [(0x1F3FB, 0x1F3FF)]

/-- Pictures among the ideographs, which a selector does not make signs of writing. -/
def squaredRanges : List (Nat × Nat) := [(0x1F200, 0x1F2FF)]

/-- Marks that may stand between the letters of a ligature. -/
def betweenRanges : List (Nat × Nat) :=
  [(0x34F, 0x34F), (0x17B4, 0x17B5), (0x180B, 0x180D), (0x180F, 0x180F), (0x200D, 0x200D),
    (0xFE00, 0xFE0F), (0xE0100, 0xE01EF)]

/-- Quotation marks that a selector makes as wide as ideographs. -/
def quotationRanges : List (Nat × Nat) := [(0x2018, 0x2019), (0x201C, 0x201D)]

/-- Letters of the names of flags. -/
def tagLetterRanges : List (Nat × Nat) := [(0xE0061, 0xE007A)]

def tagDigitRanges : List (Nat × Nat) := [(0xE0030, 0xE0039)]

def zeroWidthJoiner : Nat := 0x200D
def pictureSelector : Nat := 0xFE0F
def signSelector : Nat := 0xFE0E
def wideSelector : Nat := 0xFE01
def coeng : Nat := 0x17D2
def tifinaghJoiner : Nat := 0x2D7F
def keycap : Nat := 0x20E3
def blackFlag : Nat := 0x1F3F4
def cancelTag : Nat := 0xE007F

/-! ### Selectors -/

namespace Sequel

/-- Only letters go on to be seen through a selector. -/
def behindSelector (a : Sequel) : Sequel := if a.form.isLetter then a else plain

def withPicture (a : Sequel) : Sequel :=
  match a.form with
  | .joinedPicture | .joinedKeycap => { a with asPicture := true }
  | _ => { a.behindSelector with asPicture := true }

/-- A selector that found no character of its own is as if it were not there. -/
def dropPicture (a : Sequel) : Sequel :=
  if a.asPicture then { a.behindSelector with asPicture := false } else a

def dropSign (a : Sequel) : Sequel :=
  if a.asSign then { a.behindSelector with asSign := false }
  else if a.asWide then { a.behindSelector with asWide := false }
  else a

/-- The sequel from a selector on. -/
def select? (n : Nat) (a : Sequel) : Option Sequel :=
  if n = pictureSelector then some a.withPicture
  else if n = signSelector then some { a.behindSelector with asSign := true }
  else if n = wideSelector then some { a.behindSelector with asWide := true }
  else none

/-- The columns of a character that the selector after it makes narrower or wider. -/
def selected? (c : Char) (a : Sequel) : Option Nat :=
  if a.asSign then
    if inRanges twofoldRanges c && inRanges pictureRanges c && !inRanges squaredRanges c then some 1
    else none
  else if a.asWide && inRanges quotationRanges c then some 2
  else none

end Sequel

/-! ### Characters before a form -/

namespace Form

/-- Marks without width lie between a letter and its ligature. -/
def between? (c : Char) : Form → Option Form
  | letter t j =>
    if c.toNat = zeroWidthJoiner then some (letter t true)
    else if inRanges betweenRanges c then some (letter t j)
    else none
  | _ => none

/-- A ligature of the character with the letter after it: the columns that it adds, and its form. -/
def ligature? (c : Char) : Tail → Bool → Option (Int × Form)
  | .lamed, true => if c.toNat = 0x5D0 then some (0, plain) else none
  | .khmerLetter, false => if c.toNat = coeng then some (-1, plain) else none
  | .ya, true => if c.toNat = 0x1A17 then some (0, letter .iYa false) else none
  | .iYa, false => if c.toNat = 0x1A15 then some (0, plain) else none
  | .tifinaghLetter, joined =>
    if c.toNat = tifinaghJoiner then some (1, letter .tifinaghJoined false)
    else if joined && inRanges tifinaghRanges c then some (0, plain)
    else none
  | .tifinaghJoined, false => if inRanges tifinaghRanges c then some (-1, plain) else none
  | .lisuTone, false => if 0xA4F8 ≤ c.toNat ∧ c.toNat ≤ 0xA4FB then some (0, plain) else none
  | .orkhonI, true => if c.toNat = 0x10C32 then some (0, plain) else none
  | .kiratE, false =>
    if c.toNat = 0x16D63 ∨ c.toNat = 0x16D69 then some (0, plain)
    else if c.toNat = 0x16D67 then some (0, letter .kiratAi false)
    else if c.toNat = 0x16D68 then some (1, letter .kiratE false)
    else none
  | .kiratAi, false => if c.toNat = 0x16D63 then some (0, plain) else none
  | _, _ => none

/-- A tag of a flag's name before its other tags, or the flag before a whole name: three to six
letters, or three digits and at most four letters. -/
def tagged? (c : Char) (form : Form) : Option Form :=
  let isLetter := inRanges tagLetterRanges c
  let isDigit := inRanges tagDigitRanges c
  let isFlag := c.toNat == blackFlag
  match form with
  | tagEnd => if isLetter then some (tagLetters 1) else if isDigit then some (tagDigits 1) else none
  | tagLetters n =>
    if isLetter && n < 6 then some (tagLetters (n + 1))
    else if isDigit && n < 5 then some (tagDigits 1)
    else if isFlag && 2 < n then some picture
    else none
  | tagDigits n =>
    if isDigit && n < 3 then some (tagDigits (n + 1))
    else if isFlag && n == 3 then some picture
    else none
  | _ => none

/-- A joiner makes one picture of several. -/
def joins? : Form → Option Form
  | picture | skinTone | flagLetters | joinedFlags | joinedFlagsAndLetter => some joinedPicture
  | _ => none

/-- A flag letter before the form.  Two of them are as wide as a picture; those that follow a
joiner belong to the picture, and every second one takes back what the first one added. -/
def flagged? : Form → Option (Int × Form)
  | flagLetter | flagLetters => some (1, flagLetters)
  | joinedPicture => some (1, joinedFlagLetter)
  | joinedFlagLetter | joinedFlagsAndLetter => some (-1, joinedFlags)
  | joinedFlags => some (3, joinedFlagsAndLetter)
  | _ => none

/-- A character before a joiner that belongs to the picture after it. -/
def beforeJoiner? (c : Char) : Option Form :=
  if c.toNat = keycap then some joinedKeycap
  else if inRanges skinToneRanges c then some skinTone
  else if c.toNat = cancelTag then some tagEnd
  else if inRanges pictureRanges c then some picture
  else none

/-- The columns that a character adds to the text after it where both are drawn in one place, and
the form of the whole; `none` for a character that stands by itself. -/
def together? (c : Char) (form : Form) : Option (Int × Form) :=
  match form with
  | plain | joinedKeycap => none
  | alef =>
    if inRanges lamRanges c then some (0, plain)
    else if charWidth c == 0 && !inRanges detachingRanges c then some (0, alef)
    else none
  | letter t joined => ligature? c t joined
  | _ =>
    if c.toNat = zeroWidthJoiner then form.joins?.map (0, ·)
    else if inRanges flagLetterRanges c then form.flagged?
    else
      match form with
      | skinTone => if inRanges tonableRanges c then some (0, picture) else none
      | joinedPicture => (beforeJoiner? c).map (0, ·)
      | _ => (tagged? c form).map (0, ·)

/-- The form of a text that begins with the character. -/
def ofChar (c : Char) : Form :=
  if c.toNat = 0x5DC then letter .lamed false
  else if inRanges alefRanges c then alef
  else if inRanges khmerRanges c then letter .khmerLetter false
  else if c.toNat = 0x1A10 then letter .ya false
  else if inRanges tifinaghRanges c then letter .tifinaghLetter false
  else if c.toNat = 0xA4FC ∨ c.toNat = 0xA4FD then letter .lisuTone false
  else if c.toNat = 0x10C03 then letter .orkhonI false
  else if c.toNat = 0x16D67 then letter .kiratE false
  else if c.toNat = 0x16D68 then letter .kiratAi false
  else if inRanges flagLetterRanges c then flagLetter
  else if inRanges skinToneRanges c then skinTone
  else if inRanges pictureRanges c then picture
  else plain

end Form

/-! ### Lines -/

namespace Sequel

/-- A character before a text that waits for no picture. -/
def extend (c : Char) (a : Sequel) : Int × Sequel :=
  if c.toNat ≤ 0xA0 then (1, plain)
  else
    match a.select? c.toNat, a.selected? c with
    | some b, _ => (0, b)
    | none, some w => (w, plain)
    | none, none =>
      let b := a.dropSign
      match b.form.between? c, b.form.together? c with
      | some f, _ => (0, { b with form := f })
      | none, some (w, f) => (w, { form := f })
      | none, none => (charWidth c, { form := .ofChar c })

/-- The columns that the character adds to the text after it, and the sequel from it on. -/
def cons (c : Char) (a : Sequel) : Int × Sequel :=
  if a.asPicture && inRanges twofoldRanges c then
    (if a.form = .joinedPicture ∨ a.form = .joinedKeycap then 0 else 2, { form := .picture })
  else a.dropPicture.extend c

end Sequel

/-- The columns of a text and what it looks like to a character before it. -/
def measure : List Char → Int × Sequel
  | [] => (0, .plain)
  | c :: cs =>
    let (columns, after) := measure cs
    let (more, sequel) := after.cons c
    (more + columns, sequel)

def width (s : String) : Nat := (measure s.toList).1.toNat

end RecordMapping.Text
