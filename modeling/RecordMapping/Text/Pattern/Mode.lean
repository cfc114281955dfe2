import RecordMapping.Text.Blank

/-!
# RecordMapping.Text.Pattern.Mode — how the characters of a pattern are taken

A pattern can switch its mode on the way, by letters with at most one minus sign before those that
are switched off.  In spaced patterns blanks stand for nothing, and a comment runs from a number
sign to the end of its line.
-/

namespace RecordMapping.Text.Pattern

/-- `pointTakesAll` lets a point stand for line breaks too, `returnEndsLine` lets a carriage return
end a line as well.  Without `wide` there are only ASCII characters in sets. -/
structure Mode where
  ignoreCase : Bool
  manyLines : Bool
  pointTakesAll : Bool
  swapGreed : Bool
  wide : Bool
  returnEndsLine : Bool
  spaced : Bool
  deriving DecidableEq, Repr

namespace Mode

def standard : Mode := ⟨false, false, false, false, true, false, false⟩

def switch? (m : Mode) (on : Bool) : Char → Option Mode
  | 'i' => some { m with ignoreCase := on }
  | 'm' => some { m with manyLines := on }
  | 's' => some { m with pointTakesAll := on }
  | 'U' => some { m with swapGreed := on }
  | 'u' => some { m with wide := on }
  | 'R' => some { m with returnEndsLine := on }
  | 'x' => some { m with spaced := on }
  | _ => none

/-- The mode after the switches up to a colon or a closing parenthesis, with that character and
what follows it.  No letter comes twice; `seen` holds what came, the last first. -/
def switches? (on : Bool) (seen : List Char) (m : Mode) :
    List Char → Option (Mode × Char × List Char)
  | [] => none
  | c :: rest =>
    if c = ':' ∨ c = ')' then
      if seen.head? = some '-' ∨ (c = ')' ∧ seen = []) then none else some (m, c, rest)
    else if c ∈ seen then none
    else if c = '-' then switches? false (c :: seen) m rest
    else (m.switch? on c).bind fun changed => switches? on (c :: seen) changed rest

/-! ### Blanks -/

def skipBlanks (inComment : Bool) : List Char → List Char
  | [] => []
  | c :: rest =>
    if inComment then skipBlanks (c != Char.ofNat 0x0A) rest
    else if c = '#' then skipBlanks true rest
    else if isBlank c then skipBlanks false rest
    else c :: rest

/-- Passes over what stands for nothing. -/
def skip (m : Mode) (cs : List Char) : List Char := if m.spaced then skipBlanks false cs else cs

/-- The first character that is not blank, one number sign passed over as well. -/
def firstMark? (passed : Bool) : List Char → Option Char
  | [] => none
  | c :: rest =>
    if isBlank c then firstMark? passed rest
    else if c = '#' ∧ passed = false then firstMark? true rest
    else some c

/-- The character that comes next, with no comment looked for; in a text of blanks only, the first
of them. -/
def peek? (m : Mode) (cs : List Char) : Option Char :=
  if m.spaced then (firstMark? false cs).or cs.head? else cs.head?

end Mode

end RecordMapping.Text.Pattern
