import RecordMapping.Text.CaseTable
import RecordMapping.Text.CharSet

/-!
# RecordMapping.Text.Case — upper and lower case of text

The full mappings of Unicode, without regard to a language: a character may become several, and a
capital sigma at the end of a word becomes a final one.
-/

namespace RecordMapping.Text

namespace CaseRun

def contains (r : CaseRun) (n : Nat) : Bool :=
  decide (r.first ≤ n ∧ n ≤ r.last ∧ (n - r.first) % r.step = 0)

def image (r : CaseRun) (n : Nat) : Nat := ((n : Int) + r.delta).toNat

end CaseRun

/-- The character that the runs map `c` to; `c` itself if none does. -/
def mapRuns (runs : List CaseRun) (c : Char) : Char :=
  match runs.find? fun r => r.contains c.toNat with
  | some r => Char.ofNat (r.image c.toNat)
  | none => c

def upperChar (c : Char) : List Char :=
  if c.toNat < 0x80 then [c.toUpper]
  else match upperSequences.find? fun s => s.1 == c.toNat with
    | some s => s.2.map Char.ofNat
    | none => [mapRuns upperRuns c]

def upper (s : String) : String := String.ofList (s.toList.flatMap upperChar)

/-! ### Lower case -/

def capitalSigma : Char := Char.ofNat 0x3A3

def smallSigma : Char := Char.ofNat 0x3C3

def finalSigma : Char := Char.ofNat 0x3C2

def dottedCapitalI : Char := Char.ofNat 0x130

def combiningDot : Char := Char.ofNat 0x307

/-- The lower case of a character other than a sigma. -/
def lowerChar (c : Char) : List Char :=
  if c.toNat < 0x80 then [c.toLower]
  else if c = dottedCapitalI then ['i', combiningDot]
  else [mapRuns lowerRuns c]

/-- Does a cased character come next, characters without weight skipped? -/
def meetsCased (cs : List Char) : Bool :=
  ((cs.dropWhile (inRanges caseIgnorableRanges)).head?).any (inRanges casedRanges)

/-- The lower case of `cs` after the characters `before`, the nearest first. -/
def lowerFrom (before : List Char) : List Char → List Char
  | [] => []
  | c :: rest =>
    (if c = capitalSigma then
      if meetsCased before && !meetsCased rest then [finalSigma] else [smallSigma]
    else lowerChar c) ++ lowerFrom (c :: before) rest

def lower (s : String) : String := String.ofList (lowerFrom [] s.toList)

end RecordMapping.Text
