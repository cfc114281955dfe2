import RecordMapping.Text.Letter
import RecordMapping.Text.Pattern.Bracket

/-!
# RecordMapping.Text.Pattern.Reader — reading patterns

A pattern is read part by part, with the groups that are open kept beside it.  A switch of the mode
counts up to the end of its group, later alternatives included.  Braces count occurrences nowhere:
an opening one is refused, a closing one stands for itself.
-/

namespace RecordMapping.Text.Pattern

/-- A part that has been read, with the depth to which its parts are nested.  A switch of the mode
is a part that cannot be repeated. -/
structure Part where
  expression : Expression
  depth : Nat
  repeatable : Bool

namespace Part

def leaf (e : Expression) : Part := ⟨e, 0, true⟩

def switch : Part := ⟨.empty, 0, false⟩

def maxDepth (ps : List Part) : Nat := ps.foldl (fun n p => max n p.depth) 0

/-- The depth of parts as one: two or more are one level deeper. -/
def joinedDepth (ps : List Part) : Nat := if ps.length < 2 then maxDepth ps else maxDepth ps + 1

def sequence (ps : List Part) : Part :=
  ⟨.sequenceOf (ps.map Part.expression), joinedDepth ps, true⟩

def choice : List Part → Part
  | [p] => p
  | ps => ⟨.choiceOf (ps.map Part.expression), joinedDepth ps, true⟩

end Part

/-- A group that is open, or the pattern as a whole: the mode at the place that has been reached,
the number of the group if it has one, the parts of the alternative that is being read and the
alternatives before it, both with the last first. -/
structure Level where
  mode : Mode
  index : Option Nat
  parts : List Part
  earlier : List Part

namespace Level

def fresh (mode : Mode) (index : Option Nat) : Level := ⟨mode, index, [], []⟩

def push (l : Level) (p : Part) : Level := { l with parts := p :: l.parts }

def nextAlternative (l : Level) : Level :=
  { l with parts := [], earlier := Part.sequence l.parts.reverse :: l.earlier }

/-- All alternatives as one part. -/
def contents (l : Level) : Part := Part.choice l.nextAlternative.earlier.reverse

/-- The group as a part of what is around it. -/
def close (l : Level) : Part :=
  let inside := l.contents
  let e := match l.index with
    | none => inside.expression
    | some i => .group i inside.expression
  ⟨e, inside.depth + 1, true⟩

end Level

/-- What has been read of a pattern: the innermost open group and those around it, and the names
and the number of the groups so far. -/
structure Reading where
  inner : Level
  outer : List Level
  names : List (List Char)
  groups : Nat

namespace Reading

def start : Reading := ⟨Level.fresh Mode.standard none, [], [], 0⟩

def mode (r : Reading) : Mode := r.inner.mode

def push (r : Reading) (p : Part) : Reading := { r with inner := r.inner.push p }

/-! ### Single characters -/

/-- The expression for a character of the pattern. -/
def letter? (m : Mode) (c : Char) : Option Expression :=
  if !m.ignoreCase then some (.letters [c])
  else if m.wide then none
  else some (.ofSet (CharSet.single c).foldAscii)

def lineBreaks (m : Mode) : CharSet :=
  if m.pointTakesAll then CharSet.empty
  else if m.returnEndsLine then
    (CharSet.single (Char.ofNat 0x0A)).union (CharSet.single (Char.ofNat 0x0D))
  else CharSet.single (Char.ofNat 0x0A)

/-- A point stands for any character but those that break lines. -/
def point? (m : Mode) : Option Expression :=
  if m.wide then some (.ofSet (lineBreaks m).complement) else none

def caret (m : Mode) : Anchor :=
  if !m.manyLines then .textStart else if m.returnEndsLine then .returnLineStart else .lineStart

def dollar (m : Mode) : Anchor :=
  if !m.manyLines then .textEnd else if m.returnEndsLine then .returnLineEnd else .lineEnd

def ofEscape? (m : Mode) : Escape → Option Expression
  | .char c => letter? m c
  | .set s => some (.ofSet s)
  | .anchor a => some (.anchor a)

def pushLeaf? (r : Reading) (e : Option Expression) (rest : List Char) :
    Option (Reading × List Char) :=
  e.map fun e => (r.push (Part.leaf e), rest)

/-! ### Repetitions -/

/-- Repeats the last part.  A question mark right after the mark makes the repetition prefer to
stop. -/
def repeatLast? (r : Reading) (count : Count) (rest : List Char) :
    Option (Reading × List Char) :=
  match r.inner.parts with
  | [] => none
  | p :: before =>
    if !p.repeatable then none
    else
      let stops := decide (rest.head? = some '?')
      let e := Expression.repeatedOf count (stops == r.mode.swapGreed) p.expression
      some ({ r with inner := { r.inner with parts := ⟨e, p.depth + 1, true⟩ :: before } },
        if stops then rest.tail else rest)

/-! ### Groups -/

def isNameChar (first : Bool) (c : Char) : Bool :=
  c == '_' || (if first then isAlphabetic c else isAlphanumeric c || c ∈ ['.', '[', ']'])

/-- The name of a group up to the angle that closes it. -/
def groupName? (cs : List Char) : Option (List Char × List Char) :=
  let name := cs.takeWhile (· != '>')
  match name, cs.dropWhile (· != '>') with
  | c :: more, _ :: rest =>
    if isNameChar true c && more.all (isNameChar false) then some (name, rest) else none
  | _, _ => none

def openGroup (r : Reading) (mode : Mode) (index : Option Nat) : Reading :=
  { r with inner := Level.fresh mode index, outer := r.inner :: r.outer }

def openNumbered (r : Reading) : Reading :=
  { r.openGroup r.mode (some (r.groups + 1)) with groups := r.groups + 1 }

def openNamed? (r : Reading) (cs : List Char) : Option (Reading × List Char) :=
  (groupName? cs).bind fun (name, rest) =>
    if name ∈ r.names then none else some ({ r.openNumbered with names := name :: r.names }, rest)

/-- A switch of the mode, for the rest of the group or for a group of its own. -/
def readSwitches? (r : Reading) (cs : List Char) : Option (Reading × List Char) :=
  (r.mode.switches? true [] cs).map fun (mode, last, rest) =>
    if last = ':' then (r.openGroup mode none, rest)
    else
      let here := r.push Part.switch
      ({ here with inner := { here.inner with mode } }, rest)

/-- Reads what follows an opening parenthesis.  Groups that only look ahead or behind are
refused. -/
def readGroup? (r : Reading) : List Char → Option (Reading × List Char)
  | '?' :: '=' :: _ => none
  | '?' :: '!' :: _ => none
  | '?' :: '<' :: '=' :: _ => none
  | '?' :: '<' :: '!' :: _ => none
  | '?' :: 'P' :: '<' :: rest => r.openNamed? rest
  | '?' :: '<' :: rest => r.openNamed? rest
  | '?' :: rest => r.readSwitches? rest
  | rest => some (r.openNumbered, rest)

def closeGroup? (r : Reading) : Option Reading :=
  match r.outer with
  | [] => none
  | l :: outer => some { r with inner := l.push r.inner.close, outer }

/-! ### The whole -/

def openBrace : Char := Char.ofNat 0x7B

/-- Reads a part that begins with `c`. -/
def step? (r : Reading) (c : Char) (rest : List Char) : Option (Reading × List Char) :=
  match c with
  | '(' => r.readGroup? (r.mode.skip rest)
  | ')' => r.closeGroup?.map fun r => (r, rest)
  | '|' => some ({ r with inner := r.inner.nextAlternative }, rest)
  | '[' => (Bracket.read? r.mode rest).map fun (s, depth, rest) =>
      (r.push ⟨.ofSet s, depth, true⟩, rest)
  | '?' => r.repeatLast? .atMostOnce rest
  | '*' => r.repeatLast? .anyNumber rest
  | '+' => r.repeatLast? .atLeastOnce rest
  | '.' => r.pushLeaf? (point? r.mode) rest
  | '^' => r.pushLeaf? (some (.anchor (caret r.mode))) rest
  | '$' => r.pushLeaf? (some (.anchor (dollar r.mode))) rest
  | '\\' => (Escape.read? r.mode rest).bind fun (e, rest) => r.pushLeaf? (ofEscape? r.mode e) rest
  | c => if c = openBrace then none else r.pushLeaf? (letter? r.mode c) rest

def readFrom? : Nat → Reading → List Char → Option Reading
  | 0, _, _ => none
  | fuel + 1, r, cs =>
    match r.mode.skip cs with
    | [] => some r
    | c :: rest => (r.step? c rest).bind fun (r, rest) => readFrom? fuel r rest

/-- How deep parts may be nested. -/
def depthLimit : Nat := 250

def conclude? (r : Reading) : Option Expression :=
  if r.outer.isEmpty && decide (r.inner.contents.depth ≤ depthLimit) then
    some r.inner.contents.expression
  else none

end Reading

/-- The expression that a pattern writes.  Every step takes a character, so as many steps as there
are characters suffice. -/
def expression? (cs : List Char) : Option Expression :=
  (Reading.readFrom? (cs.length + 1) Reading.start cs).bind Reading.conclude?

end RecordMapping.Text.Pattern
