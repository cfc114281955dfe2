import RecordMapping.Text.Pattern.Program

/-!
# RecordMapping.Text.Pattern.Search — following a program through a text

All ways through a program are followed at once, as threads in order of preference; a thread that
has found the pattern cuts off those after it.  The text is taken byte by byte, so that places
inside a character are places too.

Whether a thread passes an anchor is decided in two turns: what lies behind a place is known when
the place is reached, what lies ahead only with the next byte.  If an anchor that a thread waits at
turns out to hold, all threads are followed anew with what is known then.
-/

namespace RecordMapping.Text.Pattern

/-- A byte of a text: the character it belongs to, and whether it is the first and the last of
it. -/
structure TextByte where
  char : Char
  first : Bool
  last : Bool
  deriving DecidableEq, Repr

namespace TextByte

def ofChar (c : Char) : List TextByte :=
  (List.range c.utf8Size).map fun i => ⟨c, i == 0, i + 1 == c.utf8Size⟩

end TextByte

/-- A thread stands before a node, or inside the character that the node takes. -/
structure Thread where
  node : Nat
  inside : Bool
  deriving DecidableEq, Repr

def lineFeed : Char := Char.ofNat 0x0A

def carriageReturn : Char := Char.ofNat 0x0D

def isWordChar (c : Char) : Bool := c.isAlphanum || c == '_'

/-- The threads at a place, the preferred one first, with the anchors known to hold there. -/
structure Place where
  threads : List Thread
  held : List Anchor
  afterWord : Bool
  afterReturn : Bool
  deriving DecidableEq, Repr

/-! ### Anchors -/

namespace Place

/-- Does an anchor hold at a place before `next`, the end if there is none? -/
def holds (s : Place) (next : Option Char) (a : Anchor) : Bool :=
  let beforeWord := next.any isWordChar
  decide (a ∈ s.held) ||
    match a with
    | .textStart => false
    | .textEnd => next.isNone
    | .lineStart => false
    | .lineEnd => next.all fun c => c == lineFeed
    | .returnLineStart => s.afterReturn && decide (next ≠ some lineFeed)
    | .returnLineEnd =>
      next.all fun c => c == carriageReturn || (c == lineFeed && !s.afterReturn)
    | .wordEdge => s.afterWord != beforeWord
    | .noWordEdge => s.afterWord == beforeWord
    | .wordStart => !s.afterWord && beforeWord
    | .wordEnd => s.afterWord && !beforeWord

end Place

namespace Anchor

def all : List Anchor :=
  [.textStart, .textEnd, .lineStart, .lineEnd, .returnLineStart, .returnLineEnd, .wordEdge,
    .noWordEdge, .wordStart, .wordEnd]

/-- The anchors that hold after a byte whatever comes next. -/
def after (c : Char) : List Anchor := if c = lineFeed then [.lineStart, .returnLineStart] else []

end Anchor

/-! ### Following -/

namespace Program

/-- Follows the nodes of `stack` as far as no byte is needed.  `seen` holds the threads met so far,
the last first; a node that was met is not followed again. -/
def follow (p : Program) (held : List Anchor) : Nat → List Nat → List Thread → List Thread
  | 0, _, seen => seen
  | _, [], seen => seen
  | fuel + 1, i :: stack, seen =>
    if ⟨i, false⟩ ∈ seen then p.follow held fuel stack seen
    else
      let met := ⟨i, false⟩ :: seen
      match p.node i with
      | .split nexts => p.follow held fuel (nexts ++ stack) met
      | .anchor a next => p.follow held fuel (if a ∈ held then next :: stack else stack) met
      | _ => p.follow held fuel stack met

/-- A node is put on the stack at most once for every way to it. -/
def reach (p : Program) (held : List Anchor) (i : Nat) (seen : List Thread) : List Thread :=
  p.follow held (p.ways + 1) [i] seen

/-- The threads in the order in which they were met, splits left out. -/
def settled (p : Program) (seen : List Thread) : List Thread :=
  seen.reverse.filter fun t => !(p.node t.node).isSplit

def begin (p : Program) : Place :=
  let held := [.textStart, .lineStart, .returnLineStart]
  ⟨p.settled (p.reach held p.start []), held, false, false⟩

/-- The anchor that a thread waits at. -/
def waitsAt? (p : Program) (t : Thread) : Option Anchor :=
  match p.node t.node with
  | .anchor a _ => some a
  | _ => none

/-- Follows the threads of a place anew. -/
def refollow (p : Program) (held : List Anchor) (ts : List Thread) : List Thread :=
  p.settled (ts.foldl (fun seen t =>
    if t.inside then (if t ∈ seen then seen else t :: seen) else p.reach held t.node seen) [])

/-- The threads of a place when it is known what comes next. -/
def awake (p : Program) (s : Place) (next : Option Char) : List Thread :=
  let held := Anchor.all.filter (s.holds next)
  if s.threads.any fun t => (p.waitsAt? t).any fun a => a ∈ held && !(a ∈ s.held) then
    p.refollow held s.threads
  else s.threads

/-! ### Bytes -/

/-- Takes a byte with one thread. -/
def take (p : Program) (b : TextByte) (held : List Anchor) (seen : List Thread) (t : Thread) :
    List Thread :=
  match p.node t.node with
  | .anyByte next => p.reach held next seen
  | .oneOf set next =>
    if t.inside || (b.first && set.contains b.char) then
      if b.last then p.reach held next seen
      else if ⟨t.node, true⟩ ∈ seen then seen
      else ⟨t.node, true⟩ :: seen
    else seen
  | _ => seen

def isFound (p : Program) (t : Thread) : Bool := (p.node t.node).isFound

/-- Takes a byte with all threads that are preferred to the first which has found the pattern. -/
def advance (p : Program) (s : Place) (b : TextByte) : Place :=
  let held := Anchor.after b.char
  let threads := (p.awake s (some b.char)).takeWhile fun t => !p.isFound t
  ⟨p.settled (threads.foldl (p.take b held) []), held, isWordChar b.char,
    b.char == carriageReturn⟩

/-- Does the search end with the text, having found the pattern there? -/
def foundAtEnd (p : Program) (cs : List Char) : Bool :=
  (p.awake ((cs.flatMap TextByte.ofChar).foldl p.advance p.begin) none).any p.isFound

end Program

end RecordMapping.Text.Pattern
