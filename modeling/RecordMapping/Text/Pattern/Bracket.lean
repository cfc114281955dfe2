import RecordMapping.Text.Pattern.Escape

/-!
# RecordMapping.Text.Pattern.Bracket — sets written in brackets

Between brackets stand characters, ranges, named ASCII sets and further sets in brackets, and
between two runs of them an operation.  A caret after the opening bracket takes what is not in the
set.

In ASCII text nothing beyond ASCII may be written, and no set may be turned into what it leaves
out.  Elsewhere no case folding is known, so a set whose case is ignored has to be closed under it
already: the empty set is, and what is left out by such a set.
-/

namespace RecordMapping.Text.Pattern

/-- A set with the knowledge whether it is closed under change of case. -/
structure Members where
  set : CharSet
  folded : Bool

namespace Members

def empty : Members := ⟨CharSet.empty, true⟩

def ofSet (s : CharSet) : Members := ⟨s, s.isEmpty⟩

def insert (a : Members) (low high : Char) : Members :=
  ⟨a.set.insert low.toNat high.toNat, false⟩

def union (a b : Members) : Members :=
  if b.set.isEmpty ∨ a.set = b.set then a else ⟨a.set.union b.set, a.folded && b.folded⟩

def inter (a b : Members) : Members :=
  if a.set.isEmpty then a
  else if b.set.isEmpty then empty
  else ⟨a.set.inter b.set, a.folded && b.folded⟩

def diff (a b : Members) : Members :=
  if a.set.isEmpty ∨ b.set.isEmpty then a else ⟨a.set.diff b.set, a.folded && b.folded⟩

def symmDiff (a b : Members) : Members := (a.union b).diff (a.inter b)

def fold? (m : Mode) (a : Members) : Option Members :=
  if !m.ignoreCase then some a
  else if !m.wide then some ⟨a.set.foldAscii, true⟩
  else if a.folded || a.set.isEmpty then some { a with folded := true }
  else none

def negate (a : Members) : Members := ⟨a.set.complement, a.folded || a.set.isEmpty⟩

/-- What a set in brackets stands for when `a` is between them. -/
def bracketed? (m : Mode) (negated : Bool) (a : Members) : Option Members :=
  (a.fold? m).bind fun b =>
    if negated then (if m.wide then some b.negate else none) else some b

end Members

/-! ### Operations -/

inductive Operation
  | inter
  | diff
  | symmDiff
  deriving DecidableEq, Repr

def Operation.apply (o : Operation) : Members → Members → Members :=
  match o with
  | inter => Members.inter
  | diff => Members.diff
  | symmDiff => Members.symmDiff

/-- `depth` says how deep the sets and operations inside are nested, `count` how many items were
read one after the other. -/
structure Run where
  members : Members
  count : Nat
  depth : Nat

namespace Run

def empty : Run := ⟨Members.empty, 0, 0⟩

def add (r : Run) (a : Members) (depth : Nat) : Run :=
  ⟨r.members.union a, r.count + 1, max r.depth depth⟩

def insert (r : Run) (low high : Char) : Run :=
  ⟨r.members.insert low high, r.count + 1, r.depth⟩

/-- The depth of the run as a whole. -/
def height (r : Run) : Nat := if r.count < 2 then r.depth else r.depth + 1

end Run

/-- A set whose closing bracket has not been read: the operation that waits for its second operand,
and the run of items read since.  It is `fresh` as long as there are only hyphens in it. -/
structure OpenSet where
  negated : Bool
  fresh : Bool
  pending : Option (Operation × Members × Nat)
  run : Run

namespace OpenSet

/-- The run as second operand of the operation that waits, with the depth. -/
def operand? (m : Mode) (s : OpenSet) : Option (Members × Nat) :=
  match s.pending with
  | none => some (s.run.members, s.run.height)
  | some (o, left, depth) => do
    let right ← s.run.members.fold? m
    let left ← left.fold? m
    return (Members.empty.union (o.apply left right), max depth s.run.height + 1)

def operate? (m : Mode) (o : Operation) (s : OpenSet) : Option OpenSet :=
  (s.operand? m).map fun (left, depth) =>
    { s with pending := some (o, left, depth), run := Run.empty }

def close? (m : Mode) (s : OpenSet) : Option (Members × Nat) := do
  let (members, depth) ← s.operand? m
  let members ← members.bracketed? m s.negated
  return (members, depth + 1)

def add (s : OpenSet) (a : Members) (depth : Nat) : OpenSet := { s with run := s.run.add a depth }

def insert? (m : Mode) (s : OpenSet) (low high : Char) : Option OpenSet :=
  if !m.wide && decide (0x80 ≤ high.toNat) then none
  else if low ≤ high then some { s with run := s.run.insert low high }
  else none

end OpenSet

namespace Bracket

/-! ### Named sets -/

def named? (name : String) : Option CharSet :=
  match name with
  | "alnum" => some (Escape.letterSet.union Escape.digitSet)
  | "alpha" => some Escape.letterSet
  | "ascii" => some (CharSet.range (Char.ofNat 0x00) (Char.ofNat 0x7F))
  | "blank" => some ((CharSet.single (Char.ofNat 0x09)).union (CharSet.single ' '))
  | "cntrl" => some ((CharSet.range (Char.ofNat 0x00) (Char.ofNat 0x1F)).union
      (CharSet.single (Char.ofNat 0x7F)))
  | "digit" => some Escape.digitSet
  | "graph" => some (CharSet.range '!' '~')
  | "lower" => some (CharSet.range 'a' 'z')
  | "print" => some (CharSet.range ' ' '~')
  | "punct" => some ((CharSet.range '!' '~').diff (Escape.letterSet.union Escape.digitSet))
  | "space" => some Escape.blankSet
  | "upper" => some (CharSet.range 'A' 'Z')
  | "word" => some Escape.wordSet
  | "xdigit" => some ((Escape.digitSet.union (CharSet.range 'A' 'F')).union
      (CharSet.range 'a' 'f'))
  | _ => none

/-- A named set after its opening bracket, as in `[:alpha:]` or `[:^alpha:]`. -/
def readNamed? : List Char → Option (CharSet × Bool × List Char)
  | ':' :: rest =>
    let negated := decide (rest.head? = some '^')
    let word := if negated then rest.tail else rest
    match word.dropWhile (· != ':') with
    | ':' :: ']' :: more =>
      (named? (String.ofList (word.takeWhile (· != ':')))).map fun s => (s, negated, more)
    | _ => none
  | _ => none

/-! ### Items -/

def readChar? (m : Mode) : List Char → Option (Escape × List Char)
  | [] => none
  | '\\' :: rest => Escape.read? m rest
  | c :: rest => some (.char c, rest)

/-- Does a range go on after the hyphen before `rest`? -/
def continuesRange (m : Mode) (rest : List Char) : Bool :=
  decide (m.peek? rest ≠ some ']' ∧ m.peek? rest ≠ some '-')

/-- A character alone. -/
def addAlone? (m : Mode) (s : OpenSet) : Escape → Option OpenSet
  | .char c => s.insert? m c c
  | .set t => some (s.add (Members.ofSet t) 0)
  | .anchor _ => none

/-- A character, or a range of them. -/
def readItem? (m : Mode) (s : OpenSet) (cs : List Char) : Option (OpenSet × List Char) := do
  let (first, rest) ← readChar? m cs
  match m.skip rest with
  | [] => none
  | '-' :: more =>
    if continuesRange m more then
      let (last, rest) ← readChar? m (m.skip more)
      match first, last with
      | .char low, .char high => (s.insert? m low high).map fun s => (s, rest)
      | _, _ => none
    else (addAlone? m s first).map fun s => (s, '-' :: more)
  | rest => (addAlone? m s first).map fun s => (s, rest)

/-! ### Sets inside sets -/

/-- Opens a set after its bracket. -/
def begin (m : Mode) (cs : List Char) : OpenSet × List Char :=
  match m.skip cs with
  | '^' :: rest => (⟨true, true, none, Run.empty⟩, rest)
  | rest => (⟨false, true, none, Run.empty⟩, rest)

def operation? : List Char → Option (Operation × List Char)
  | '&' :: '&' :: rest => some (.inter, rest)
  | '-' :: '-' :: rest => some (.diff, rest)
  | '~' :: '~' :: rest => some (.symmDiff, rest)
  | _ => none

/-- How far the reading of a set has come: still inside of some, the innermost first, or behind the
last bracket, with what was read, its depth and what follows. -/
inductive Progress
  | inside (inner : OpenSet) (outer : List OpenSet) (rest : List Char)
  | done (members : Members) (depth : Nat) (rest : List Char)

def close? (m : Mode) (inner : OpenSet) (outer : List OpenSet) (rest : List Char) :
    Option Progress :=
  (inner.close? m).map fun (members, depth) =>
    match outer with
    | [] => .done members depth rest
    | o :: outer => .inside (o.add members depth) outer rest

/-- Reads on in a set in which something else than hyphens has come. -/
def stepSettled? (m : Mode) (inner : OpenSet) (outer : List OpenSet) (c : Char)
    (rest : List Char) : Option Progress :=
  if c = ']' then close? m inner outer rest
  else if c = '[' then
    match readNamed? rest with
    | some (s, negated, more) =>
      ((Members.ofSet s).bracketed? m negated).map fun a => .inside (inner.add a 0) outer more
    | none =>
      let (new, more) := begin m rest
      some (.inside new (inner :: outer) more)
  else
    match operation? (c :: rest) with
    | some (o, more) => (inner.operate? m o).map fun s => .inside s outer more
    | none => (readItem? m inner (c :: rest)).map fun (s, more) => .inside s outer more

/-- The first character after hyphens is one of the set also if it is a closing bracket, unless
there were hyphens. -/
def step? (m : Mode) (inner : OpenSet) (outer : List OpenSet) (cs : List Char) :
    Option Progress :=
  match m.skip cs with
  | [] => none
  | c :: rest =>
    if inner.fresh ∧ c = '-' then (inner.insert? m c c).map fun s => .inside s outer rest
    else
      let settled := { inner with fresh := false }
      if inner.fresh ∧ inner.run.count = 0 ∧ c = ']' then
        (settled.insert? m c c).map fun s => .inside s outer rest
      else stepSettled? m settled outer c rest

def readFrom? (m : Mode) : Nat → Progress → Option (Members × Nat × List Char)
  | _, .done members depth rest => some (members, depth, rest)
  | 0, .inside _ _ _ => none
  | fuel + 1, .inside inner outer cs => (step? m inner outer cs).bind (readFrom? m fuel)

/-- Reads a set after its opening bracket, with its depth and what follows.  Every step takes a
character, so as many as there are suffice. -/
def read? (m : Mode) (cs : List Char) : Option (CharSet × Nat × List Char) :=
  let (new, rest) := begin m cs
  (readFrom? m (cs.length + 1) (.inside new [] rest)).map fun (members, depth, more) =>
    (members.set, depth, more)

end Bracket

end RecordMapping.Text.Pattern
