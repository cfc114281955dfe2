import RecordMapping.Text.CharSet

/-!
# RecordMapping.Text.Pattern.Expression — what a pattern asks of a text

Expressions are built by `ofSet`, `sequenceOf`, `choiceOf` and `repeatedOf`, which bring them into
one form: no sequence inside a sequence, no choice inside a choice, letters that follow each other
joined, alternatives of one character joined to a set, and what all alternatives begin with written
once in front of them.
-/

namespace RecordMapping.Text.Pattern

/-- A place between two characters of a text, or at one of its ends.  The places about words look
at ASCII letters, digits and underscores only. -/
inductive Anchor
  | textStart
  | textEnd
  | lineStart
  | lineEnd
  | returnLineStart
  | returnLineEnd
  | wordEdge
  | noWordEdge
  | wordStart
  | wordEnd
  deriving DecidableEq, Repr

/-- How often a part occurs. -/
inductive Count
  | atMostOnce
  | anyNumber
  | atLeastOnce
  deriving DecidableEq, Repr

/-- A repetition that is `greedy` prefers to go on, another one prefers to stop.  Of the
alternatives of a choice the earlier ones are preferred. -/
inductive Expression
  | empty
  | letters (cs : List Char)
  | oneOf (set : CharSet)
  | anchor (a : Anchor)
  | repeated (count : Count) (greedy : Bool) (body : Expression)
  | group (index : Nat) (body : Expression)
  | sequence (parts : List Expression)
  | choice (alternatives : List Expression)

namespace Expression

/-- Are two expressions written alike? -/
def same : Expression → Expression → Bool
  | empty, empty => true
  | letters cs, letters ds => decide (cs = ds)
  | oneOf s, oneOf t => decide (s = t)
  | anchor a, anchor b => decide (a = b)
  | repeated m g d, repeated n h e => decide (m = n) && g == h && d.same e
  | group i d, group j e => decide (i = j) && d.same e
  | sequence ds, sequence es => sameAll ds es
  | choice ds, choice es => sameAll ds es
  | _, _ => false
where
  sameAll : List Expression → List Expression → Bool
    | [], [] => true
    | d :: ds, e :: es => d.same e && sameAll ds es
    | _, _ => false

/-- Is the empty text the only one that it could fit? -/
def isWeightless : Expression → Bool
  | empty | anchor _ => true
  | letters _ | oneOf _ => false
  | repeated .atMostOnce _ body => body.isWeightless
  | repeated _ _ _ => false
  | group _ body => body.isWeightless
  | sequence parts => allWeightless parts
  | choice alternatives => allWeightless alternatives
where
  allWeightless : List Expression → Bool
    | [] => true
    | e :: rest => e.isWeightless && allWeightless rest

/-! ### Sets -/

def ofSet (s : CharSet) : Expression :=
  match s.only? with
  | some c => letters [c]
  | none => oneOf s

/-! ### Sequences -/

/-- `e` before parts that are in form. -/
def joinTo (e : Expression) (parts : List Expression) : List Expression :=
  match e, parts with
  | empty, _ => parts
  | letters cs, letters ds :: rest => letters (cs ++ ds) :: rest
  | _, _ => e :: parts

def parts : Expression → List Expression
  | sequence es => es
  | e => [e]

def sequenceOf (es : List Expression) : Expression :=
  match (es.flatMap parts).foldr joinTo [] with
  | [] => empty
  | [e] => e
  | joined => sequence joined

/-! ### Choices -/

def alternatives : Expression → List Expression
  | choice es => es
  | e => [e]

def letter? : Expression → Option CharSet
  | letters [c] => some (CharSet.single c)
  | _ => none

def set? : Expression → Option CharSet
  | oneOf s => some s
  | _ => none

/-- The number of parts with which both lists begin. -/
def commonLength : List Expression → List Expression → Nat
  | d :: ds, e :: es => if d.same e then commonLength ds es + 1 else 0
  | _, _ => 0

def sequenceParts? : Expression → Option (List Expression)
  | sequence es => some es
  | _ => none

/-- The parts with which all alternatives begin, and what is left of each. -/
def sharedStart? (es : List Expression) : Option (List Expression × List Expression) :=
  match es.mapM sequenceParts? with
  | some (first :: others) =>
    let n := others.foldl (fun n other => min n (commonLength first other)) first.length
    if n = 0 then none
    else some (first.take n, (first :: others).map fun ps => sequenceOf (ps.drop n))
  | _ => none

/-- One set for alternatives that are all single letters, or all sets. -/
def joinedSet? (es : List Expression) : Option CharSet :=
  match es.mapM letter? with
  | some sets => some (CharSet.unionAll sets)
  | none => (es.mapM set?).map CharSet.unionAll

/-- A choice without regard to how the alternatives begin. -/
def plainChoiceOf (es : List Expression) : Expression :=
  match es.flatMap alternatives with
  | [e] => e
  | flat =>
    match joinedSet? flat with
    | some s => ofSet s
    | none => choice flat

def choiceOf (es : List Expression) : Expression :=
  match plainChoiceOf es with
  | choice flat =>
    match sharedStart? flat with
    | some (start, ends) => sequenceOf (start ++ [plainChoiceOf ends])
    | none => choice flat
  | e => e

/-! ### Repetitions -/

/-- What fits the empty text only need not be repeated. -/
def repeatedOf (count : Count) (greedy : Bool) (body : Expression) : Expression :=
  if body.isWeightless then
    match count with
    | .atLeastOnce => body
    | _ => repeated .atMostOnce greedy body
  else repeated count greedy body

end Expression

end RecordMapping.Text.Pattern
