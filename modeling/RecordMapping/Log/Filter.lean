import RecordMapping.Log.Line
import RecordMapping.Number.Numeral
import RecordMapping.Text.Blank
import RecordMapping.Text.Letter
import RecordMapping.Text.Pattern

/-!
# RecordMapping.Log.Filter — which events reach the log

A filter is a list of directives.  A directive says how detailed the events of some sources may be,
or the events inside some spans.  Of the directives on sources the most specific one that fits an
event decides; a directive on spans lets more events in, and takes none away.
-/

namespace RecordMapping.Log

/-- The most detailed level that passes; none lets nothing pass. -/
abbrev Threshold := Option Level

namespace Threshold

def rank : Threshold → Nat
  | none => 0
  | some l => l.rank

def admits (t : Threshold) (l : Level) : Bool := decide (l.rank ≤ t.rank)

/-- The more detailed of the two. -/
def join (t u : Threshold) : Threshold := if t.rank < u.rank then u else t

def joinAll (ts : List Threshold) : Threshold := ts.foldl join none

/-- A threshold is written as a number from 0 to 5 or as the name of a level or `off`, in any
case. -/
def parse? (cs : List Char) : Option Threshold :=
  match readCount cs with
  | some n => if n = 0 then some none else (Level.all.find? fun l => decide (l.rank = n)).map some
  | none =>
    let word := cs.map Char.toUpper
    if word = "OFF".toList then some none
    else if cs.isEmpty then some (some .error)
    else (Level.all.find? fun l => decide (l.name.toList = word)).map some
where
  /-- Digits with at most a plus sign before them. -/
  readCount (cs : List Char) : Option Nat :=
    let digits := match cs with
      | '+' :: rest => rest
      | _ => cs
    if !digits.isEmpty && digits.all isDigit then some (digitsValue digits) else none

end Threshold

/-- What the value of a span's field has to be.  The fields of spans are texts, so that a value
written as a truth value or a number fits none. -/
inductive FieldPattern
  | text (p : Text.Pattern)
  | never
  deriving DecidableEq, Repr

namespace FieldPattern

def parse? (cs : List Char) : Option FieldPattern :=
  if cs = "true".toList ∨ cs = "false".toList ∨ (readBinary64 cs).isSome = true then some .never
  else (Text.Pattern.parse? cs).map .text

def fits (p : FieldPattern) (value : String) : Bool :=
  match p with
  | text p => p.fits value.toList
  | never => false

end FieldPattern

structure FieldCondition where
  name : String
  value : Option FieldPattern
  deriving DecidableEq, Repr

/-- What is left out fits everything. -/
structure Directive where
  threshold : Threshold
  source : Option String
  span : Option String
  fields : List FieldCondition
  deriving DecidableEq, Repr

namespace Directive

/-! ### Reading

A directive is `threshold`, `source`, `source=threshold` or `source[span]=threshold`, where the span
may name fields in braces.  Without a threshold everything passes. -/

/-- Where a reader stands in a directive, with the position at which the part it reads began. -/
inductive Stage
  | start
  | name (begin : Nat)
  | span (begin : Nat)
  | field (begin : Nat)
  | fields
  | afterSpan
  | threshold (begin : Nat)
  deriving DecidableEq, Repr

/-- The characters of `cs` from a position on.  Positions count bytes. -/
def suffix : List Char → Nat → List Char
  | cs, 0 => cs
  | [], _ => []
  | c :: cs, n + 1 => suffix cs (n + 1 - c.utf8Size)

/-- The characters of `cs` up to a position. -/
def front : List Char → Nat → List Char
  | _, 0 => []
  | [], _ => []
  | c :: cs, n + 1 => c :: front cs (n + 1 - c.utf8Size)

/-- The characters of `cs` from one position up to another. -/
def slice (cs : List Char) (first last : Nat) : List Char := front (suffix cs first) (last - first)

/-- A field is its name alone or `name=pattern`; what follows a second `=` is left out. -/
def readField (cs : List Char) : Option FieldCondition :=
  if cs.isEmpty then none
  else
    match cs.splitOnP (· == '=') with
    | [] => none
    | [name] => some ⟨String.ofList name, none⟩
    | name :: value :: _ =>
      (FieldPattern.parse? value).map fun p => ⟨String.ofList name, some p⟩

def startsName (c : Char) : Bool := c == '-' || c == ':' || c == '_' || Text.isAlphanumeric c

def openBrace : Char := Char.ofNat 0x7B

def closeBrace : Char := Char.ofNat 0x7D

def empty : Directive := ⟨some .trace, none, none, []⟩

/-- Takes the character at position `i` of `cs`. -/
def step (cs : List Char) (d : Directive) (stage : Stage) (i : Nat) (c : Char) :
    Option (Directive × Stage) :=
  match stage with
  | .start =>
    if c = '[' then some (d, .span (i + 1))
    else if startsName c then some (d, .name i)
    else none
  | .name b =>
    let source := some (String.ofList (slice cs b i))
    if c = '=' then some ({ d with source }, .threshold (i + 1))
    else if c = '[' then some ({ d with source }, .span (i + 1))
    else some (d, stage)
  | .span b =>
    let name := slice cs b i
    if c = ']' then some ({ d with span := some (String.ofList name) }, .afterSpan)
    else if c = openBrace then
      some ({ d with span := if name.isEmpty then none else some (String.ofList name) },
        .field (i + 1))
    else some (d, stage)
  | .field b =>
    if c = closeBrace then
      (readField (slice cs b i)).map fun f => ({ d with fields := d.fields ++ [f] }, .fields)
    else some (d, stage)
  | .fields => if c = ']' then some (d, .afterSpan) else none
  | .afterSpan => if c = '=' then some (d, .threshold (i + 1)) else none
  | .threshold _ => some (d, stage)

def scan (cs : List Char) :
    Directive → Stage → Nat → List Char → Option (Directive × Stage)
  | d, stage, _, [] => some (d, stage)
  | d, stage, i, c :: rest =>
    match step cs d stage i c with
    | none => none
    | some (next, stage) => scan cs next stage (i + c.utf8Size) rest

/-- What the end of the text makes of a directive. -/
def conclude (cs : List Char) (d : Directive) : Stage → Option Directive
  | .name b =>
    let word := suffix cs b
    match Threshold.parse? word with
    | some threshold => some { d with threshold }
    | none => some { d with source := some (String.ofList word) }
  | .threshold b =>
    let word := suffix cs b
    if word.isEmpty then some d
    else (Threshold.parse? word).map fun threshold => { d with threshold }
  | .afterSpan => some d
  | _ => none

/-- Blanks around a directive are passed over, yet they count for the positions of its parts: a
directive that begins with a blank is not the same as without it. -/
def parse? (cs : List Char) : Option Directive :=
  (scan cs empty .start 0 (Text.trimChars cs)).bind fun (d, stage) => conclude cs d stage

/-! ### Fitting -/

def fitsSource (d : Directive) (source : Source) : Bool :=
  d.source.all fun s => s.toList.isPrefixOf source.path.toList

/-- Does it look at spans? -/
def isDynamic (d : Directive) : Bool := d.span.isSome || !d.fields.isEmpty

/-- Does it look at the sources and fields of events? -/
def isStatic (d : Directive) : Bool := d.span.isNone && d.fields.all fun f => f.value.isNone

def fitsEvent (d : Directive) (e : Event) : Bool :=
  d.fitsSource e.source &&
    d.fields.all fun f => decide (f.name ∈ "message" :: e.fields.map Prod.fst)

/-- Is the directive about spans like this one, whatever their fields hold? -/
def concernsSpan (d : Directive) (s : Span) : Bool :=
  d.fitsSource s.source && d.span.all (fun name => decide (name = s.name)) &&
    d.fields.all fun f => decide (f.name ∈ s.fields.map Prod.fst)

def fitsSpan (d : Directive) (s : Span) : Bool :=
  d.concernsSpan s &&
    d.fields.all fun f => f.value.all fun p =>
      (s.fields.find? fun g => decide (g.1 = f.name)).any fun g => p.fits g.2

/-- How specific a directive on sources is: the longer name first, then the more fields. -/
def specificity (d : Directive) : Nat × Nat :=
  (match d.source with
    | none => 0
    | some s => s.utf8ByteSize + 1, d.fields.length)

/-- Do two directives fit the same spans? -/
def sameScope (d e : Directive) : Bool :=
  decide (d.source = e.source ∧ d.span = e.span ∧ d.fields = e.fields)

def names (d : Directive) : List String := d.fields.map FieldCondition.name

/-- Is `d` at least as specific as `e`? -/
def dominates (d e : Directive) : Bool :=
  let a := d.specificity
  let b := e.specificity
  if a.1 ≠ b.1 then decide (b.1 < a.1)
  else if a.2 ≠ b.2 then decide (b.2 < a.2)
  else !decide (d.names < e.names)

end Directive

/-- The directives in the order they were written. -/
structure Filter where
  directives : List Directive
  deriving DecidableEq, Repr

namespace Filter

/-- A filter is written as directives with commas between them. -/
def parse? (s : String) : Option Filter :=
  let parts := (s.toList.splitOnP (· == ',')).filter fun part => !part.isEmpty
  (parts.mapM Directive.parse?).map Filter.mk

/-- Sources outside the library pass warnings, its own sources what `t` admits. -/
def standard (t : Threshold) : Filter :=
  ⟨⟨some .warn, none, none, []⟩ ::
    ["rowmap", "rowmap_cli", "rowmap_ingest", "rowmap_map", "rowmap_model"].map fun source =>
      ⟨t, some source, none, []⟩⟩

/-! ### Deciding -/

def static (f : Filter) : List Directive := f.directives.filter Directive.isStatic

/-- A later directive takes the place of an earlier one about the same spans. -/
def dynamic (f : Filter) : List Directive := withoutReplaced (f.directives.filter Directive.isDynamic)
where
  withoutReplaced : List Directive → List Directive
    | [] => []
    | d :: rest => if rest.any d.sameScope then withoutReplaced rest else d :: withoutReplaced rest

/-- Of the directives that satisfy `p` the most specific one, the last of equals. -/
def decisive? (p : Directive → Bool) (ds : List Directive) : Option Directive :=
  (ds.filter p).foldl (fun best d =>
    match best with
    | none => some d
    | some e => if d.dominates e then some d else some e) none

/-- The most detailed level that any directive could let pass. -/
def ceiling (f : Filter) : Threshold :=
  if f.dynamic.any fun d => d.fields.any fun c => c.value.isSome then some .trace
  else Threshold.joinAll (f.directives.map Directive.threshold)

def admitsSpan (f : Filter) (s : Span) : Bool :=
  f.ceiling.admits s.level &&
    (f.dynamic.any (fun d => d.concernsSpan s) ||
      (decisive? (fun d => d.fitsSource s.source) f.static).any fun d =>
        d.threshold.admits s.level)

/-- What passes inside a span by the directives on spans. -/
def insideThreshold (f : Filter) (s : Span) : Threshold :=
  if f.admitsSpan s then
    Threshold.joinAll ((f.dynamic.filter fun d => d.fitsSpan s).map Directive.threshold)
  else none

def admitsEvent (f : Filter) (s : Span) (e : Event) : Bool :=
  f.ceiling.admits e.level &&
    ((f.insideThreshold s).admits e.level ||
      (decisive? (fun d => d.fitsEvent e) f.static).any fun d => d.threshold.admits e.level)

end Filter

end RecordMapping.Log
