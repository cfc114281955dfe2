/-!
# RecordMapping.Text.Terminal — sequences in text that a terminal obeys

A terminal shows nothing for an escape sequence.  A sequence that sets a style holds for the text
after it, until a reset; text that is cut into lines has its styles taken back at the end of each
line and set again on the next.
-/

namespace RecordMapping.Text.Terminal

def escape : Char := Char.ofNat 0x1B
def bell : Char := Char.ofNat 7

/-- The one character that stands for an escape and a left bracket. -/
def introducer : Char := Char.ofNat 0x9B

/-- The sequence that takes back every style. -/
def reset : List Char := [escape, '[', '0', 'm']

/-! ### What a terminal does not show -/

def isParameter (c : Char) : Bool := 0x30 ≤ c.toNat && c.toNat ≤ 0x3F
def isIntermediate (c : Char) : Bool := 0x20 ≤ c.toNat && c.toNat ≤ 0x2F

/-- A sequence ends with the first character that is not intermediate, which is at least `low`. -/
def finalLength? (low : Nat) : List Char → Option Nat
  | [] => none
  | c :: cs =>
    if isIntermediate c then (finalLength? low cs).map (· + 1)
    else if low ≤ c.toNat ∧ c.toNat ≤ 0x7E then some 1
    else none

/-- The length of a control sequence after its bracket. -/
def controlLength? : List Char → Option Nat
  | [] => none
  | c :: cs =>
    if isParameter c then (controlLength? cs).map (· + 1) else finalLength? 0x40 (c :: cs)

/-- The length of a command with text, up to and with the bell or the escape and backslash that
end it. -/
def commandLength? : List Char → Option Nat
  | [] => none
  | c :: cs =>
    if c = bell then some 1
    else
      match c == escape, cs with
      | true, '\\' :: _ => some 2
      | _, _ => (commandLength? cs).map (· + 1)

/-- The length of the sequence after an escape, `none` where it begins no sequence. -/
def sequenceLength? (cs : List Char) : Option Nat :=
  let long :=
    match cs with
    | '[' :: rest => controlLength? rest
    | ']' :: rest => commandLength? rest
    | _ => none
  match long with
  | some n => some (n + 1)
  | none => finalLength? 0x30 cs

/-- The characters that are shown of a text whose first `skipped` are part of a sequence. -/
def shownAfter : Nat → List Char → List Char
  | _, [] => []
  | n + 1, _ :: cs => shownAfter n cs
  | 0, c :: cs =>
    if c = escape then
      match sequenceLength? cs with
      | some n => shownAfter n cs
      | none => c :: shownAfter 0 cs
    else c :: shownAfter 0 cs

def shown (s : String) : String := String.ofList (shownAfter 0 s.toList)

/-! ### Styles -/

/-- How far a style has been read. -/
inductive Stage
  | opening
  /-- So many digits of a number, which has at most four. -/
  | number (digits : Nat)
  | separator
  deriving DecidableEq, Repr

/-- The stage after one more character that does not end the style. -/
def Stage.next? : Stage → Char → Option Stage
  | opening, c =>
    if "[()#;?".toList.contains c then some opening
    else if c.isDigit then some (number 1)
    else none
  | number n, c =>
    if c = ';' then some separator
    else if c.isDigit && n < 4 then some (number (n + 1))
    else none
  | separator, c =>
    if c = ';' then some separator else if c.isDigit then some (number 1) else none

def endsStyle (c : Char) : Bool :=
  c.isDigit || ('A' ≤ c && c ≤ 'P') || ('f' ≤ c && c ≤ 'n') || "RZcqry=><".toList.contains c

/-- The longest style that the text goes on with. -/
def Stage.style? (stage : Stage) : List Char → Option (List Char)
  | [] => none
  | c :: cs =>
    match (stage.next? c).bind fun next => next.style? cs with
    | some rest => some (c :: rest)
    | none => if endsStyle c then some [c] else none

/-- The styles in a text, from left to right.  None begins inside another, for what begins one does
not occur in it. -/
def styles : List Char → List (List Char)
  | [] => []
  | c :: cs =>
    if c = escape ∨ c = introducer then
      match Stage.opening.style? cs with
      | some style => (c :: style) :: styles cs
      | none => styles cs
    else styles cs

/-- The styles that hold after the ones in a text. -/
def holding (styles : List (List Char)) (cs : List Char) : List (List Char) :=
  (Terminal.styles cs).foldl (fun held s => if s = reset then [] else held ++ [s]) styles

/-- Lines of a text for each to be shown by itself, where the given styles hold before them. -/
def resumed (held : List (List Char)) : List (List Char) → List (List Char)
  | [] => []
  | line :: lines =>
    let after := holding held line
    (held.flatten ++ line ++ if after.isEmpty then [] else reset) :: resumed after lines

end RecordMapping.Text.Terminal
