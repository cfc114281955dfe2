import RecordMapping.Text.Quoted

/-!
# RecordMapping.Outline — what a value is made of, on one line

An outline is the part of a value worth showing to someone who looks into it.  A record that holds
more than its outline shows ends in two dots.
-/

namespace RecordMapping

inductive Outline
  | word (w : String)
  | text (s : String)
  | list (items : List Outline)
  | apply (name : String) (arguments : List Outline)
  | record (name : String) (fields : List (String × Outline)) (complete : Bool)
  deriving Inhabited

namespace Outline

def number (n : Nat) : Outline := .word (toString n)

def flag (b : Bool) : Outline := .word (if b then "true" else "false")

def optional : Option Outline → Outline
  | some o => .apply "Some" [o]
  | none => .word "None"

def texts (ss : List String) : Outline := .list (ss.map .text)

/-! ### Text -/

def leftBrace : String := String.singleton (Char.ofNat 0x7B)

def rightBrace : String := String.singleton (Char.ofNat 0x7D)

def commas (parts : List String) : String := ", ".intercalate parts

/-- The fields of a record between braces. -/
def braced (fields : List String) (complete : Bool) : String :=
  let parts := if complete then fields else fields ++ [".."]
  if parts.isEmpty then "" else " " ++ leftBrace ++ " " ++ commas parts ++ " " ++ rightBrace

mutual

def render : Outline → String
  | .word w => w
  | .text s => Text.Quoted.encode s
  | .list items => "[" ++ commas (renderItems items) ++ "]"
  | .apply name arguments => name ++ "(" ++ commas (renderItems arguments) ++ ")"
  | .record name fields complete => name ++ braced (renderFields fields) complete

def renderItems : List Outline → List String
  | [] => []
  | o :: rest => render o :: renderItems rest

def renderFields : List (String × Outline) → List String
  | [] => []
  | (name, o) :: rest => (name ++ ": " ++ render o) :: renderFields rest

end

end Outline

end RecordMapping
