import RecordMapping.Fingerprint
import RecordMapping.PresenceIndex

/-!
# RecordMapping.Projector — rows into records

A projector is a compiled rule set.  `Projector.project` takes the rules in order: each leaves its
property alone, fills it, or fails the row.
-/

namespace RecordMapping

/-- A row could not be mapped because one of its properties could not be filled. -/
structure BindingFailure where
  property : String
  column : String
  targetType : String
  kind : Kind
  rowIndex : Option Nat
  cause : BindingCause
  deriving DecidableEq, Repr

namespace BindingFailure

def atRow (f : BindingFailure) (rowIndex : Nat) : BindingFailure :=
  { f with rowIndex := some rowIndex }

def rowSuffix : Option Nat → String
  | some row => " at row " ++ toString row
  | none => ""

def message (f : BindingFailure) : String :=
  f.property ++ " encountered an error on column [" ++ f.column ++ "] when binding into property " ++
    f.property ++ " of " ++ f.targetType ++ " (" ++ f.kind.name ++ ")" ++ rowSuffix f.rowIndex

/-- The messages of the causes behind the failure, the nearest first. -/
def causes (f : BindingFailure) : List String := f.cause.message :: f.cause.causes

end BindingFailure

structure Projector (τ σ : Type) where
  fingerprint : Fingerprint τ
  targetType : String
  table : ColumnTable
  rules : List (Rule σ)
  strict : Bool

namespace Projector

variable {τ σ : Type}

/-! ### Compiling -/

/-- The projector of a rule set for the type `target`.  The fingerprint must be one of that type;
`serial` is the number of the compilation. -/
def compile [DecidableEq τ] (serial : Nat) (target : τ) (s : RuleSet σ) (f : Fingerprint τ) :
    Logged (Except ConfigurationError (Projector τ σ)) :=
  if f.target = target then do
    .emit (.projectorCompiled s.typeName f.hex s.rules.length)
    return .ok ⟨f, s.typeName, ⟨serial, s.rules.map Rule.column⟩, s.rules, s.strict⟩
  else pure (.error (.fingerprintMismatch s.typeName f.typeName))

def columns (p : Projector τ σ) : List String := p.table.columns

def presenceIndex (p : Projector τ σ) : PresenceIndex := .empty p.table

/-! ### Projecting -/

def failure (targetType : String) (r : Rule σ) (cause : BindingCause) : BindingFailure where
  property := r.name
  column := r.column
  targetType
  kind := r.kind
  rowIndex := none
  cause

/-- Takes the rules, each with the position of its column, in turn. -/
def fillAll (targetType : String) (strict : Bool) (row : Row) :
    List (Rule σ × Option Nat) → σ → Logged (Except BindingFailure σ)
  | [], target => pure (.ok target)
  | (r, ordinal) :: rest, target =>
    match r.fill strict row ordinal target with
    | .assigned next => fillAll targetType strict row rest next
    | .failed cause => pure (.error (failure targetType r cause))
    | .absent => do
      .emit (.columnAbsent r.name r.column)
      fillAll targetType strict row rest target
    | .null => do
      .emit (.nullSkipped r.name r.column)
      fillAll targetType strict row rest target
    | .declined => do
      .emit (.fieldDeclined r.name)
      fillAll targetType strict row rest target

/-- The record of a row, with an index that remembers the row's shape. -/
def project [Target σ] (p : Projector τ σ) (row : Row) (index : PresenceIndex) :
    Logged (Except BindingFailure σ × PresenceIndex) := do
  let next ← (index.forTable p.table).resolve row
  let result ← fillAll p.targetType p.strict row (p.rules.zip next.ordinals) Target.initial
  return (result, next)

/-- The record of a row on its own. -/
def projectOne [Target σ] (p : Projector τ σ) (row : Row) : Logged (Except BindingFailure σ) := do
  let (result, _) ← p.project row p.presenceIndex
  return result

end Projector

end RecordMapping
