import RecordMapping.Target.Property
import RecordMapping.Row.Cursor

/-!
# RecordMapping.Rule — how one property is filled from a row

A rule names the column of a property.  It may carry a condition, which decides row by row whether
the property is filled, and processors, which change the cell's value in turn before it is assigned.

Functions cannot be compared, so a condition and a processor carry a key and the identity of the
code behind them; the two together stand for the function.
-/

namespace RecordMapping

/-- The identity of a piece of code. -/
structure CodeIdentity where
  label : String
  deriving DecidableEq, Repr

structure Condition where
  key : String
  code : CodeIdentity
  holds : Row → String → Bool

/-- `apply kind raw prior` makes the next value from the present one; `prior` is what the property
holds before the row is assigned.  A failure is a message. -/
structure Processor where
  key : String
  code : CodeIdentity
  apply : Kind → Value → Value → Except String Value

/-- Why a property could not be filled. -/
inductive BindingCause
  | read (error : CursorError)
  | conversion (error : ConversionError)
  | processor (key cause : String)
  | missingColumn
  deriving DecidableEq, Repr

namespace BindingCause

def message : BindingCause → String
  | read _ => "failed to read column"
  | conversion error => error.message
  | processor key _ => "value processor '" ++ key ++ "' failed"
  | missingColumn => "column is not present in the result set"

/-- The messages of the causes behind the cause, the nearest first. -/
def causes : BindingCause → List String
  | read error => error.message :: error.causes
  | processor _ cause => [cause]
  | _ => []

end BindingCause

structure Rule (σ : Type) where
  property : Property σ
  column : String
  condition : Option Condition
  processors : List Processor

namespace Rule

variable {σ : Type}

def ofProperty (p : Property σ) : Rule σ := ⟨p, p.defaultColumn, none, []⟩

def name (r : Rule σ) : String := r.property.name

def kind (r : Rule σ) : Kind := r.property.kind

/-! ### Configuring -/

/-- A change to a rule. -/
inductive Action
  | column (name : String)
  | condition (c : Condition)
  | process (p : Processor)

def apply (r : Rule σ) : Action → Rule σ
  | .column name => { r with column := name }
  | .condition c => { r with condition := some c }
  | .process p => { r with processors := r.processors ++ [p] }

def applyAll (r : Rule σ) (actions : List Action) : Rule σ := actions.foldl apply r

/-! ### Filling the property -/

/-- Does the condition let the rule fill its property from this row? -/
def accepts (r : Rule σ) (row : Row) : Bool := r.condition.all fun c => c.holds row r.column

/-- The processors in turn; all are given the same prior value. -/
def process (kind : Kind) (prior : Value) : List Processor → Value → Except BindingCause Value
  | [], v => .ok v
  | p :: rest, v =>
    match p.apply kind v prior with
    | .ok next => process kind prior rest next
    | .error cause => .error (.processor p.key cause)

/-- Reads, processes and assigns the cell at `ordinal`. -/
def assign (r : Rule σ) (row : Row) (ordinal : Nat) (target : σ) : Except BindingCause σ :=
  match row.read ordinal with
  | .error e => .error (.read e)
  | .ok raw =>
    match process r.kind (r.property.get target) r.processors raw with
    | .error cause => .error cause
    | .ok v =>
      match r.property.set target v with
      | .error e => .error (.conversion e)
      | .ok next => .ok next

/-- What becomes of one property on one row. -/
inductive Outcome (σ : Type)
  | absent
  | null
  | declined
  | assigned (target : σ)
  | failed (cause : BindingCause)

/-- A column that is not there fails a strict rule unless its condition declines the row; a null
cell leaves the property alone without asking the condition. -/
def fill (r : Rule σ) (strict : Bool) (row : Row) (ordinal : Option Nat) (target : σ) : Outcome σ :=
  match ordinal with
  | none => if strict && r.accepts row then .failed .missingColumn else .absent
  | some i =>
    if row.isNull i then .null
    else if r.accepts row then
      match r.assign row i target with
      | .ok next => .assigned next
      | .error cause => .failed cause
    else .declined

end Rule

end RecordMapping
