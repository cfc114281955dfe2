import RecordMapping.Projector

/-!
# RecordMapping.Stream — whole cursors into records

A stream maps the rows of a cursor one at a time and stops for good at the first failure, at the
end, or when it is cancelled.  `Stream.collect` takes all the records or none.
-/

namespace RecordMapping

/-- Why a mapping fails. -/
inductive MappingError
  | configuration (error : ConfigurationError)
  | binding (failure : BindingFailure)
  | cursor (rowIndex : Option Nat) (error : CursorError)
  | compilation (fingerprint targetType cause : String)
  | typeMismatch (fingerprint : String)
  | cancelled (rows : Nat)
  deriving DecidableEq, Repr

namespace MappingError

def message : MappingError → String
  | configuration error => error.message
  | binding failure => failure.message
  | cursor rowIndex _ => "cursor failed" ++ BindingFailure.rowSuffix rowIndex
  | compilation fingerprint targetType _ =>
    "failed to compile projector " ++ fingerprint ++ " for " ++ targetType
  | typeMismatch fingerprint =>
    "cache entry " ++ fingerprint ++ " holds a projector for a different result type"
  | cancelled rows => "mapping cancelled after " ++ toString rows ++ " rows"

/-- The messages of the causes behind the error, the nearest first. -/
def causes : MappingError → List String
  | configuration error => error.causes
  | binding failure => failure.causes
  | cursor _ error => error.message :: error.causes
  | compilation _ _ cause => [cause]
  | typeMismatch _ | cancelled _ => []

end MappingError

/-- `rows` have been mapped so far. -/
structure Stream (γ τ σ : Type) where
  cursor : γ
  projector : Projector τ σ
  index : PresenceIndex
  rows : Nat
  finished : Bool

/-- What a stream gives when it is asked for a record. -/
inductive Item (σ : Type)
  | record (r : σ)
  | failed (error : MappingError)
  | done

namespace Stream

variable {γ τ σ : Type} [RowSource γ] [Target σ]

def start (cursor : γ) (projector : Projector τ σ) : Stream γ τ σ :=
  ⟨cursor, projector, projector.presenceIndex, 0, false⟩

/-- Ends the stream. -/
def finish (s : Stream γ τ σ) : Logged (Stream γ τ σ) := do
  .emit (.rowsMaterialized s.projector.targetType s.rows s.index.shapesSeen)
  return { s with finished := true }

/-- Ends the stream with an item. -/
def finishWith (s : Stream γ τ σ) (item : Item σ) : Logged (Item σ × Stream γ τ σ) := do
  return (item, ← s.finish)

/-- The next record.  Cancellation is looked at before the cursor moves. -/
def next (cancelled : Bool) (s : Stream γ τ σ) : Logged (Item σ × Stream γ τ σ) :=
  if s.finished then pure (.done, s)
  else if cancelled then s.finishWith (.failed (.cancelled s.rows))
  else
    let (moved, cursor) := RowSource.advance s.cursor
    let s := { s with cursor }
    match moved with
    | .ok false => s.finishWith .done
    | .error e => s.finishWith (.failed (.cursor (some s.rows) e))
    | .ok true => do
      let (result, index) ← s.projector.project (RowSource.row cursor) s.index
      let s := { s with index }
      match result with
      | .ok r => return (.record r, { s with rows := s.rows + 1 })
      | .error failure => s.finishWith (.failed (.binding (failure.atRow s.rows)))

/-- The records up to the end, or the first error. -/
def drain (cancelled : Bool) : Nat → Stream γ τ σ → Logged (Except MappingError (List σ))
  | 0, _ => pure (.ok [])
  | fuel + 1, s => do
    let (item, rest) ← s.next cancelled
    match item with
    | .done => return .ok []
    | .failed e => return .error e
    | .record r =>
      match ← drain cancelled fuel rest with
      | .ok rs => return .ok (r :: rs)
      | .error e => return .error e

/-- All records of a cursor.  A cursor bounds its rows, which bounds the items. -/
def collect {γ : Type} [Cursor γ] (cancelled : Bool) (cursor : γ) (projector : Projector τ σ) :
    Logged (Except MappingError (List σ)) :=
  drain cancelled (Cursor.remaining cursor + 1) (start cursor projector)

end Stream

end RecordMapping
