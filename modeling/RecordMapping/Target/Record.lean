import RecordMapping.Value.Json

/-!
# RecordMapping.Target.Record — records whose fields are known only at run time

A record lists its assigned fields in the order of their first assignment.  Assigning a field again
replaces its value where it stands.
-/

namespace RecordMapping

structure Record where
  fields : List (String × Value)
  deriving DecidableEq, Repr, Inhabited

namespace Record

def empty : Record := ⟨[]⟩

def get? (r : Record) (name : String) : Option Value :=
  (r.fields.find? fun f => decide (f.1 = name)).map Prod.snd

/-- `fields` with the first field of that name replaced, or a new one at the end. -/
def setIn (name : String) (v : Value) : List (String × Value) → List (String × Value)
  | [] => [(name, v)]
  | f :: rest => if f.1 = name then (name, v) :: rest else f :: setIn name v rest

def set (r : Record) (name : String) (v : Value) : Record := ⟨setIn name v r.fields⟩

def size (r : Record) : Nat := r.fields.length

def isEmpty (r : Record) : Bool := r.fields.isEmpty

def toJson (r : Record) : Json := .object (r.fields.map fun f => (f.1, f.2.toJson))

/-- One line: the record as a compact document. -/
def renderJson (r : Record) : String := r.toJson.render

end Record

end RecordMapping
