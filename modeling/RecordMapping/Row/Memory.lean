import RecordMapping.Row.Cursor

/-!
# RecordMapping.Row.Memory — rows already in memory

The rows of several result sets, each with its own shape, one set after the other.  A cursor can be
told to fail once it has delivered a given number of rows.
-/

namespace RecordMapping

structure ResultSet where
  shape : Shape
  rows : List (List Value)
  deriving DecidableEq, Repr

/-- `pending` are the rows left of the set with `shape`, and `later` the sets after it. -/
structure MemoryCursor where
  shape : Shape
  current : Option (List Value)
  pending : List (List Value)
  later : List ResultSet
  delivered : Nat
  failAfter : Option Nat
  deriving DecidableEq, Repr

namespace MemoryCursor

def ofResultSets (sets : List ResultSet) (failAfter : Option Nat) : MemoryCursor :=
  match sets with
  | [] => ⟨⟨[]⟩, none, [], [], 0, failAfter⟩
  | set :: later => ⟨set.shape, none, set.rows, later, 0, failAfter⟩

def isNull (c : MemoryCursor) (ordinal : Nat) : Bool :=
  match c.current with
  | some cells => (cells[ordinal]?).any Value.isNull
  | none => false

def read (c : MemoryCursor) (ordinal : Nat) : Except CursorError Value :=
  match c.current with
  | some cells =>
    match cells[ordinal]? with
    | some v => .ok v
    | none => .error (.ordinalOutOfRange ordinal cells.length)
  | none => .error .notPositioned

def row (c : MemoryCursor) : Row := ⟨c.shape, c.isNull, c.read⟩

/-- The first row of the pending ones or of the first later set that has any. -/
def nextRow (shape : Shape) :
    List (List Value) → List ResultSet → Shape × Option (List Value) × List (List Value) × List ResultSet
  | cells :: pending, later => (shape, some cells, pending, later)
  | [], [] => (shape, none, [], [])
  | [], set :: later => nextRow set.shape set.rows later

def advance (c : MemoryCursor) : Except CursorError Bool × MemoryCursor :=
  if c.failAfter = some c.delivered then
    (.error (.malformed ("injected failure after " ++ toString c.delivered ++ " rows")),
      { c with current := none })
  else
    match nextRow c.shape c.pending c.later with
    | (shape, some cells, pending, later) =>
      (.ok true, { c with shape, current := some cells, pending, later, delivered := c.delivered + 1 })
    | (shape, none, pending, later) =>
      (.ok false, { c with shape, current := none, pending, later })

def rowCount (pending : List (List Value)) : List ResultSet → Nat
  | [] => pending.length
  | set :: later => pending.length + rowCount set.rows later

theorem rowCount_nextRow {shape shape' : Shape} {cells : List Value}
    {pending pending' : List (List Value)} {later later' : List ResultSet}
    (h : nextRow shape pending later = (shape', some cells, pending', later')) :
    rowCount pending' later' + 1 = rowCount pending later := by
  induction later generalizing shape pending with
  | nil =>
    cases pending with
    | nil => simp [nextRow] at h
    | cons c rest =>
      simp only [nextRow, Prod.mk.injEq] at h
      obtain ⟨-, -, rfl, rfl⟩ := h
      simp [rowCount]
  | cons set sets ih =>
    cases pending with
    | nil =>
      have := @ih set.shape set.rows (by simpa [nextRow] using h)
      simpa [rowCount] using this
    | cons c rest =>
      simp only [nextRow, Prod.mk.injEq] at h
      obtain ⟨-, -, rfl, rfl⟩ := h
      simp only [rowCount, List.length_cons]
      omega

instance : Cursor MemoryCursor where
  row := row
  advance := advance
  remaining c := rowCount c.pending c.later
  remaining_advance c h := by
    unfold advance at h ⊢
    split
    · rename_i hf
      simp [hf] at h
    · rename_i hf
      simp only [hf, if_false] at h
      split
      · rename_i heq
        have := rowCount_nextRow heq
        simp only
        omega
      · rename_i heq
        rw [heq] at h
        simp at h

end MemoryCursor

end RecordMapping
