import RecordMapping.Proofs.WalkedRows

/-!
# RecordMapping.Proofs.IndexedRows — rows in memory by position

A cursor in memory may also keep all its sets and count: the number of the set, and of the row in it
(`IndexCursor`).  Then a move counts on, past the sets that have no row left (`seek`).  What is left
behind that position is what `MemoryCursor` keeps, so a move of one is a move of the other
(`Follows.advance`), and the two give the same answers and show the same rows after any moves.

After a failure the counting cursor has lost its place.  It fails again and again, so what it would
go on with is never asked.
-/

namespace RecordMapping

/-- `set` and `row` are the position in the sets. -/
structure IndexCursor where
  sets : List ResultSet
  set : Nat
  row : Option Nat
  delivered : Nat
  failAfter : Option Nat
  deriving DecidableEq, Repr

namespace IndexCursor

def ofResultSets (sets : List ResultSet) (failAfter : Option Nat) : IndexCursor :=
  ⟨sets, 0, none, 0, failAfter⟩

/-! ### Places -/

/-- The shape at a set; behind the last set it stays that of the last one. -/
def shapeAt (sets : List ResultSet) (set : Nat) : Shape :=
  match sets[min set (sets.length - 1)]? with
  | some s => s.shape
  | none => ⟨[]⟩

def cellsAt (sets : List ResultSet) (set : Nat) (row : Option Nat) : Option (List Value) :=
  row.bind fun i => (sets[set]?).bind fun s => s.rows[i]?

/-- The place after a row, or the first one. -/
def nextOf (row : Option Nat) : Nat := row.elim 0 (· + 1)

/-- The first row at or behind `next`, in this set or a later one. -/
def seek (sets : List ResultSet) (set next : Nat) : Nat × Option Nat :=
  match h : sets[set]? with
  | some s => if next < s.rows.length then (set, some next) else seek sets (set + 1) 0
  | none => (set, none)
termination_by sets.length - set
decreasing_by
  have := (List.getElem?_eq_some_iff.mp h).1
  omega

/-! ### Reading and moving -/

def shape (c : IndexCursor) : Shape := shapeAt c.sets c.set

def current? (c : IndexCursor) : Option (List Value) := cellsAt c.sets c.set c.row

def isNull (c : IndexCursor) (ordinal : Nat) : Bool :=
  match c.current? with
  | some cells => (cells[ordinal]?).any Value.isNull
  | none => false

def read (c : IndexCursor) (ordinal : Nat) : Except CursorError Value :=
  match c.current? with
  | some cells =>
    match cells[ordinal]? with
    | some v => .ok v
    | none => .error (.ordinalOutOfRange ordinal cells.length)
  | none => .error .notPositioned

def advance (c : IndexCursor) : Except CursorError Bool × IndexCursor :=
  if c.failAfter = some c.delivered then
    (.error (.malformed ("injected failure after " ++ toString c.delivered ++ " rows")),
      { c with row := none })
  else
    match seek c.sets c.set (nextOf c.row) with
    | (set, some i) => (.ok true, { c with set, row := some i, delivered := c.delivered + 1 })
    | (set, none) => (.ok false, { c with set, row := none })

instance : RowSource IndexCursor where
  row c := ⟨c.shape, c.isNull, c.read⟩
  advance := advance

/-! ### What is left behind a place -/

/-- The rows of a set from a place on. -/
def rowsFrom (sets : List ResultSet) (set next : Nat) : List (List Value) :=
  match sets[set]? with
  | some s => s.rows.drop next
  | none => []

variable {sets : List ResultSet} {set next : Nat}

/-- Behind the last row of a set comes the first of the next one. -/
theorem nextRow_past (hset : set < sets.length) :
    MemoryCursor.nextRow (shapeAt sets set) [] (sets.drop (set + 1)) =
      MemoryCursor.nextRow (shapeAt sets (set + 1)) (rowsFrom sets (set + 1) 0)
        (sets.drop (set + 2)) := by
  by_cases hnext : set + 1 < sets.length
  · have hsome : sets[set + 1]? = some sets[set + 1] := List.getElem?_eq_getElem hnext
    have hlast : min (set + 1) (sets.length - 1) = set + 1 := by omega
    rw [List.drop_eq_getElem_cons hnext, MemoryCursor.nextRow, shapeAt, hlast, rowsFrom, hsome]
    rfl
  · have hnone : sets[set + 1]? = none := List.getElem?_eq_none (by omega)
    have hlast : min (set + 1) (sets.length - 1) = min set (sets.length - 1) := by omega
    rw [List.drop_eq_nil_of_le (by omega), List.drop_eq_nil_of_le (by omega), rowsFrom, hnone,
      shapeAt, shapeAt, hlast]

/-- What a cursor that keeps the rows still to come holds at a place. -/
def held (sets : List ResultSet) (set : Nat) (row : Option Nat) :
    Shape × Option (List Value) × List (List Value) × List ResultSet :=
  (shapeAt sets set, cellsAt sets set row, rowsFrom sets set (nextOf row), sets.drop (set + 1))

/-- Counting on to the next row takes the first of those that are left. -/
theorem nextRow_seek (sets : List ResultSet) (set next : Nat) :
    MemoryCursor.nextRow (shapeAt sets set) (rowsFrom sets set next) (sets.drop (set + 1)) =
      held sets (seek sets set next).1 (seek sets set next).2 := by
  fun_induction seek sets set next with
  | case1 set next s hs hnext =>
    have hrows : rowsFrom sets set next = s.rows[next] :: rowsFrom sets set (next + 1) := by
      rw [rowsFrom, rowsFrom, hs]
      exact List.drop_eq_getElem_cons hnext
    have hcells : cellsAt sets set (some next) = some s.rows[next] := by
      rw [cellsAt, Option.bind_some, hs, Option.bind_some, List.getElem?_eq_getElem hnext]
    rw [hrows, MemoryCursor.nextRow, held, hcells]
    rfl
  | case2 set next s hs hnext ih =>
    have hrows : rowsFrom sets set next = [] := by
      rw [rowsFrom, hs]
      exact List.drop_eq_nil_of_le (by omega)
    rw [hrows, nextRow_past (List.getElem?_eq_some_iff.mp hs).1]
    exact ih
  | case3 set next hs =>
    have hlength := List.getElem?_eq_none_iff.mp hs
    have hrows (k : Nat) : rowsFrom sets set k = [] := by rw [rowsFrom, hs]
    rw [held, hrows, hrows, List.drop_eq_nil_of_le (by omega)]
    rfl

/-- A row that is found is there. -/
theorem cellsAt_of_seek {found i : Nat} (h : seek sets set next = (found, some i)) :
    ∃ cells, cellsAt sets found (some i) = some cells := by
  fun_induction seek sets set next with
  | case1 set next s hs hnext =>
    obtain ⟨rfl, rfl⟩ : set = found ∧ next = i := by simpa using h
    refine ⟨s.rows[next], ?_⟩
    rw [cellsAt, Option.bind_some, hs, Option.bind_some, List.getElem?_eq_getElem hnext]
  | case2 set next s hs hnext ih => exact ih h
  | case3 set next hs => simp at h

/-! ### The two cursors -/

/-- The cursors stand at the same row.  As long as the next move does not fail they also have the
same rows left. -/
structure Follows (c : IndexCursor) (m : MemoryCursor) : Prop where
  shape : m.shape = c.shape
  current : m.current = c.current?
  delivered : m.delivered = c.delivered
  failAfter : m.failAfter = c.failAfter
  left : c.failAfter ≠ some c.delivered →
    m.pending = rowsFrom c.sets c.set (nextOf c.row) ∧ m.later = c.sets.drop (c.set + 1)

theorem follows_ofResultSets (sets : List ResultSet) (failAfter : Option Nat) :
    Follows (ofResultSets sets failAfter) (.ofResultSets sets failAfter) := by
  cases sets with
  | nil => exact ⟨rfl, rfl, rfl, rfl, fun _ => ⟨rfl, rfl⟩⟩
  | cons first later =>
    have hshape : shapeAt (first :: later) 0 = first.shape := by
      rw [shapeAt, Nat.zero_min]
      rfl
    exact ⟨hshape.symm, rfl, rfl, rfl, fun _ => ⟨rfl, rfl⟩⟩

variable {c : IndexCursor} {m : MemoryCursor}

theorem Follows.row (h : c.Follows m) : RowSource.row c = RowSource.row m := by
  have hread : m.read = c.read := by
    funext i
    rw [MemoryCursor.read, h.current]
    rfl
  have hnull : m.isNull = c.isNull := by
    funext i
    rw [MemoryCursor.isNull, h.current]
    rfl
  show (⟨c.shape, c.isNull, c.read⟩ : Row) = ⟨m.shape, m.isNull, m.read⟩
  rw [h.shape, hread, hnull]

theorem Follows.advance (h : c.Follows m) :
    c.advance.1 = m.advance.1 ∧ Follows c.advance.2 m.advance.2 := by
  unfold IndexCursor.advance MemoryCursor.advance
  rw [h.failAfter, h.delivered]
  by_cases hfails : c.failAfter = some c.delivered
  · rw [if_pos hfails, if_pos hfails]
    exact ⟨rfl, h.shape, rfl, rfl, rfl, fun hgoes => absurd hfails hgoes⟩
  · obtain ⟨hpending, hlater⟩ := h.left hfails
    have hnext := nextRow_seek c.sets c.set (nextOf c.row)
    rw [if_neg hfails, if_neg hfails, h.shape, hpending, hlater, IndexCursor.shape, hnext]
    rcases hseek : seek c.sets c.set (nextOf c.row) with ⟨found, row⟩
    cases row with
    | none => exact ⟨rfl, rfl, rfl, rfl, rfl, fun _ => ⟨rfl, rfl⟩⟩
    | some i =>
      obtain ⟨cells, hcells⟩ := cellsAt_of_seek hseek
      rw [held, hcells]
      exact ⟨rfl, rfl, hcells.symm, rfl, rfl, fun _ => ⟨rfl, rfl⟩⟩

open RowSource (moved)

theorem follows_moved (h : c.Follows m) (k : Nat) : (moved c k).Follows (moved m k) := by
  induction k with
  | zero => exact h
  | succ k ih => exact ih.advance.2

/-- Counting the rows and keeping those still to come is the same to whoever reads and moves: each
move gives the same answer and shows the same row. -/
theorem same_rows_by_position (sets : List ResultSet) (failAfter : Option Nat) (k : Nat) :
    let counted := moved (ofResultSets sets failAfter) k
    let kept := moved (MemoryCursor.ofResultSets sets failAfter) k
    RowSource.row counted = RowSource.row kept ∧
      (RowSource.advance counted).1 = (RowSource.advance kept).1 := by
  have h := follows_moved (follows_ofResultSets sets failAfter) k
  exact ⟨h.row, h.advance.1⟩

end IndexCursor

/-- Sources that show the same rows walk the same rows. -/
theorem RowSource.Walks.of_same {γ δ : Type} [RowSource γ] [RowSource δ] {c : γ} {d : δ}
    {rows : List (Shape × List Value)} {ending : Except CursorError Bool} (h : Walks c rows ending)
    (hsame : ∀ k, row (moved c k) = row (moved d k) ∧
      (advance (moved c k)).1 = (advance (moved d k)).1) : Walks d rows ending := by
  constructor
  · intro k shape cells hk
    rw [← (hsame k).2, ← (hsame (k + 1)).1]
    exact h.delivers k shape cells hk
  · intro k hk
    rw [← (hsame k).2, ← (hsame (k + 1)).1]
    exact h.ends k hk

/-- So the rows that a walk takes do not depend on how the position is kept. -/
theorem walks_by_position_iff (sets : List ResultSet) (failAfter : Option Nat)
    (rows : List (Shape × List Value)) (ending : Except CursorError Bool) :
    RowSource.Walks (IndexCursor.ofResultSets sets failAfter) rows ending ↔
      RowSource.Walks (MemoryCursor.ofResultSets sets failAfter) rows ending := by
  have hsame (k : Nat) := IndexCursor.same_rows_by_position sets failAfter k
  exact ⟨fun h => h.of_same hsame,
    fun h => h.of_same fun k => ⟨(hsame k).1.symm, (hsame k).2.symm⟩⟩

end RecordMapping
