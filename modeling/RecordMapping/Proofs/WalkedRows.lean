import RecordMapping.Proofs.Positions

/-!
# RecordMapping.Proofs.WalkedRows — a cursor in memory walks each of its rows once

`RowSource.Walks c rows ending` says what the moves of a source show: they deliver `rows`, one after
the other and each with its own shape and cells, and every later move tells `ending` and leaves
nothing to read.

The rows that a cursor in memory has still to deliver are the pending ones and those of the later
sets (`MemoryCursor.left`).  A move takes the first of them, past any sets that are empty
(`At.advance_cons`).  A cursor without rows stays without (`At.advance_nil`), and one that fails
counts no row more and so fails again (`At.advance_failing`).
-/

namespace RecordMapping

open RowSource (moved)

/-! ### Walks -/

/-- The cells of a row, read one by one; behind the last of them there is none. -/
structure Row.Shows (row : Row) (shape : Shape) (cells : List Value) : Prop where
  shape : row.shape = shape
  cell : ∀ i v, cells[i]? = some v → row.read i = .ok v ∧ row.isNull i = v.isNull
  beyond : ∀ i, cells.length ≤ i →
    row.read i = .error (.ordinalOutOfRange i cells.length) ∧ row.isNull i = false

namespace RowSource

variable {γ : Type} [RowSource γ] {c : γ} {rows : List (Shape × List Value)}
  {ending : Except CursorError Bool}

/-- Move by move the source delivers the rows, and then it stays at the ending. -/
structure Walks (c : γ) (rows : List (Shape × List Value)) (ending : Except CursorError Bool) :
    Prop where
  delivers : ∀ k shape cells, rows[k]? = some (shape, cells) →
    (advance (moved c k)).1 = .ok true ∧ (row (moved c (k + 1))).Shows shape cells
  ends : ∀ k, rows.length ≤ k →
    (advance (moved c k)).1 = ending ∧ (row (moved c (k + 1))).Unreadable

theorem moved_advance (c : γ) (k : Nat) : moved (advance c).2 k = moved c (k + 1) := by
  rw [Nat.add_comm]
  exact moved_moved c 1 k

theorem Walks.cons {shape : Shape} {cells : List Value} (hmoves : (advance c).1 = .ok true)
    (hshows : (row (advance c).2).Shows shape cells) (h : Walks (advance c).2 rows ending) :
    Walks c ((shape, cells) :: rows) ending := by
  constructor
  · intro k shape' cells' hk
    cases k with
    | zero =>
      simp only [List.getElem?_cons_zero, Option.some.injEq, Prod.mk.injEq] at hk
      obtain ⟨rfl, rfl⟩ := hk
      exact ⟨hmoves, hshows⟩
    | succ k =>
      rw [List.getElem?_cons_succ] at hk
      rw [← moved_advance, ← moved_advance]
      exact h.delivers k shape' cells' hk
  · intro k hk
    rw [List.length_cons] at hk
    obtain ⟨k, rfl⟩ : ∃ m, k = m + 1 := ⟨k - 1, by omega⟩
    rw [← moved_advance, ← moved_advance]
    exact h.ends k (by omega)

/-- A walk is over in a state that every move keeps, where moves tell the ending and leave no
row. -/
theorem walks_nil (Over : γ → Prop) (hstays : ∀ d, Over d →
      (advance d).1 = ending ∧ (row (advance d).2).Unreadable ∧ Over (advance d).2)
    (hc : Over c) : Walks c [] ending := by
  have hover (k : Nat) : Over (moved c k) := by
    induction k with
    | zero => exact hc
    | succ k ih => exact (hstays _ ih).2.2
  refine ⟨fun k shape cells hk => by simp at hk, fun k _ => ?_⟩
  obtain ⟨hanswer, hrow, -⟩ := hstays _ (hover k)
  exact ⟨hanswer, hrow⟩

end RowSource

open RowSource (Walks)

/-! ### The rows still to come -/

/-- The rows of a set, each with the shape of the set. -/
def ResultSet.located (s : ResultSet) : List (Shape × List Value) := s.rows.map (Prod.mk s.shape)

namespace MemoryCursor

def rowsLeft (shape : Shape) (pending : List (List Value)) (later : List ResultSet) :
    List (Shape × List Value) :=
  pending.map (Prod.mk shape) ++ later.flatMap ResultSet.located

def left (c : MemoryCursor) : List (Shape × List Value) := rowsLeft c.shape c.pending c.later

/-- The failure of a cursor that was told to fail after so many rows. -/
def injected (rows : Nat) : CursorError :=
  .malformed ("injected failure after " ++ toString rows ++ " rows")

theorem rowsLeft_nil_cons (shape : Shape) (set : ResultSet) (later : List ResultSet) :
    rowsLeft shape [] (set :: later) = rowsLeft set.shape set.rows later := by
  simp [rowsLeft, ResultSet.located]

theorem left_ofResultSets (sets : List ResultSet) (failAfter : Option Nat) :
    (ofResultSets sets failAfter).left = sets.flatMap ResultSet.located := by
  cases sets <;> rfl

/-- The next row is the first of those still to come, and the others stay. -/
theorem nextRow_of_cons {shape s : Shape} {pending : List (List Value)} {later : List ResultSet}
    {cells : List Value} {rest : List (Shape × List Value)}
    (h : rowsLeft shape pending later = (s, cells) :: rest) :
    ∃ pending' later', nextRow shape pending later = (s, some cells, pending', later') ∧
      rowsLeft s pending' later' = rest := by
  fun_induction nextRow shape pending later with
  | case1 shape first pending later =>
    simp only [rowsLeft, List.map_cons, List.cons_append, List.cons.injEq, Prod.mk.injEq] at h
    obtain ⟨⟨rfl, rfl⟩, hrest⟩ := h
    exact ⟨pending, later, rfl, hrest⟩
  | case2 shape => simp [rowsLeft] at h
  | case3 shape set later ih => exact ih (by rwa [rowsLeft_nil_cons] at h)

theorem nextRow_of_nil {shape : Shape} {pending : List (List Value)} {later : List ResultSet}
    (h : rowsLeft shape pending later = []) :
    ∃ s, nextRow shape pending later = (s, none, [], []) := by
  fun_induction nextRow shape pending later with
  | case1 shape first pending later => simp [rowsLeft] at h
  | case2 shape => exact ⟨shape, rfl⟩
  | case3 shape set later ih => exact ih (by rwa [rowsLeft_nil_cons] at h)

/-! ### One move -/

section Moves

variable {c : MemoryCursor} {rest : List (Shape × List Value)}

theorem shows_row {shape : Shape} {cells : List Value} (hshape : c.shape = shape)
    (hcells : c.current = some cells) : c.row.Shows shape cells := by
  refine ⟨hshape, fun i v hv => ?_, fun i hi => ?_⟩
  · have hread : c.read i = .ok v := by simp [read, hcells, hv]
    have hnull : c.isNull i = v.isNull := by simp [isNull, hcells, hv]
    exact ⟨hread, hnull⟩
  · have hnone : cells[i]? = none := List.getElem?_eq_none hi
    have hread : c.read i = .error (.ordinalOutOfRange i cells.length) := by
      simp [read, hcells, hnone]
    have hnull : c.isNull i = false := by simp [isNull, hcells, hnone]
    exact ⟨hread, hnull⟩

/-- How far a cursor has come, and where it is to fail. -/
structure At (c : MemoryCursor) (delivered : Nat) (failAfter : Option Nat)
    (rows : List (Shape × List Value)) : Prop where
  delivered : c.delivered = delivered
  failAfter : c.failAfter = failAfter
  left : c.left = rows

variable {n : Nat} {failAfter : Option Nat}

theorem At.advance_cons {shape : Shape} {cells : List Value}
    (h : c.At n failAfter ((shape, cells) :: rest)) (hgoes : failAfter ≠ some n) :
    (advance c).1 = .ok true ∧ (advance c).2.row.Shows shape cells ∧
      (advance c).2.At (n + 1) failAfter rest := by
  obtain ⟨rfl, rfl, hleft⟩ := h
  obtain ⟨pending', later', hnext, hrest⟩ := nextRow_of_cons hleft
  unfold advance
  rw [if_neg hgoes, hnext]
  exact ⟨rfl, shows_row rfl rfl, rfl, rfl, hrest⟩

theorem At.advance_nil (h : c.At n failAfter []) (hgoes : failAfter ≠ some n) :
    (advance c).1 = .ok false ∧ (advance c).2.row.Unreadable ∧ (advance c).2.At n failAfter [] := by
  obtain ⟨rfl, rfl, hleft⟩ := h
  obtain ⟨shape, hnext⟩ := nextRow_of_nil hleft
  unfold advance
  rw [if_neg hgoes, hnext]
  exact ⟨rfl, (unreadable_iff _).mpr rfl, rfl, rfl, rfl⟩

theorem At.advance_failing (h : c.At n (some n) rest) :
    (advance c).1 = .error (injected n) ∧ (advance c).2.row.Unreadable ∧
      (advance c).2.At n (some n) rest := by
  obtain ⟨rfl, hfail, hleft⟩ := h
  unfold advance
  rw [if_pos hfail]
  exact ⟨rfl, (unreadable_iff _).mpr rfl, rfl, hfail, hleft⟩

/-! ### The whole walk -/

theorem ne_of_add_lt {k : Nat} (h : ∀ m ∈ failAfter, n + k < m) : failAfter ≠ some n := by
  rintro rfl
  have := h n rfl
  omega

/-- Where no failure comes up in time, all rows are delivered. -/
theorem At.walks {rows : List (Shape × List Value)} (h : c.At n failAfter rows)
    (hgoes : ∀ m ∈ failAfter, n + rows.length < m) : Walks c rows (.ok false) := by
  induction rows generalizing c n with
  | nil =>
    exact RowSource.walks_nil (fun d : MemoryCursor => d.At n failAfter [])
      (fun d hd => hd.advance_nil (ne_of_add_lt hgoes)) h
  | cons first rest ih =>
    obtain ⟨hmoves, hshows, hnext⟩ := h.advance_cons (ne_of_add_lt hgoes)
    refine .cons hmoves hshows (ih hnext fun m hm => ?_)
    have := hgoes m hm
    simp only [List.length_cons] at this
    omega

/-- A failure cuts the walk short where as many rows have been delivered. -/
theorem At.walks_failing {k : Nat} {rows : List (Shape × List Value)}
    (h : c.At n (some (n + k)) rows) (hk : k ≤ rows.length) :
    Walks c (rows.take k) (.error (injected (n + k))) := by
  induction k generalizing c n rows with
  | zero =>
    rw [List.take_zero]
    exact RowSource.walks_nil (fun d : MemoryCursor => d.At n (some n) rows)
      (fun d hd => hd.advance_failing) h
  | succ k ih =>
    cases rows with
    | nil => simp at hk
    | cons first rest =>
      obtain ⟨hmoves, hshows, hnext⟩ := h.advance_cons (by simp)
      have hsum : n + (k + 1) = n + 1 + k := by omega
      rw [hsum] at hnext ⊢
      exact .cons hmoves hshows (ih hnext (by simpa using hk))

end Moves

end MemoryCursor

open MemoryCursor (injected)

/-- A cursor in memory delivers the rows of its sets in their order, each with the shape of its own
set, and from then on no row.  If it is to fail after no more rows than there are, it delivers that
many and fails from then on. -/
theorem walks_rows_once (sets : List ResultSet) (failAfter : Option Nat) :
    let rows := sets.flatMap ResultSet.located
    let start := MemoryCursor.ofResultSets sets failAfter
    ((∀ n ∈ failAfter, rows.length < n) → Walks start rows (.ok false)) ∧
      ∀ n ∈ failAfter, n ≤ rows.length → Walks start (rows.take n) (.error (injected n)) := by
  intro rows start
  have hstart : start.At 0 failAfter rows := by
    refine ⟨?_, ?_, MemoryCursor.left_ofResultSets sets failAfter⟩ <;> cases sets <;> rfl
  constructor
  · intro hgoes
    exact hstart.walks (by simpa using hgoes)
  · rintro n rfl hn
    have h := MemoryCursor.At.walks_failing (n := 0) (k := n) (by simpa using hstart) hn
    rwa [Nat.zero_add] at h

/-- Two sets with an empty one between them, and rows wider and narrower than their shapes.  The
failure after two rows falls on the border of the sets. -/
theorem walks_rows_once_border :
    let sets : List ResultSet := [⟨⟨["A"]⟩, [[.int 1], [.int 2, .null]]⟩, ⟨⟨["B"]⟩, []⟩,
      ⟨⟨["B", "C"]⟩, [[.int 3]]⟩]
    let cut := MemoryCursor.ofResultSets sets (some 2)
    let whole := MemoryCursor.ofResultSets sets (some 4)
    (RowSource.row (moved cut 2)).Shows ⟨["A"]⟩ [.int 2, .null] ∧
      (∀ k, 2 ≤ k → (RowSource.advance (moved cut k)).1 =
        .error (.malformed "injected failure after 2 rows")) ∧
      (RowSource.row (moved whole 3)).Shows ⟨["B", "C"]⟩ [.int 3] ∧
      ∀ k, 3 ≤ k → (RowSource.advance (moved whole k)).1 = .ok false := by
  intro sets cut whole
  have hcut := (walks_rows_once sets (some 2)).2 2 rfl (by decide)
  have hwhole := (walks_rows_once sets (some 4)).1 (by decide)
  exact ⟨(hcut.delivers 1 _ _ rfl).2, fun k hk => (hcut.ends k hk).1, (hwhole.delivers 2 _ _ rfl).2,
    fun k hk => (hwhole.ends k hk).1⟩

end RecordMapping
