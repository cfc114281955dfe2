import RecordMapping.Proofs.CsvTables
import Mathlib.Data.List.Induction

/-!
# RecordMapping.Proofs.Positions — when a cursor can be read

A caller moves a cursor and asks it for cells, in any order.  Only a move changes what it answers.  A
cursor in memory forgets its row in every move that delivers none, so it can be read just when the
latest move delivered one.  A CSV cursor forgets where it stands only at the end of its input: a move
that fails empties the record and leaves the cursor as readable as it was before, so that a row that
nobody delivered reads as one of blank cells.
-/

namespace RecordMapping

/-! ### Operations on a source -/

namespace RowSource

/-- What a caller can do with a source. -/
inductive Operation
  | advance
  | read (ordinal : Nat)
  | isNull (ordinal : Nat)
  | find (column : String)
  deriving DecidableEq, Repr

/-- What the caller is told. -/
inductive Answer
  | moved (more : Except CursorError Bool)
  | cell (value : Except CursorError Value)
  | null (verdict : Bool)
  | position (ordinal : Option Nat)

def Answer.move? : Answer → Option (Except CursorError Bool)
  | moved more => some more
  | _ => none

/-- What the latest move told, if there was one. -/
def latestMove (answers : List Answer) : Option (Except CursorError Bool) :=
  (answers.filterMap Answer.move?).getLast?

/-- What the latest move told that did not fail. -/
def latestSettled (answers : List Answer) : Option Bool :=
  ((answers.filterMap Answer.move?).filterMap Except.toOption).getLast?

section Answers

variable {answers : List Answer}

@[simp] theorem latestMove_moved (more : Except CursorError Bool) :
    latestMove (answers ++ [.moved more]) = some more := by
  simp [latestMove, Answer.move?]

@[simp] theorem latestSettled_ok (more : Bool) :
    latestSettled (answers ++ [.moved (.ok more)]) = some more := by
  simp [latestSettled, Answer.move?, Except.toOption]

@[simp] theorem latestSettled_error (e : CursorError) :
    latestSettled (answers ++ [.moved (.error e)]) = latestSettled answers := by
  simp [latestSettled, Answer.move?, Except.toOption]

theorem latestMove_asked {a : Answer} (h : a.move? = none) :
    latestMove (answers ++ [a]) = latestMove answers := by
  simp [latestMove, h]

theorem latestSettled_asked {a : Answer} (h : a.move? = none) :
    latestSettled (answers ++ [a]) = latestSettled answers := by
  simp [latestSettled, h]

/-- Unless the latest move failed, it is the latest one that did not. -/
theorem latestSettled_eq_some_iff (h : ∀ e, latestMove answers ≠ some (.error e)) (more : Bool) :
    latestSettled answers = some more ↔ latestMove answers = some (.ok more) := by
  unfold latestMove at h ⊢
  unfold latestSettled
  generalize answers.filterMap Answer.move? = moves at h ⊢
  rcases List.eq_nil_or_concat moves with rfl | ⟨before, last, rfl⟩
  · simp
  · cases last with
    | error e => simp at h
    | ok more' => simp [Except.toOption]

end Answers

section Operations

variable {γ : Type} [RowSource γ]

def perform (c : γ) : Operation → Answer × γ
  | .advance => (.moved (advance c).1, (advance c).2)
  | .read ordinal => (.cell ((row c).read ordinal), c)
  | .isNull ordinal => (.null ((row c).isNull ordinal), c)
  | .find column => (.position ((row c).ordinal? column), c)

/-- The answers to operations one after the other, and the source after them. -/
def performAll (c : γ) : List Operation → List Answer × γ
  | [] => ([], c)
  | op :: rest =>
    let next := perform c op
    let after := performAll next.2 rest
    (next.1 :: after.1, after.2)

theorem performAll_concat (c : γ) (ops : List Operation) (op : Operation) :
    performAll c (ops ++ [op]) =
      ((performAll c ops).1 ++ [(perform (performAll c ops).2 op).1],
        (perform (performAll c ops).2 op).2) := by
  induction ops generalizing c with
  | nil => rfl
  | cons first rest ih =>
    rw [List.cons_append, performAll, ih]
    rfl

/-- What holds of answers and sources after any operations: it holds before the first one, a move
keeps it, and an answer to a question makes no difference. -/
theorem performAll_induction {motive : List Answer → γ → Prop} {start : γ} (initial : motive [] start)
    (moves : ∀ answers c, motive answers c →
      motive (answers ++ [.moved (advance c).1]) (advance c).2)
    (asks : ∀ answers c (a : Answer), a.move? = none → motive answers c → motive (answers ++ [a]) c)
    (ops : List Operation) :
    motive (performAll start ops).1 (performAll start ops).2 := by
  induction ops using List.reverseRecOn with
  | nil => exact initial
  | append_singleton before op ih =>
    rw [performAll_concat]
    cases op with
    | advance => exact moves _ _ ih
    | read ordinal => exact asks _ _ _ rfl ih
    | isNull ordinal => exact asks _ _ _ rfl ih
    | find column => exact asks _ _ _ rfl ih

end Operations

end RowSource

open RowSource (Answer Operation performAll performAll_induction latestMove latestSettled)

/-- No cell of the row can be read, and none counts as null. -/
def Row.Unreadable (row : Row) : Prop :=
  ∀ ordinal, row.read ordinal = .error .notPositioned ∧ row.isNull ordinal = false

/-! ### Cursors in memory -/

namespace MemoryCursor

theorem unreadable_iff (c : MemoryCursor) : c.row.Unreadable ↔ c.current = none := by
  cases hcurrent : c.current with
  | none =>
    have hrow (i : Nat) : c.read i = .error .notPositioned ∧ c.isNull i = false := by
      rw [read, isNull, hcurrent]
      exact ⟨rfl, rfl⟩
    exact iff_of_true hrow rfl
  | some cells =>
    refine iff_of_false ?_ (Option.some_ne_none cells)
    intro h
    have hread : c.read 0 = .error .notPositioned := (h 0).1
    rw [read, hcurrent] at hread
    dsimp only at hread
    split at hread <;> cases hread

/-- A row is there after a move just when the move tells so. -/
theorem current_advance (c : MemoryCursor) :
    (advance c).2.current = none ↔ (advance c).1 ≠ .ok true := by
  unfold advance
  split
  · simp
  · split <;> simp

theorem current_performAll {start : MemoryCursor} (h : start.current = none) (ops : List Operation) :
    (performAll start ops).2.current = none ↔
      latestMove (performAll start ops).1 ≠ some (.ok true) := by
  refine performAll_induction (motive := fun answers (c : MemoryCursor) =>
    c.current = none ↔ latestMove answers ≠ some (.ok true)) ?_ ?_ ?_ ops
  · simp [h, latestMove]
  · intro answers c _
    rw [RowSource.latestMove_moved, ne_eq, Option.some.injEq]
    exact current_advance c
  · intro answers c a ha ih
    rw [RowSource.latestMove_asked ha]
    exact ih

theorem current_ofResultSets (sets : List ResultSet) (failAfter : Option Nat) :
    (ofResultSets sets failAfter).current = none := by
  cases sets <;> rfl

end MemoryCursor

/-! ### CSV cursors -/

namespace CsvCursor

theorem unreadable_iff (c : CsvCursor) : c.row.Unreadable ↔ c.positioned = false := by
  cases hpositioned : c.positioned with
  | false =>
    have hcell (i : Nat) : c.cell i = .error .notPositioned := by rw [cell, if_pos hpositioned]
    have hrow (i : Nat) : c.read i = .error .notPositioned ∧ c.isNull i = false := by
      rw [read, isNull, hcell]
      exact ⟨rfl, rfl⟩
    exact iff_of_true hrow rfl
  | true =>
    refine iff_of_false ?_ (by decide)
    intro h
    have hread : c.read 0 = .error .notPositioned := (h 0).1
    rw [read] at hread
    rcases Nat.lt_or_ge 0 c.shape.width with hlt | hge
    · rw [cell_of_lt hpositioned hlt] at hread
      cases hread
    · rw [cell_of_le hpositioned hge] at hread
      cases hread

theorem cellText_empty (options : CsvOptions) :
    cellText options "" = if options.emptyAsNull then none else some "" := by
  have htrim : (if options.trim then Text.trim "" else "") = "" := by
    cases options.trim <;> decide
  rw [cellText, htrim]
  cases options.emptyAsNull <;> rfl

/-- On an empty record every column reads as blank. -/
theorem blank_of_positioned {c : CsvCursor} (hpositioned : c.positioned = true)
    (hrecord : c.record = []) {i : Nat} (hi : i < c.shape.width) :
    c.read i = .ok (if c.options.emptyAsNull then .null else .text "") ∧
      c.isNull i = c.options.emptyAsNull := by
  have hcell : c.cell i = .ok (if c.options.emptyAsNull then none else some "") := by
    rw [cell_of_lt hpositioned hi, hrecord, ← cellText_empty]
    rfl
  rw [read, isNull, hcell]
  cases c.options.emptyAsNull <;> exact ⟨rfl, rfl⟩

/-- How a cursor that began as `start` stands after these answers. -/
structure Follows (start : CsvCursor) (answers : List Answer) (c : CsvCursor) : Prop where
  options : c.options = start.options
  shape : c.shape = start.shape
  positioned : c.positioned = true ↔ latestSettled answers = some true
  emptied (e : CursorError) : latestMove answers = some (.error e) → c.record = []

variable {start c : CsvCursor} {answers : List Answer}

/-- A move that fails leaves `positioned` as it is: that is the one way in which the latest move and
the latest settled one part. -/
theorem Follows.advance (h : Follows start answers c) :
    Follows start (answers ++ [.moved (advance c).1]) (advance c).2 := by
  unfold CsvCursor.advance
  split
  · exact ⟨h.options, h.shape, by simp, by simp⟩
  · refine ⟨h.options, h.shape, ?_, fun _ _ => rfl⟩
    rw [RowSource.latestSettled_error]
    exact h.positioned
  · exact ⟨h.options, h.shape, by simp, by simp⟩

theorem Follows.asked (h : Follows start answers c) {a : Answer} (ha : a.move? = none) :
    Follows start (answers ++ [a]) c where
  options := h.options
  shape := h.shape
  positioned := by rw [RowSource.latestSettled_asked ha, h.positioned]
  emptied e he := h.emptied e (by rw [← he, RowSource.latestMove_asked ha])

theorem follows_performAll (h : start.positioned = false) (ops : List Operation) :
    Follows start (performAll start ops).1 (performAll start ops).2 := by
  refine performAll_induction (motive := Follows start) ?_ ?_ ?_ ops
  · exact ⟨rfl, rfl, by simp [h, latestSettled], nofun⟩
  · intro answers c ih
    exact ih.advance
  · intro answers c a ha ih
    exact ih.asked ha

theorem Follows.unreadable_iff (h : Follows start answers c) :
    c.row.Unreadable ↔ latestSettled answers ≠ some true := by
  rw [CsvCursor.unreadable_iff, ne_eq, ← h.positioned, Bool.not_eq_true]

/-- A cursor that opens stands on no row. -/
theorem positioned_of_openInput {options : CsvOptions} {input : Csv.Input}
    (h : openInput options input = .ok c) : c.positioned = false ∧ c.options = options := by
  obtain ⟨header, records, ending, rfl, -⟩ := openInput_ok h
  exact ⟨rfl, rfl⟩

end CsvCursor

/-! ### What can be read after the latest move -/

/-- A cursor in memory can be read just when the latest move delivered a row, and so can a CSV cursor
whose latest move did not fail.  After a move that failed, a CSV cursor can be read just when the
latest move that did not fail had delivered a row, and then every column of it reads as blank. -/
theorem readable_by_latest_move (sets : List ResultSet) (failAfter : Option Nat)
    (options : CsvOptions) (input : Csv.Input) (ops : List Operation) :
    (∀ start, CsvCursor.openInput options input = .ok start →
      let run := performAll start ops
      let row := RowSource.row run.2
      ((∀ e, latestMove run.1 ≠ some (.error e)) →
        (row.Unreadable ↔ latestMove run.1 ≠ some (.ok true))) ∧
      ∀ e, latestMove run.1 = some (.error e) →
        (row.Unreadable ↔ latestSettled run.1 ≠ some true) ∧
        (latestSettled run.1 = some true → ∀ i < start.shape.width,
          row.read i = .ok (if options.emptyAsNull then .null else .text "") ∧
          row.isNull i = options.emptyAsNull)) ∧
    let run := performAll (MemoryCursor.ofResultSets sets failAfter) ops
    let row := RowSource.row run.2
    row.Unreadable ↔ latestMove run.1 ≠ some (.ok true) := by
  constructor
  · intro start hopen run row
    obtain ⟨hunpositioned, hoptions⟩ := CsvCursor.positioned_of_openInput hopen
    have hfollows : CsvCursor.Follows start run.1 run.2 :=
      CsvCursor.follows_performAll hunpositioned ops
    constructor
    · intro hsettled
      rw [ne_eq, ← RowSource.latestSettled_eq_some_iff hsettled true]
      exact hfollows.unreadable_iff
    · intro e he
      refine ⟨hfollows.unreadable_iff, ?_⟩
      intro hrow i hi
      have hblank := CsvCursor.blank_of_positioned (hfollows.positioned.mpr hrow)
        (hfollows.emptied e he) (hfollows.shape ▸ hi)
      rw [hfollows.options, hoptions] at hblank
      exact hblank
  · intro run row
    have hcurrent := MemoryCursor.current_performAll
      (MemoryCursor.current_ofResultSets sets failAfter) ops
    exact (MemoryCursor.unreadable_iff run.2).trans hcurrent

/-- After a row was delivered and the reader broke off, a null can be read. -/
theorem null_read_after_failure :
    let input : Csv.Input := ⟨Text.encode "A\n1\n", some "injected read failure"⟩
    ∃ start, CsvCursor.openInput {} input = .ok start ∧
      let run := performAll start [.advance, .advance]
      let row := RowSource.row run.2
      latestMove run.1 = some (.error (.io "injected read failure")) ∧ ¬row.Unreadable ∧
        row.read 0 = .ok .null ∧ row.isNull 0 = true := by
  intro input
  let start := CsvCursor.ofDeliveries {} ["A"] [.ok ["1"], .error (.io "injected read failure")]
  let after : CsvCursor := ⟨⟨["A"]⟩, {}, [], [], true, 1⟩
  have hopen : CsvCursor.openInput {} input = .ok start := rfl
  have hrun : performAll start [.advance, .advance] =
      ([.moved (.ok true), .moved (.error (.io "injected read failure"))], after) := rfl
  refine ⟨start, hopen, ?_⟩
  rw [hrun]
  have hread : (RowSource.row after).read 0 = .ok .null := rfl
  have hreadable : ¬(RowSource.row after).Unreadable := by
    intro h
    cases hread.symm.trans (h 0).1
  exact ⟨rfl, hreadable, hread, rfl⟩

end RecordMapping
