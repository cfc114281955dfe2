import RecordMapping.Proofs.ResumedStreams
import RecordMapping.Row.Csv.Cursor

/-!
# RecordMapping.Proofs.CsvTables — a CSV input is the table of its records

What a CSV reader delivers is a header, records of any lengths, and an ending.  The table of it has a
row for each record that is not blank, as wide as the header (`Csv.tableRows`).  A cursor over the
input and a cursor over the table in memory stand on the same rows move by move, for everything that
can be asked of a row, so a stream takes the same items from either.  They part only at the ending,
where a failed reader fails the one stream and the other one is done.
-/

namespace RecordMapping

open RowSource (moved)

/-! ### Streams over two sources -/

/-- Answers to a move are the same if they tell the same, and stand on the same row if there is
one. -/
theorem RowSource.answerAt_eq_iff {γ δ : Type} [RowSource γ] [RowSource δ] {c : γ} {d : δ} {k : Nat} :
    RowSource.answerAt c k = RowSource.answerAt d k ↔
      (RowSource.advance (moved c k)).1 = (RowSource.advance (moved d k)).1 ∧
        ((RowSource.advance (moved c k)).1 = .ok true →
          RowSource.row (moved c (k + 1)) = RowSource.row (moved d (k + 1))) := by
  unfold RowSource.answerAt
  generalize (RowSource.advance (moved c k)).1 = a
  generalize (RowSource.advance (moved d k)).1 = b
  rcases a with e | _ | _ <;> rcases b with e' | _ | _ <;> simp [Move.ofAnswer]

namespace Stream

section Answers

variable {γ δ τ σ : Type} [RowSource γ] [RowSource δ] [Target σ] {p : Projector τ σ} {c : γ} {d : δ}
  {flags : Nat → Bool} {n : Nat}

theorem Maps.of_answerAt_eq {k : Nat} {r : σ} (h : Maps p c flags k r)
    (heq : RowSource.answerAt c k = RowSource.answerAt d k) : Maps p d flags k r := by
  obtain ⟨hanswer, hrow⟩ := RowSource.answerAt_eq_iff.mp heq
  exact ⟨h.going, hanswer.symm.trans h.moves, by rw [← hrow h.moves, h.gives]⟩

theorem Stops.of_answerAt_eq {k m : Nat} {i : Item σ} (h : Stops p c flags k i m)
    (heq : RowSource.answerAt c k = RowSource.answerAt d k) : Stops p d flags k i m := by
  obtain ⟨hanswer, hrow⟩ := RowSource.answerAt_eq_iff.mp heq
  cases h with
  | cancelled isSet => exact .cancelled isSet
  | exhausted going ends => exact .exhausted going (hanswer.symm.trans ends)
  | cursor going fails => exact .cursor going (hanswer.symm.trans fails)
  | binding going moves fails =>
    refine .binding going (hanswer.symm.trans moves) ?_
    rw [← hrow moves, fails]

theorem maps_of_answerAt_eq {k : Nat} (h : ∀ j < k, RowSource.answerAt c j = RowSource.answerAt d j)
    (hmaps : ∀ j < k, ∃ r, Maps p c flags j r) : ∀ j < k, ∃ r, Maps p d flags j r :=
  fun j hj => (hmaps j hj).imp fun _ hr => hr.of_answerAt_eq (h j hj)

/-- A call that meets the same answer as another, and the calls before it as well, gives the same. -/
theorem item_of_answerAt_eq (h : ∀ k ≤ n, RowSource.answerAt c k = RowSource.answerAt d k) :
    (start c p).item flags n = (start d p).item flags n := by
  rcases maps_until p c flags n with hmaps | ⟨k, hk, hmaps, i, m, hstops⟩
  · have hmaps' := maps_of_answerAt_eq (fun j hj => h j (Nat.le_of_lt hj)) hmaps
    have hn := h n (Nat.le_refl n)
    rcases maps_or_stops p c flags n with ⟨r, hr⟩ | ⟨i, m, hstops⟩
    · rw [item_of_maps hmaps hr, item_of_maps hmaps' (hr.of_answerAt_eq hn)]
    · rw [(item_of_stops hmaps hstops).1, (item_of_stops hmaps' (hstops.of_answerAt_eq hn)).1]
  · have hmaps' := maps_of_answerAt_eq (fun j hj => h j (by omega)) hmaps
    have hstops' := hstops.of_answerAt_eq (h k (Nat.le_of_lt hk))
    rw [(item_of_stops hmaps hstops).2 n hk, (item_of_stops hmaps' hstops').2 n hk]

variable (p d flags n) in
/-- The call of number `n` asks for a row: those before it gave records, and it is not cancelled. -/
def Reaches : Prop :=
  flags n = false ∧ ∀ j < n, ∃ r, (start d p).item flags j = .record r

variable (p flags) in
/-- Where one source fails at the end of the other, the streams part if they get so far, and only in
that call. -/
theorem items_part {e : CursorError}
    (h : ∀ k < n, RowSource.answerAt c k = RowSource.answerAt d k)
    (hfails : (RowSource.advance (moved c n)).1 = .error e)
    (hends : (RowSource.advance (moved d n)).1 = .ok false) :
    (∀ j ≠ n, (start c p).item flags j = (start d p).item flags j) ∧
      (Reaches p d flags n →
        (start c p).item flags n = .failed (.cursor (some n) e) ∧
        (start d p).item flags n = .done) ∧
      (¬Reaches p d flags n → (start c p).item flags n = (start d p).item flags n) := by
  have hbefore {j : Nat} (hj : j < n) : (start c p).item flags j = (start d p).item flags j :=
    item_of_answerAt_eq fun k hk => h k (by omega)
  have hother (hc : ∀ j, n < j → (start c p).item flags j = .done)
      (hd : ∀ j, n < j → (start d p).item flags j = .done) :
      ∀ j ≠ n, (start c p).item flags j = (start d p).item flags j := by
    intro j hj
    rcases Nat.lt_or_gt_of_ne hj with hlt | hgt
    · exact hbefore hlt
    · rw [hc j hgt, hd j hgt]
  rcases maps_until p c flags n with hmaps | ⟨k, hk, hmaps, i, m, hstops⟩
  · have hmaps' := maps_of_answerAt_eq h hmaps
    cases hflag : flags n with
    | true =>
      obtain ⟨hc, hafter⟩ := item_of_stops hmaps (.cancelled hflag)
      obtain ⟨hd, hafter'⟩ := item_of_stops hmaps' (.cancelled hflag)
      refine ⟨hother hafter hafter', ?_, fun _ => hc.trans hd.symm⟩
      intro hreaches
      cases hflag.symm.trans hreaches.1
    | false =>
      have hreaches : Reaches p d flags n := by
        refine ⟨hflag, ?_⟩
        intro j hj
        obtain ⟨r, hr⟩ := hmaps' j hj
        exact ⟨r, item_of_maps (fun i hi => hmaps' i (by omega)) hr⟩
      obtain ⟨hc, hafter⟩ := item_of_stops hmaps (.cursor hflag hfails)
      obtain ⟨hd, hafter'⟩ := item_of_stops hmaps' (.exhausted hflag hends)
      exact ⟨hother hafter hafter', fun _ => ⟨hc, hd⟩, fun hnot => absurd hreaches hnot⟩
  · have hmaps' := maps_of_answerAt_eq (fun j hj => h j (by omega)) hmaps
    obtain ⟨-, hafter⟩ := item_of_stops hmaps hstops
    obtain ⟨-, hafter'⟩ := item_of_stops hmaps' (hstops.of_answerAt_eq (h k hk))
    refine ⟨hother (fun j hj => hafter j (by omega)) fun j hj => hafter' j (by omega), ?_, ?_⟩
    · intro hreaches
      obtain ⟨r, hr⟩ := maps_of_records hreaches.2 k hk
      exact absurd hr ((hstops.of_answerAt_eq (h k hk)).not_maps r)
    · intro _
      rw [hafter n hk, hafter' n hk]

end Answers

end Stream

/-! ### The table of a CSV input -/

namespace Csv

/-- How the records of a reader end: with the input, or with a failure, whatever comes after it. -/
inductive Ending
  | ofInput
  | failure (e : CursorError) (later : List Delivery)

namespace Ending

def deliveries : Ending → List Delivery
  | ofInput => []
  | failure e later => .error e :: later

def answer : Ending → Except CursorError Bool
  | ofInput => .ok false
  | failure e _ => .error e

end Ending

/-- The value of a raw cell. -/
def cellValue (options : CsvOptions) (raw : String) : Value :=
  let text := if options.trim then Text.trim raw else raw
  if text = "" then (if options.emptyAsNull then .null else .text "") else .text text

/-- A record with empty cells added, or cut, to the width of the header. -/
def fitted (width : Nat) (record : List String) : List String :=
  (record ++ List.replicate (width - record.length) "").take width

def tableRow (options : CsvOptions) (width : Nat) (record : List String) : List Value :=
  (fitted width record).map (cellValue options)

/-- The rows of the records in which some cell is not blank. -/
def tableRows (options : CsvOptions) (width : Nat) (records : List (List String)) :
    List (List Value) :=
  (records.filter fun r => r.any fun cell => !Text.isBlankText cell).map (tableRow options width)

/-- A cursor in memory over the rows of the records, under the names of the header. -/
def tableCursor (options : CsvOptions) (header : List String) (records : List (List String)) :
    MemoryCursor :=
  .ofResultSets [⟨⟨header.map normalizeHeader⟩, tableRows options header.length records⟩] none

/-- A cursor before the records of an input, with its ending behind them. -/
def inputCursor (options : CsvOptions) (header : List String) (records : List (List String))
    (ending : Ending) : CsvCursor :=
  .ofDeliveries options header (records.map .ok ++ ending.deliveries)

theorem getElem?_fitted (width : Nat) (record : List String) (i : Nat) :
    (fitted width record)[i]? = if i < width then some ((record[i]?).getD "") else none := by
  unfold fitted
  rw [List.getElem?_take]
  by_cases hi : i < width
  · rw [if_pos hi, if_pos hi]
    by_cases hr : i < record.length
    · rw [List.getElem?_append_left hr, List.getElem?_eq_getElem hr, Option.getD_some]
    · have hge : record.length ≤ i := by omega
      rw [List.getElem?_append_right hge, List.getElem?_eq_none hge, Option.getD_none,
        List.getElem?_replicate, if_pos (by omega)]
  · rw [if_neg hi, if_neg hi]

theorem length_tableRow (options : CsvOptions) (width : Nat) (record : List String) :
    (tableRow options width record).length = width := by
  simp only [tableRow, fitted, List.length_map, List.length_take, List.length_append,
    List.length_replicate]
  omega

/-- The rows of a table are as wide as its header. -/
theorem length_of_mem_tableRows {options : CsvOptions} {width : Nat} {records : List (List String)}
    {cells : List Value} (h : cells ∈ tableRows options width records) : cells.length = width := by
  obtain ⟨record, -, rfl⟩ := List.mem_map.mp h
  exact length_tableRow options width record

theorem cellValue_eq (options : CsvOptions) (raw : String) :
    cellValue options raw = match CsvCursor.cellText options raw with
      | some text => .text text
      | none => .null := by
  unfold cellValue CsvCursor.cellText
  dsimp only
  generalize (if options.trim then Text.trim raw else raw) = text
  by_cases htext : text = ""
  · subst htext
    cases options.emptyAsNull <;> rfl
  · have hempty : text.isEmpty = false := by simpa using htext
    simp [htext, hempty]

end Csv

/-! ### Rows -/

/-- A cursor in memory that stands on its last row. -/
def MemoryCursor.standing (shape : Shape) (cells : List Value) : MemoryCursor :=
  ⟨shape, some cells, [], [], 0, none⟩

theorem MemoryCursor.read_standing {shape : Shape} {cells : List Value} {i : Nat} {cell : Value}
    (h : cells[i]? = some cell) : (standing shape cells).row.read i = .ok cell := by
  show (standing shape cells).read i = _
  rw [read, standing]
  dsimp only
  rw [h]

theorem MemoryCursor.isNull_standing {shape : Shape} {cells : List Value} {i : Nat} {cell : Value}
    (h : cells[i]? = some cell) : (standing shape cells).row.isNull i = cell.isNull := by
  show (standing shape cells).isNull i = _
  rw [isNull, standing]
  dsimp only
  rw [h, Option.any_some]

namespace CsvCursor

variable {c : CsvCursor} {i : Nat}

theorem cell_of_lt (h : c.positioned = true) (hi : i < c.shape.width) :
    c.cell i = .ok (cellText c.options ((c.record[i]?).getD "")) := by
  rw [cell, h, if_neg Bool.noConfusion, if_neg (Nat.not_le_of_lt hi)]

theorem cell_of_le (h : c.positioned = true) (hi : c.shape.width ≤ i) :
    c.cell i = .error (.ordinalOutOfRange i c.shape.width) := by
  rw [cell, h, if_neg Bool.noConfusion, if_pos hi]

variable (c i) in
theorem getElem?_tableRow : (Csv.tableRow c.options c.shape.width c.record)[i]? =
    if i < c.shape.width then some (Csv.cellValue c.options ((c.record[i]?).getD "")) else none := by
  rw [Csv.tableRow, List.getElem?_map, Csv.getElem?_fitted]
  split <;> rfl

/-- On a row a CSV cursor answers as a table does that holds the fitted record. -/
theorem row_of_positioned (h : c.positioned = true) :
    c.row = (MemoryCursor.standing c.shape
      (Csv.tableRow c.options c.shape.width c.record)).row := by
  have hwidth := Csv.length_tableRow c.options c.shape.width c.record
  have hnull : c.isNull = (MemoryCursor.standing c.shape
      (Csv.tableRow c.options c.shape.width c.record)).isNull := by
    funext i
    rw [MemoryCursor.isNull, MemoryCursor.standing]
    dsimp only
    rw [getElem?_tableRow]
    rcases Nat.lt_or_ge i c.shape.width with hi | hi
    · rw [isNull, cell_of_lt h hi, if_pos hi, Csv.cellValue_eq]
      cases cellText c.options ((c.record[i]?).getD "") <;> rfl
    · rw [isNull, cell_of_le h hi, if_neg (Nat.not_lt_of_le hi)]
      rfl
  have hread : c.read = (MemoryCursor.standing c.shape
      (Csv.tableRow c.options c.shape.width c.record)).read := by
    funext i
    rw [MemoryCursor.read, MemoryCursor.standing]
    dsimp only
    rw [getElem?_tableRow, hwidth]
    rcases Nat.lt_or_ge i c.shape.width with hi | hi
    · rw [read, cell_of_lt h hi, if_pos hi, Csv.cellValue_eq]
      cases cellText c.options ((c.record[i]?).getD "") <;> rfl
    · rw [read, cell_of_le h hi, if_neg (Nat.not_lt_of_le hi)]
      rfl
  rw [row, hnull, hread]
  rfl

end CsvCursor

/-! ### Moves -/

namespace CsvCursor

/-- The cursor has these records left, blank ones apart, and then the ending. -/
def Holds (c : CsvCursor) (left : List (List String)) (ending : Csv.Ending) : Prop :=
  ∃ records : List (List String), c.pending = records.map .ok ++ ending.deliveries ∧
    records.filter (fun r => !isBlankRecord r) = left

theorem nextDelivery_of_blank {blanks : List (List String)} (h : ∀ r ∈ blanks, isBlankRecord r = true)
    (rest : List Csv.Delivery) :
    nextDelivery (blanks.map .ok ++ rest) = nextDelivery rest := by
  induction blanks with
  | nil => rfl
  | cons r more ih =>
    obtain ⟨hr, hmore⟩ := List.forall_mem_cons.mp h
    rw [List.map_cons, List.cons_append, nextDelivery, if_pos hr, ih hmore]

variable {c : CsvCursor} {ending : Csv.Ending}

/-- The move to the next record. -/
theorem Holds.advance_cons {record : List String} {left : List (List String)}
    (h : c.Holds (record :: left) ending) :
    (advance c).1 = .ok true ∧ (advance c).2.Holds left ending ∧
      (advance c).2.shape = c.shape ∧ (advance c).2.options = c.options ∧
      (advance c).2.record = record ∧ (advance c).2.positioned = true ∧
      (advance c).2.rows = c.rows + 1 := by
  obtain ⟨records, hpending, hleft⟩ := h
  obtain ⟨blanks, rest, rfl, hblanks, hrecord, hrest⟩ := List.filter_eq_cons_iff.mp hleft
  have hblanks : ∀ r ∈ blanks, isBlankRecord r = true := by simpa using hblanks
  have hnext : nextDelivery c.pending =
      some (.ok record, rest.map .ok ++ ending.deliveries) := by
    rw [hpending, List.map_append, List.append_assoc, nextDelivery_of_blank hblanks, List.map_cons,
      List.cons_append, nextDelivery, if_neg (by simpa using hrecord)]
  rw [advance, hnext]
  exact ⟨rfl, ⟨rest, rfl, hrest⟩, rfl, rfl, rfl, rfl, rfl⟩

/-- The move to the ending. -/
theorem Holds.advance_nil (h : c.Holds [] ending) :
    (advance c).1 = ending.answer ∧
      (ending = .ofInput →
        (advance c).2 = { c with pending := [], record := [], positioned := false }) := by
  obtain ⟨records, hpending, hleft⟩ := h
  have hblanks : ∀ r ∈ records, isBlankRecord r = true := by
    simpa using List.filter_eq_nil_iff.mp hleft
  have hnext : nextDelivery c.pending = nextDelivery ending.deliveries := by
    rw [hpending, nextDelivery_of_blank hblanks]
  cases ending with
  | ofInput =>
    have hnone : nextDelivery c.pending = none := hnext
    rw [advance, hnone]
    exact ⟨rfl, fun _ => rfl⟩
  | failure e later =>
    have hfails : nextDelivery c.pending = some (.error e, later) := hnext
    rw [advance, hfails]
    exact ⟨rfl, nofun⟩

/-- All rows of a CSV cursor have the columns of the header. -/
theorem shape_moved (c : CsvCursor) (k : Nat) : (moved c k).shape = c.shape := by
  induction k with
  | zero => rfl
  | succ k ih =>
    refine Eq.trans ?_ ih
    show (advance (moved c k)).2.shape = (moved c k).shape
    unfold advance
    split <;> rfl

/-- A move counts the row that it delivers. -/
theorem rows_advance (c : CsvCursor) (row : Row) :
    (advance c).2.rows =
      c.rows + ([Move.ofAnswer (advance c).1 row].filterMap Move.row?).length := by
  unfold advance
  split <;> rfl

/-- The rows read are the ones delivered. -/
theorem rows_moved (c : CsvCursor) (k : Nat) :
    (moved c k).rows =
      c.rows + (((List.range k).map (RowSource.answerAt c)).filterMap Move.row?).length := by
  induction k with
  | zero => rfl
  | succ k ih =>
    rw [List.range_succ, List.map_append, List.filterMap_append, List.length_append, ← Nat.add_assoc,
      ← ih]
    exact rows_advance (moved c k) _

/-- The rows read are the ones that a stream has projected. -/
theorem rows_after {τ σ : Type} [Target σ] (p : Projector τ σ) (c : CsvCursor) (flags : Nat → Bool)
    (n : Nat) :
    ((Stream.start c p).after flags n).cursor.rows = c.rows +
      (((List.range n).map ((Stream.start c p).item flags)).filterMap Item.projection?).length := by
  induction n with
  | zero => rfl
  | succ n ih =>
    rw [List.range_succ, List.map_append, List.filterMap_append, List.length_append, ← Nat.add_assoc,
      ← ih]
    rcases ((Stream.honest_after p c flags n).next (flags n)).2 with
      ⟨hcursor, haccounts⟩ | ⟨hcursor, haccounts⟩
    · have hnone := congrArg List.length haccounts.projections
      rw [List.length_map] at hnone
      exact (congrArg rows hcursor).trans (congrArg (_ + ·) hnone.symm)
    · have hone := congrArg List.length haccounts.projections
      rw [List.length_map] at hone
      refine (congrArg rows hcursor).trans ?_
      exact (rows_advance _ (RowSource.row _)).trans (congrArg (_ + ·) hone.symm)

end CsvCursor

namespace MemoryCursor

variable {t : MemoryCursor}

theorem advance_of_pending (hnever : t.failAfter = none) {cells : List Value}
    {rest : List (List Value)} (h : t.pending = cells :: rest) :
    advance t = (.ok true,
      { t with current := some cells, pending := rest, delivered := t.delivered + 1 }) := by
  simp [advance, hnever, h, nextRow]

theorem advance_of_done (hnever : t.failAfter = none) (h : t.pending = []) (hlater : t.later = []) :
    advance t = (.ok false, { t with current := none, pending := [], later := [] }) := by
  simp [advance, hnever, h, hlater, nextRow]

end MemoryCursor

/-! ### A CSV cursor beside the cursor of its table -/

namespace Csv

/-- Both cursors have these records left, of `count` in all, and read them in the same way. -/
structure Beside (o : CsvOptions) (count : Nat) (ending : Ending) (left : List (List String))
    (c : CsvCursor) (t : MemoryCursor) : Prop where
  holds : c.Holds left ending
  options : c.options = o
  shape : c.shape = t.shape
  pending : t.pending = left.map (tableRow o t.shape.width)
  later : t.later = []
  unfailing : t.failAfter = none
  delivered : c.rows + left.length = count

section Moves

variable {o : CsvOptions} {count : Nat} {ending : Ending} {left : List (List String)} {c : CsvCursor}
  {t : MemoryCursor}

theorem Beside.advance_cons {record : List String}
    (h : Beside o count ending (record :: left) c t) :
    (RowSource.advance c).1 = .ok true ∧ (RowSource.advance t).1 = .ok true ∧
      RowSource.row (RowSource.advance c).2 = RowSource.row (RowSource.advance t).2 ∧
      Beside o count ending left (RowSource.advance c).2 (RowSource.advance t).2 := by
  obtain ⟨hanswer, hholds, hshape, hoptions, hrecord, hpositioned, hrows⟩ := h.holds.advance_cons
  have htable : RowSource.advance t = (.ok true, { t with
      current := some (tableRow o t.shape.width record)
      pending := left.map (tableRow o t.shape.width)
      delivered := t.delivered + 1 }) := MemoryCursor.advance_of_pending h.unfailing h.pending
  have hdelivered : c.rows + (left.length + 1) = count := h.delivered
  rw [htable]
  refine ⟨hanswer, rfl, ?_, hholds, hoptions.trans h.options, hshape.trans h.shape, rfl, h.later,
    h.unfailing, ?_⟩
  · refine (CsvCursor.row_of_positioned hpositioned).trans ?_
    rw [hshape, hoptions, hrecord, h.options, h.shape]
    rfl
  · show (CsvCursor.advance c).2.rows + left.length = count
    omega

theorem Beside.advance_nil (h : Beside o count ending [] c t) :
    (RowSource.advance c).1 = ending.answer ∧ (RowSource.advance t).1 = .ok false ∧
      (ending = .ofInput →
        Beside o count ending [] (RowSource.advance c).2 (RowSource.advance t).2) := by
  obtain ⟨hanswer, hrest⟩ := h.holds.advance_nil
  have htable : RowSource.advance t =
      (.ok false, { t with current := none, pending := [], later := [] }) :=
    MemoryCursor.advance_of_done h.unfailing h.pending h.later
  refine ⟨hanswer, by rw [htable], ?_⟩
  rintro rfl
  have hcsv : (RowSource.advance c).2 = { c with pending := [], record := [], positioned := false } :=
    hrest rfl
  rw [hcsv, htable]
  exact ⟨⟨[], rfl, rfl⟩, h.options, h.shape, rfl, rfl, h.unfailing, h.delivered⟩

/-- Moved on together, the cursors stay beside each other up to the ending, and past it where the
input ends. -/
theorem Beside.moved {k : Nat} (h : Beside o count ending left c t)
    (hk : k ≤ left.length ∨ ending = .ofInput) :
    Beside o count ending (left.drop k) (RowSource.moved c k) (RowSource.moved t k) := by
  induction k with
  | zero => exact h
  | succ k ih =>
    have hbeside := ih (hk.imp_left Nat.le_of_succ_le)
    rcases Nat.lt_or_ge k left.length with hlt | hge
    · rw [List.drop_eq_getElem_cons hlt] at hbeside
      exact hbeside.advance_cons.2.2.2
    · rw [List.drop_of_length_le hge] at hbeside
      rw [List.drop_of_length_le (Nat.le_succ_of_le hge)]
      exact hbeside.advance_nil.2.2 (hk.resolve_left (by omega))

theorem Beside.answer_row {k : Nat} (h : Beside o count ending left c t) (hk : k < left.length) :
    (RowSource.advance (RowSource.moved c k)).1 = .ok true ∧
      RowSource.answerAt c k = RowSource.answerAt t k := by
  have hbeside := h.moved (Or.inl (Nat.le_of_lt hk))
  rw [List.drop_eq_getElem_cons hk] at hbeside
  obtain ⟨hc, ht, hrow, -⟩ := hbeside.advance_cons
  exact ⟨hc, RowSource.answerAt_eq_iff.mpr ⟨hc.trans ht.symm, fun _ => hrow⟩⟩

theorem Beside.answer_ending (h : Beside o count ending left c t) :
    (RowSource.advance (RowSource.moved c left.length)).1 = ending.answer ∧
      (RowSource.advance (RowSource.moved t left.length)).1 = .ok false := by
  have hbeside := h.moved (Or.inl (Nat.le_refl left.length))
  rw [List.drop_length] at hbeside
  exact ⟨hbeside.advance_nil.1, hbeside.advance_nil.2.1⟩

/-- Where the input ends, the cursors stay beside each other past it and never fail. -/
theorem Beside.answerAt_eq (h : Beside o count ending left c t) (hinput : ending = .ofInput)
    (k : Nat) :
    (∃ more, (RowSource.advance (RowSource.moved c k)).1 = .ok more) ∧
      RowSource.answerAt c k = RowSource.answerAt t k := by
  rcases Nat.lt_or_ge k left.length with hlt | hge
  · obtain ⟨hanswer, heq⟩ := h.answer_row hlt
    exact ⟨⟨true, hanswer⟩, heq⟩
  · have hbeside := h.moved (Or.inr hinput) (k := k)
    rw [List.drop_of_length_le hge] at hbeside
    obtain ⟨hc, ht, -⟩ := hbeside.advance_nil
    rw [hinput] at hc
    refine ⟨⟨false, hc⟩, RowSource.answerAt_eq_iff.mpr ⟨hc.trans ht.symm, ?_⟩⟩
    intro htrue
    cases htrue.symm.trans hc

theorem Beside.rows_moved {k : Nat} (h : Beside o count ending left c t) (hk : k ≤ left.length) :
    (RowSource.moved c k).rows = c.rows + k := by
  have hmoved := (h.moved (Or.inl hk)).delivered
  have hstart := h.delivered
  rw [List.length_drop] at hmoved
  omega

end Moves

/-! ### An input and its table -/

section Table

variable (options : CsvOptions) (header : List String) (records : List (List String))
  (ending : Ending)

theorem tableRows_eq (width : Nat) :
    tableRows options width records =
      (records.filter fun r => !CsvCursor.isBlankRecord r).map (tableRow options width) := by
  have hblank (r : List String) :
      r.any (fun cell => !Text.isBlankText cell) = !CsvCursor.isBlankRecord r := by
    rw [CsvCursor.isBlankRecord, List.not_all_eq_any_not]
  rw [tableRows, funext hblank]

theorem beside_tableCursor :
    Beside options (tableRows options header.length records).length ending
      (records.filter fun r => !CsvCursor.isBlankRecord r)
      (CsvCursor.ofDeliveries options header (records.map .ok ++ ending.deliveries))
      (tableCursor options header records) where
  holds := ⟨records, rfl, rfl⟩
  options := rfl
  shape := rfl
  pending := by
    have hwidth : (tableCursor options header records).shape.width = header.length :=
      List.length_map _
    rw [hwidth, ← tableRows_eq]
    rfl
  later := rfl
  unfailing := rfl
  delivered := by
    rw [tableRows_eq, List.length_map]
    exact Nat.zero_add _

variable {options header records} in
/-- The cursor goes from row to row of the table. -/
theorem row_inputCursor {k : Nat} {cells : List Value}
    (h : (tableRows options header.length records)[k]? = some cells) :
    (RowSource.advance (moved (inputCursor options header records ending) k)).1 = .ok true ∧
      RowSource.row (moved (inputCursor options header records ending) (k + 1)) =
        (MemoryCursor.standing ⟨header.map normalizeHeader⟩ cells).row := by
  have hbeside := beside_tableCursor options header records ending
  rw [tableRows_eq, List.getElem?_map, Option.map_eq_some_iff] at h
  obtain ⟨record, hrecord, rfl⟩ := h
  obtain ⟨hk, rfl⟩ := List.getElem?_eq_some_iff.mp hrecord
  have hmoved := hbeside.moved (Or.inl (Nat.le_of_lt hk))
  rw [List.drop_eq_getElem_cons hk] at hmoved
  obtain ⟨hanswer, -, hshape, hoptions, hcells, hpositioned, -⟩ := hmoved.holds.advance_cons
  refine ⟨hanswer, (CsvCursor.row_of_positioned hpositioned).trans ?_⟩
  have hheader : (inputCursor options header records ending).shape =
      ⟨header.map normalizeHeader⟩ := rfl
  have hwidth : (Shape.mk (header.map normalizeHeader)).width = header.length := List.length_map _
  have hstart := (CsvCursor.shape_moved (inputCursor options header records ending) k).trans hheader
  rw [hshape.trans hstart, hoptions, hcells, hmoved.options, hwidth]

/-- After the rows of the table the cursor meets the ending. -/
theorem ending_inputCursor :
    (RowSource.advance (moved (inputCursor options header records ending)
      (tableRows options header.length records).length)).1 = ending.answer := by
  have hbeside := beside_tableCursor options header records ending
  have hlength : (tableRows options header.length records).length =
      (records.filter fun r => !CsvCursor.isBlankRecord r).length := by
    rw [tableRows_eq, List.length_map]
  rw [hlength]
  exact hbeside.answer_ending.1

end Table

/-- What a reader delivers is records and an ending. -/
theorem exists_ending (deliveries : List Delivery) :
    ∃ (records : List (List String)) (ending : Ending),
      deliveries = records.map .ok ++ ending.deliveries := by
  induction deliveries with
  | nil => exact ⟨[], .ofInput, rfl⟩
  | cons d rest ih =>
    cases d with
    | error e => exact ⟨[], .failure e rest, rfl⟩
    | ok record =>
      obtain ⟨records, ending, hrest⟩ := ih
      exact ⟨record :: records, ending, by rw [hrest]; rfl⟩

/-- A reader that fails nowhere ends with the input. -/
theorem Ending.eq_ofInput {records : List (List String)} {ending : Ending}
    (h : ∀ d ∈ records.map .ok ++ ending.deliveries, ∃ record, d = .ok record) :
    ending = .ofInput := by
  cases ending with
  | ofInput => rfl
  | failure e later =>
    obtain ⟨record, hrecord⟩ :=
      h (.error e) (List.mem_append_right _ List.mem_cons_self)
    cases hrecord

end Csv

/-- A cursor that opens has a header, records and an ending before it, all of which its reader
delivers. -/
theorem CsvCursor.openInput_ok {options : CsvOptions} {input : Csv.Input} {c : CsvCursor}
    (h : openInput options input = .ok c) :
    ∃ (header : List String) (records : List (List String)) (ending : Csv.Ending),
      c = ofDeliveries options header (records.map .ok ++ ending.deliveries) ∧
      ∀ d ∈ records.map .ok ++ ending.deliveries, d ∈ Csv.deliveries options.delimiter input := by
  unfold openInput at h
  split at h
  · exact ⟨[], [], .ofInput, (Except.ok.inj h).symm, fun d hd => absurd hd List.not_mem_nil⟩
  · cases h
  · rename_i header deliveries heq
    obtain ⟨records, ending, rfl⟩ := Csv.exists_ending deliveries
    refine ⟨header, records, ending, (Except.ok.inj h).symm, ?_⟩
    intro d hd
    rw [heq]
    exact List.mem_cons_of_mem _ hd

/-- A CSV input, as a header, records and an ending, and the table of it.  The cursor delivers the
rows of the table and then meets the ending, and counts what it delivers.  Whatever the projector and
whenever it is cancelled, the stream gives call by call what the stream over the table gives; only
where the reader fails does it end with that failure, at the number of the row that would follow, if
it gets so far.  Every input that opens is such an input. -/
theorem csv_streams_as_table (options : CsvOptions) :
    (∀ (header : List String) (records : List (List String)) (ending : Csv.Ending),
      let c := CsvCursor.ofDeliveries options header (records.map .ok ++ ending.deliveries)
      let t := Csv.tableCursor options header records
      let count := (Csv.tableRows options header.length records).length
      (∀ k < count, (CsvCursor.advance (moved c k)).1 = .ok true) ∧
      (CsvCursor.advance (moved c count)).1 = ending.answer ∧
      (∀ k ≤ count, (moved c k).rows = k) ∧
      (∀ k, (moved c k).rows =
        (((List.range k).map (RowSource.answerAt c)).filterMap Move.row?).length) ∧
      (ending = .ofInput → ∀ k, RowSource.answerAt c k = RowSource.answerAt t k) ∧
      ∀ {τ σ : Type} [Target σ] (p : Projector τ σ) (flags : Nat → Bool),
        let csv := (Stream.start c p).item flags
        let table := (Stream.start t p).item flags
        (∀ n, n ≠ count ∨ ending = .ofInput → csv n = table n) ∧
        (∀ e later, ending = .failure e later →
          (Stream.Reaches p t flags count →
            csv count = .failed (.cursor (some count) e) ∧ table count = .done) ∧
          (¬Stream.Reaches p t flags count → csv count = table count)) ∧
        ∀ n, ((Stream.start c p).after flags n).cursor.rows =
          (((List.range n).map csv).filterMap Item.projection?).length) ∧
    ∀ (input : Csv.Input) (c : CsvCursor), CsvCursor.openInput options input = .ok c →
      ∃ (header : List String) (records : List (List String)) (ending : Csv.Ending),
        c = CsvCursor.ofDeliveries options header (records.map .ok ++ ending.deliveries) := by
  constructor
  · intro header records ending c t count
    have hbeside := Csv.beside_tableCursor options header records ending
    have hcount : (records.filter fun r => !CsvCursor.isBlankRecord r).length = count :=
      (Nat.zero_add _).symm.trans hbeside.delivered
    have hrow {k : Nat} (hk : k < count) := hbeside.answer_row (hcount ▸ hk)
    obtain ⟨hending, hdone⟩ := hcount ▸ hbeside.answer_ending
    have hrows (k : Nat) (hk : k ≤ count) : (moved c k).rows = k :=
      (hbeside.rows_moved (hcount ▸ hk)).trans (Nat.zero_add k)
    have hread (k : Nat) := (CsvCursor.rows_moved c k).trans (Nat.zero_add _)
    refine ⟨fun k hk => (hrow hk).1, hending, hrows, hread,
      fun hinput k => (hbeside.answerAt_eq hinput k).2, ?_⟩
    intro τ σ _ p flags csv table
    have hread (n : Nat) := (CsvCursor.rows_after p c flags n).trans (Nat.zero_add _)
    cases ending with
    | ofInput =>
      have hitems (n : Nat) : csv n = table n :=
        Stream.item_of_answerAt_eq fun k _ => (hbeside.answerAt_eq rfl k).2
      exact ⟨fun n _ => hitems n, nofun, hread⟩
    | failure e later =>
      obtain ⟨hother, hparts⟩ :=
        Stream.items_part p flags (fun k hk => (hrow hk).2) hending hdone
      refine ⟨?_, ?_, hread⟩
      · intro n hn
        exact hother n (hn.resolve_right nofun)
      · rintro e' later' heq
        cases heq
        exact hparts
  · intro input c hopen
    obtain ⟨header, records, ending, hc, -⟩ := CsvCursor.openInput_ok hopen
    exact ⟨header, records, ending, hc⟩

/-- A reader that breaks off after a long record, a blank one and a short one. -/
theorem csv_streams_as_table_cut_off :
    let records : List (List String) := [["1", " Ann ", "x"], [" ", ""], ["2"]]
    let ending : Csv.Ending := .failure (.io "cut off") []
    let c := CsvCursor.ofDeliveries {} ["Id", " Name "] (records.map .ok ++ ending.deliveries)
    let t := Csv.tableCursor {} ["Id", " Name "] records
    Csv.tableRows {} 2 records = [[.text "1", .text "Ann"], [.text "2", .null]] ∧
      ∃ p : Projector Unit Record, Stream.Reaches p t (fun _ => false) 2 ∧
        (Stream.start c p).item (fun _ => false) 2 = .failed (.cursor (some 2) (.io "cut off")) := by
  intro records ending c t
  let rule : Rule Record := .ofProperty (SchemaProperty.toProperty ⟨"Name", .text, none, false⟩)
  let s : RuleSet Record := ⟨"Order", [rule], false⟩
  let p : Projector Unit Record := ⟨.ofRuleSet () s "orders", "Order", ⟨0, ["Name"]⟩, s.rules, false⟩
  have hrows : Csv.tableRows {} 2 records = [[.text "1", .text "Ann"], [.text "2", .null]] := by
    decide +kernel
  have hcount : (Csv.tableRows {} ["Id", " Name "].length records).length = 2 :=
    congrArg List.length hrows
  have hreaches : Stream.Reaches p t (fun _ => false) 2 := by
    refine ⟨rfl, ?_⟩
    intro j hj
    have hsome : ((Stream.start t p).item (fun _ => false) j).record?.isSome = true := by
      revert j
      decide +kernel
    cases hitem : (Stream.start t p).item (fun _ => false) j with
    | record r => exact ⟨r, rfl⟩
    | failed e => rw [hitem] at hsome; cases hsome
    | done => rw [hitem] at hsome; cases hsome
  have hparts := ((((csv_streams_as_table {}).1 ["Id", " Name "] records ending).2.2.2.2.2 p
    fun _ => false).2.1 (.io "cut off") [] rfl).1
  rw [hcount] at hparts
  exact ⟨hrows, p, hreaches, (hparts hreaches).1⟩

end RecordMapping
