import RecordMapping.Proofs.Presence
import RecordMapping.Proofs.RuleSets
import Mathlib.Data.Finset.Card

/-!
# RecordMapping.Proofs.IndexHistories — an index looks a shape up once

An index is what its rows make of it (`PresenceIndex.after`): the shapes in the order in which they
were met, each with the positions of the columns, and the place of the latest.  `visit_after` is the
step from row to row.  A projector with another table starts over, whatever the index has seen
(`afterCalls_of_ne`).
-/

namespace RecordMapping

/-- The shapes of rows, each once, in the order in which they were first met. -/
def Row.shapesMet (rows : List Row) : List Shape := (rows.map Row.shape).eraseDups

namespace Row

theorem mem_shapesMet {rows : List Row} {shape : Shape} :
    shape ∈ shapesMet rows ↔ ∃ row ∈ rows, row.shape = shape := by
  simp [shapesMet]

theorem shapesMet_concat (rows : List Row) (row : Row) :
    shapesMet (rows ++ [row]) =
      if row.shape ∈ shapesMet rows then shapesMet rows else shapesMet rows ++ [row.shape] := by
  simp [shapesMet, eraseDups_concat]

theorem nodup_shapesMet (rows : List Row) : (shapesMet rows).Nodup := nodup_eraseDups _

theorem nodup_columns_shapesMet (rows : List Row) :
    ((shapesMet rows).map Shape.columns).Nodup := by
  refine (nodup_shapesMet rows).map ?_
  rintro ⟨columns⟩ ⟨columns'⟩ (rfl : columns = columns')
  rfl

theorem length_shapesMet (rows : List Row) :
    (shapesMet rows).length = (rows.map fun row => row.shape.columns).toFinset.card := by
  have hset : ((shapesMet rows).map Shape.columns).toFinset =
      (rows.map fun row => row.shape.columns).toFinset := by
    ext columns
    simp [shapesMet]
  rw [← hset, List.toFinset_card_of_nodup (nodup_columns_shapesMet rows), List.length_map]

end Row

/-! ### The index that rows leave behind -/

/-- A shape with the positions of the table's columns in it. -/
def ColumnTable.resolve (table : ColumnTable) (shape : Shape) : ResolvedShape :=
  ⟨shape, table.columns.map shape.ordinal?⟩

namespace PresenceIndex

/-- The index of a table after rows. -/
def after (table : ColumnTable) (rows : List Row) : PresenceIndex where
  table
  shapes := (Row.shapesMet rows).map table.resolve
  current := (rows.getLast?.map fun row => (Row.shapesMet rows).idxOf row.shape).getD 0

theorem after_nil (table : ColumnTable) : after table [] = empty table := rfl

theorem forTable_after (table : ColumnTable) (rows : List Row) :
    (after table rows).forTable table = after table rows := if_pos rfl

theorem forTable_of_ne {table : ColumnTable} {index : PresenceIndex} (h : index.table ≠ table) :
    index.forTable table = after table [] := if_neg h

theorem after_concat (table : ColumnTable) (rows : List Row) (row : Row) :
    after table (rows ++ [row]) =
      ⟨table, (Row.shapesMet (rows ++ [row])).map table.resolve,
        (Row.shapesMet (rows ++ [row])).idxOf row.shape⟩ := by
  simp [after]

/-- What is kept at the current position belongs to the latest row. -/
theorem current_after (table : ColumnTable) (rows : List Row) (row : Row) :
    (after table (rows ++ [row])).shapes[(after table (rows ++ [row])).current]? =
      some (table.resolve row.shape) := by
  have hmet : row.shape ∈ Row.shapesMet (rows ++ [row]) :=
    Row.mem_shapesMet.mpr ⟨row, by simp, rfl⟩
  rw [after_concat, List.getElem?_map, List.getElem?_idxOf hmet]
  rfl

theorem nodup_columns_after (table : ColumnTable) (rows : List Row) :
    ((after table rows).shapes.map fun r => r.shape.columns).Nodup := by
  rw [after, List.map_map]
  exact Row.nodup_columns_shapesMet rows

theorem current_lt_after (table : ColumnTable) (rows : List Row)
    (hshapes : (after table rows).shapes ≠ []) :
    (after table rows).current < (after table rows).shapes.length := by
  cases rows using List.reverseRecOn with
  | nil => exact absurd rfl hshapes
  | append_singleton before row =>
    exact (List.getElem?_eq_some_iff.mp (current_after table before row)).1

theorem shapesSeen_after (table : ColumnTable) (rows : List Row) :
    (after table rows).shapesSeen = (rows.map fun row => row.shape.columns).toFinset.card := by
  rw [shapesSeen, after, List.length_map, Row.length_shapesMet]

/-- A shape that was met is found, and at its own place: it is kept nowhere else. -/
theorem position?_after (table : ColumnTable) (rows : List Row) (shape : Shape) :
    (after table rows).position? shape =
      if shape ∈ Row.shapesMet rows then some ((Row.shapesMet rows).idxOf shape) else none := by
  cases hposition : (after table rows).position? shape with
  | none =>
    have hsearch :
        ((after table rows).shapes.findIdx? fun r => decide (r.shape = shape)) = none := by
      unfold position? at hposition
      split at hposition
      · cases hposition
      · exact hposition
    rw [if_neg]
    intro hmet
    have hother := List.findIdx?_eq_none_iff.mp hsearch _ (List.mem_map_of_mem hmet)
    simp [ColumnTable.resolve] at hother
  | some i =>
    obtain ⟨r, hr, rfl⟩ := shape_of_position? hposition
    have hi : (Row.shapesMet rows)[i]? = some r.shape := by
      obtain ⟨shape, hshape, rfl⟩ : ∃ shape, (Row.shapesMet rows)[i]? = some shape ∧
          table.resolve shape = r := by simpa [after] using hr
      exact hshape
    -- no shape is kept twice, so it is the position that the search gives
    obtain ⟨hlt, hget⟩ := List.getElem?_eq_some_iff.mp hi
    rw [if_pos (List.mem_of_getElem? hi), ← hget, (Row.nodup_shapesMet rows).idxOf_getElem i hlt]

theorem visit_after (table : ColumnTable) (rows : List Row) (row : Row) :
    (after table rows).visit row =
      (after table (rows ++ [row]),
        if row.shape ∈ Row.shapesMet rows then [] else table.columns) := by
  unfold visit
  rw [position?_after, after_concat, Row.shapesMet_concat]
  by_cases hmet : row.shape ∈ Row.shapesMet rows
  · simp [hmet, after]
  · have hplace : (Row.shapesMet rows ++ [row.shape]).idxOf row.shape =
        (Row.shapesMet rows).length := by
      simp [List.idxOf_append_of_notMem hmet]
    simp only [hmet, if_false, hplace, after, List.map_append, List.map_singleton, List.length_map]
    rfl

end PresenceIndex

/-! ### Calls that share an index -/

namespace ProjectCall

/-- The columns that a call looks up, each with the shape of the row that it asks. -/
def lookUps (call : ProjectCall) (index : PresenceIndex) : List (Shape × String) :=
  ((index.forTable call.projector.table).visit call.row).2.map (Prod.mk call.row.shape)

theorem withIndex_snd (call : ProjectCall) (index : PresenceIndex) :
    (call.withIndex index).2 = ((index.forTable call.projector.table).visit call.row).1 :=
  call.projector.index_project call.row index

end ProjectCall

/-- What a table looks up for shapes that it meets for the first time. -/
def ColumnTable.lookUps (table : ColumnTable) (shapes : List Shape) : List (Shape × String) :=
  shapes.flatMap fun shape => table.columns.map (Prod.mk shape)

/-- Among shapes that are distinct, each is asked for every column once. -/
theorem ColumnTable.lookUps_of_shape (table : ColumnTable) {shapes : List Shape}
    (hnodup : shapes.Nodup) (shape : Shape) :
    ((table.lookUps shapes).filter fun l => decide (l.1 = shape)).map Prod.snd =
      if shape ∈ shapes then table.columns else [] := by
  induction shapes with
  | nil => rfl
  | cons first rest ih =>
    obtain ⟨hfirst, hrest⟩ := List.nodup_cons.mp hnodup
    have ih := ih hrest
    rw [lookUps, List.flatMap_cons, List.filter_append, List.map_append, ← lookUps, ih]
    by_cases h : first = shape
    · subst h
      simp [hfirst, List.filter_map, Function.comp_def]
    · simp [h, Ne.symm h, List.filter_map, Function.comp_def]

namespace PresenceIndex

variable {table : ColumnTable}

/-- The index after calls that share it, and all that they look up. -/
def afterCalls : PresenceIndex → List ProjectCall → PresenceIndex × List (Shape × String)
  | index, [] => (index, [])
  | index, call :: rest =>
    let (final, later) := afterCalls (call.withIndex index).2 rest
    (final, call.lookUps index ++ later)

theorem withIndex_after {call : ProjectCall} (h : call.projector.table = table)
    (rows : List Row) :
    (call.withIndex (after table rows)).2 = after table (rows ++ [call.row]) := by
  rw [call.withIndex_snd, h, forTable_after, visit_after]

/-- Every index that calls have made is what the rows since the last change of projectors make of
it. -/
theorem Reachable.eq_after {index : PresenceIndex} (h : index.Reachable) :
    ∃ rows, index = after index.table rows := by
  induction h with
  | new table => exact ⟨[], rfl⟩
  | @project index _ call ih =>
    obtain ⟨rows, hrows⟩ := ih
    by_cases htable : call.projector.table = index.table
    · refine ⟨rows ++ [call.row], ?_⟩
      rw [hrows, withIndex_after htable]
      rfl
    · refine ⟨[] ++ [call.row], ?_⟩
      rw [call.withIndex_snd, forTable_of_ne (Ne.symm htable), visit_after]
      rfl

/-- A call adds what it looks up to what was looked up before. -/
theorem lookUps_after {call : ProjectCall} (h : call.projector.table = table)
    (rows : List Row) :
    table.lookUps (Row.shapesMet rows) ++ call.lookUps (after table rows) =
      table.lookUps (Row.shapesMet (rows ++ [call.row])) := by
  rw [ProjectCall.lookUps, h, forTable_after, visit_after, Row.shapesMet_concat]
  by_cases hmet : call.row.shape ∈ Row.shapesMet rows <;> simp [hmet, ColumnTable.lookUps]

theorem afterCalls_after {calls : List ProjectCall}
    (h : ∀ call ∈ calls, call.projector.table = table) (rows : List Row) :
    ((after table rows).afterCalls calls).1 = after table (rows ++ calls.map ProjectCall.row) ∧
      table.lookUps (Row.shapesMet rows) ++ ((after table rows).afterCalls calls).2 =
        table.lookUps (Row.shapesMet (rows ++ calls.map ProjectCall.row)) := by
  induction calls generalizing rows with
  | nil => simp [afterCalls]
  | cons call rest ih =>
    have hcall := h call List.mem_cons_self
    have hrest : ∀ c ∈ rest, c.projector.table = table := fun c hc =>
      h c (List.mem_cons_of_mem call hc)
    have hrows : rows ++ (call :: rest).map ProjectCall.row =
        rows ++ [call.row] ++ rest.map ProjectCall.row := by simp
    rw [afterCalls, withIndex_after hcall, ← List.append_assoc, lookUps_after hcall, hrows]
    exact ih hrest (rows ++ [call.row])

/-- A call to a projector with another table forgets what came before. -/
theorem afterCalls_of_ne {index : PresenceIndex} {calls : List ProjectCall}
    (h : ∀ call ∈ calls, call.projector.table = table) (hne : index.table ≠ table)
    (hcalls : calls ≠ []) : index.afterCalls calls = (empty table).afterCalls calls := by
  cases calls with
  | nil => exact absurd rfl hcalls
  | cons call rest =>
    have hcall := h call List.mem_cons_self
    have hstart : index.forTable call.projector.table =
        (empty table).forTable call.projector.table := by
      rw [hcall, forTable_of_ne hne, ← after_nil, forTable_after]
    rw [afterCalls, afterCalls, call.withIndex_snd, call.withIndex_snd, ProjectCall.lookUps,
      ProjectCall.lookUps, hstart]

end PresenceIndex

/-- Calls by one projector, on a new index or on one that served another table before.  The index
holds each shape of their rows once, with the positions of the columns; the current position is that
of the latest row; and each shape was asked for each column once. -/
theorem shapes_looked_up_once {table : ColumnTable} {index final : PresenceIndex}
    {calls : List ProjectCall} {lookUps : List (Shape × String)}
    (hcalls : ∀ call ∈ calls, call.projector.table = table)
    (hindex : index = .empty table ∨ index.table ≠ table ∧ calls ≠ [])
    (hrun : index.afterCalls calls = (final, lookUps)) :
    (final.shapes.map fun r => r.shape.columns).Nodup ∧
      (∀ r ∈ final.shapes, r.ordinals = table.columns.map r.shape.ordinal? ∧
        ∀ i, some i ∈ r.ordinals → i < r.shape.width) ∧
      (final.shapes ≠ [] → final.current < final.shapes.length) ∧
      (∀ call, calls.getLast? = some call →
        (final.shapes[final.current]?).map ResolvedShape.shape = some call.row.shape) ∧
      final.shapesSeen = (calls.map fun call => call.row.shape.columns).toFinset.card ∧
      ∀ shape, (lookUps.filter fun l => decide (l.1 = shape)).map Prod.snd =
        if shape ∈ calls.map fun call => call.row.shape then table.columns else [] := by
  have hstart : index.afterCalls calls = (PresenceIndex.empty table).afterCalls calls := by
    rcases hindex with rfl | ⟨hne, hsome⟩
    · rfl
    · exact PresenceIndex.afterCalls_of_ne hcalls hne hsome
  obtain ⟨hfinal, hlookUps⟩ := PresenceIndex.afterCalls_after hcalls []
  rw [PresenceIndex.after_nil, ← hstart, hrun] at hfinal hlookUps
  obtain rfl : final = .after table (calls.map ProjectCall.row) := hfinal
  obtain rfl : lookUps = table.lookUps (Row.shapesMet (calls.map ProjectCall.row)) := hlookUps
  refine ⟨PresenceIndex.nodup_columns_after table _, ?_,
    PresenceIndex.current_lt_after table _, ?_, ?_, ?_⟩
  · intro r hr
    obtain ⟨shape, -, rfl⟩ := List.mem_map.mp hr
    refine ⟨rfl, ?_⟩
    intro i hi
    obtain ⟨column, -, hcolumn⟩ := List.mem_map.mp hi
    exact Shape.ordinal?_lt_width hcolumn
  · intro call hlast
    obtain ⟨before, rfl⟩ := List.getLast?_eq_some_iff.mp hlast
    rw [List.map_append, List.map_singleton, PresenceIndex.current_after]
    rfl
  · rw [PresenceIndex.shapesSeen_after, List.map_map]
    rfl
  · intro shape
    rw [table.lookUps_of_shape (Row.nodup_shapesMet _)]
    simp [Row.mem_shapesMet]

/-- Two compilations of one rule set.  The index of the first has met a shape before the second
takes it over; rows of two shapes, one of them twice, then cost two look-ups for each shape. -/
theorem shapes_looked_up_once_alternating :
    ∃ (p : Nat → Projector Unit Record) (row : List String → Row) (index final : PresenceIndex)
      (lookUps : List (Shape × String)),
      (p 0).presenceIndex.afterCalls [⟨p 0, row ["Age"]⟩] =
        (index, [(⟨["Age"]⟩, "Name"), (⟨["Age"]⟩, "Age")]) ∧
      index.table ≠ (p 1).table ∧
      index.afterCalls
        [⟨p 1, row ["Name", "Age"]⟩, ⟨p 1, row ["Age"]⟩, ⟨p 1, row ["Name", "Age"]⟩] =
        (final, lookUps) ∧
      final.shapes = [⟨⟨["Name", "Age"]⟩, [some 0, some 1]⟩, ⟨⟨["Age"]⟩, [none, some 0]⟩] ∧
      final.current = 0 ∧ final.shapesSeen = 2 ∧
      (lookUps.filter fun l => decide (l.1 = ⟨["Age"]⟩)).map Prod.snd = ["Name", "Age"] := by
  let s : RuleSet Record := ⟨"Person",
    [.ofProperty (SchemaProperty.toProperty ⟨"Name", .text, none, false⟩),
      .ofProperty (SchemaProperty.toProperty ⟨"Age", .int, none, false⟩)], false⟩
  let p (serial : Nat) : Projector Unit Record :=
    ⟨.ofRuleSet () s "people", "Person", ⟨serial, ["Name", "Age"]⟩, s.rules, false⟩
  let row (columns : List String) : Row := ⟨⟨columns⟩, fun _ => true, fun _ => .ok .null⟩
  let index : PresenceIndex := ⟨⟨0, ["Name", "Age"]⟩, [⟨⟨["Age"]⟩, [none, some 0]⟩], 0⟩
  let calls : List ProjectCall :=
    [⟨p 1, row ["Name", "Age"]⟩, ⟨p 1, row ["Age"]⟩, ⟨p 1, row ["Name", "Age"]⟩]
  have hcalls : ∀ call ∈ calls, call.projector.table = (p 1).table := by simp [calls]
  have hne : index.table ≠ (p 1).table := by decide
  let final : PresenceIndex := ⟨⟨1, ["Name", "Age"]⟩,
    [⟨⟨["Name", "Age"]⟩, [some 0, some 1]⟩, ⟨⟨["Age"]⟩, [none, some 0]⟩], 0⟩
  let lookUps : List (Shape × String) := [(⟨["Name", "Age"]⟩, "Name"), (⟨["Name", "Age"]⟩, "Age"),
    (⟨["Age"]⟩, "Name"), (⟨["Age"]⟩, "Age")]
  have hrun : index.afterCalls calls = (final, lookUps) := rfl
  obtain ⟨-, -, -, -, hseen, hlookUps⟩ :=
    shapes_looked_up_once hcalls (.inr ⟨hne, List.cons_ne_nil _ _⟩) hrun
  exact ⟨p, row, index, final, lookUps, rfl, hne, hrun, rfl, rfl, hseen.trans (by decide),
    (hlookUps _).trans (by simp [calls, row, p])⟩

end RecordMapping
