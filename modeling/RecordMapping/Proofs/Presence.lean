import RecordMapping.Projector

/-!
# RecordMapping.Proofs.Presence — a shared index never shows in a result

An index remembers the positions of columns from row to row and may serve several projectors in
turn.  `Faithful` says that what it remembers of a shape is what a new look at the shape finds.
Every visit keeps that, whatever shapes came before, so a projector with a used index gives what
it gives with a new one.
-/

namespace RecordMapping

/-! ### Columns by name -/

theorem Text.sameIgnoringCase_iff {a b : String} :
    sameIgnoringCase a b = true ↔ a.toList.map Char.toLower = b.toList.map Char.toLower :=
  decide_eq_true_iff

namespace Shape

variable {s : Shape} {name : String}

/-- Either lookup finds a column that fits the name. -/
theorem fits_of_ordinal? {i : Nat} (h : s.ordinal? name = some i) :
    ∃ column, s.columns[i]? = some column ∧ Text.sameIgnoringCase column name = true := by
  unfold ordinal? find? at h
  rcases Option.or_eq_some_iff.mp h with hexact | ⟨-, hcase⟩
  · obtain ⟨hi, hfits, -⟩ := List.findIdx?_eq_some_iff_getElem.mp hexact
    refine ⟨s.columns[i], List.getElem?_eq_getElem hi, Text.sameIgnoringCase_iff.mpr ?_⟩
    rw [of_decide_eq_true hfits]
  · obtain ⟨hi, hfits, -⟩ := List.findIdx?_eq_some_iff_getElem.mp hcase
    exact ⟨s.columns[i], List.getElem?_eq_getElem hi, hfits⟩

theorem ordinal?_lt_width {i : Nat} (h : s.ordinal? name = some i) : i < s.width := by
  obtain ⟨column, hcolumn, -⟩ := fits_of_ordinal? h
  exact (List.getElem?_eq_some_iff.mp hcolumn).1

end Shape

/-! ### What an index remembers -/

namespace PresenceIndex

variable {index : PresenceIndex}

/-- The positions kept for a shape are those of the table's columns in that shape. -/
def Faithful (index : PresenceIndex) : Prop :=
  ∀ r ∈ index.shapes, r.ordinals = index.table.columns.map r.shape.ordinal?

theorem faithful_empty (table : ColumnTable) : (empty table).Faithful := by
  intro r hr
  exact absurd hr List.not_mem_nil

@[simp] theorem table_forTable (index : PresenceIndex) (table : ColumnTable) :
    (index.forTable table).table = table := by
  unfold forTable
  split
  · assumption
  · rfl

theorem Faithful.forTable (h : index.Faithful) (table : ColumnTable) :
    (index.forTable table).Faithful := by
  unfold PresenceIndex.forTable
  split
  · exact h
  · exact faithful_empty table

/-- The current position is looked at first, but it answers only for its own shape. -/
theorem shape_of_position? {shape : Shape} {i : Nat} (h : index.position? shape = some i) :
    ∃ r, index.shapes[i]? = some r ∧ r.shape = shape := by
  unfold position? at h
  split at h
  · rename_i hc
    obtain rfl : index.current = i := Option.some.inj h
    obtain ⟨r, hr, hs⟩ := (Option.any_eq_true _ _).mp hc
    exact ⟨r, hr, of_decide_eq_true hs⟩
  · obtain ⟨hi, hp, -⟩ := List.findIdx?_eq_some_iff_getElem.mp h
    exact ⟨index.shapes[i], List.getElem?_eq_getElem hi, of_decide_eq_true hp⟩

theorem Faithful.visit (h : index.Faithful) (row : Row) : (index.visit row).1.Faithful := by
  unfold PresenceIndex.visit
  split
  · exact h
  · intro r hr
    rcases List.mem_append.mp hr with hold | hnew
    · exact h r hold
    · obtain rfl : r = lookUp index.table row := List.mem_singleton.mp hnew
      rfl

/-- After a visit the current positions are those of the row at hand. -/
theorem Faithful.ordinals_visit (h : index.Faithful) (row : Row) :
    (index.visit row).1.ordinals = index.table.columns.map row.ordinal? := by
  unfold PresenceIndex.visit ordinals
  split
  · rename_i i hi
    obtain ⟨r, hr, hs⟩ := shape_of_position? hi
    have hkept : r.ordinals = index.table.columns.map r.shape.ordinal? :=
      h r (List.mem_of_getElem? hr)
    rw [hr, Option.map_some, Option.getD_some, hkept, hs]
    rfl
  · rw [List.getElem?_concat_length, Option.map_some, Option.getD_some]
    rfl

end PresenceIndex

/-! ### Projecting with a used index -/

namespace Projector

variable {τ σ : Type} {index : PresenceIndex}

/-- The rules with the positions of their columns, as a new look at the row finds them. -/
def bindings (p : Projector τ σ) (row : Row) : List (Rule σ × Option Nat) :=
  p.rules.zip (p.columns.map row.ordinal?)

/-- The positions that a projection works with. -/
theorem zip_ordinals (p : Projector τ σ) (row : Row) (h : index.Faithful) :
    p.rules.zip ((index.forTable p.table).visit row).1.ordinals = p.bindings row := by
  rw [(h.forTable p.table).ordinals_visit row, PresenceIndex.table_forTable]
  rfl

variable [Target σ]

theorem index_project (p : Projector τ σ) (row : Row) (index : PresenceIndex) :
    (p.project row index).value.2 = ((index.forTable p.table).visit row).1 := rfl

theorem result_project (p : Projector τ σ) (row : Row) (h : index.Faithful) :
    (p.project row index).value.1 =
      (fillAll p.targetType p.strict row (p.bindings row) Target.initial).value := by
  rw [← p.zip_ordinals row h]
  rfl

theorem result_projectOne (p : Projector τ σ) (row : Row) :
    (p.projectOne row).value =
      (fillAll p.targetType p.strict row (p.bindings row) Target.initial).value :=
  p.result_project row (PresenceIndex.faithful_empty p.table)

theorem project_eq_projectOne (p : Projector τ σ) (row : Row) (h : index.Faithful) :
    (p.project row index).value.1 = (p.projectOne row).value := by
  rw [p.result_project row h, p.result_projectOne row]

theorem faithful_project (p : Projector τ σ) (row : Row) (h : index.Faithful) :
    (p.project row index).value.2.Faithful := by
  rw [index_project]
  exact (h.forTable p.table).visit row

end Projector

/-! ### Histories of an index -/

/-- A row handed to a projector, of any target type. -/
structure ProjectCall where
  {τ σ : Type}
  [target : Target σ]
  projector : Projector τ σ
  row : Row

namespace ProjectCall

instance (call : ProjectCall) : Target call.σ := call.target

/-- What a call may answer. -/
abbrev Answer (call : ProjectCall) : Type := Except BindingFailure call.σ

/-- The answer of a call that shares an index, and the index after it. -/
def withIndex (call : ProjectCall) (index : PresenceIndex) : call.Answer × PresenceIndex :=
  (call.projector.project call.row index).value

/-- The answer of a call with an index of its own. -/
def alone (call : ProjectCall) : call.Answer :=
  (call.projector.projectOne call.row).value

end ProjectCall

namespace PresenceIndex

/-- The answers of calls that share an index, each with its call. -/
def projectAll : PresenceIndex → List ProjectCall → List ((call : ProjectCall) × call.Answer)
  | _, [] => []
  | index, call :: rest =>
    let (answer, next) := call.withIndex index
    ⟨call, answer⟩ :: projectAll next rest

/-- An index that calls to projectors have made out of a new one. -/
inductive Reachable : PresenceIndex → Prop
  | new (table : ColumnTable) : Reachable (empty table)
  | project {index : PresenceIndex} (h : Reachable index) (call : ProjectCall) :
    Reachable (call.withIndex index).2

theorem Reachable.faithful {index : PresenceIndex} (h : index.Reachable) : index.Faithful := by
  induction h with
  | new table => exact faithful_empty table
  | project _ call ih => exact call.projector.faithful_project call.row ih

theorem Faithful.projectAll {index : PresenceIndex} (h : index.Faithful)
    (calls : List ProjectCall) :
    index.projectAll calls = calls.map fun call => ⟨call, call.alone⟩ := by
  induction calls generalizing index with
  | nil => rfl
  | cons call rest ih =>
    have hanswer : (call.withIndex index).1 = call.alone :=
      call.projector.project_eq_projectOne call.row h
    have hnext : (call.withIndex index).2.Faithful := call.projector.faithful_project call.row h
    rw [PresenceIndex.projectAll, List.map_cons, ← hanswer, ← ih hnext]

/-- Calls in any order, by any projectors, over rows of any shapes: sharing an index changes no
answer. -/
theorem projectAll_eq_alone (table : ColumnTable) (calls : List ProjectCall) :
    (empty table).projectAll calls = calls.map fun call => ⟨call, call.alone⟩ :=
  (faithful_empty table).projectAll calls

end PresenceIndex

end RecordMapping
