import RecordMapping.Command.Program
import RecordMapping.Proofs.JsonText
import RecordMapping.Proofs.TableCommands

/-!
# RecordMapping.Proofs.PrintedRecords — all records of a table or none

A mapping goes through all rows before a run prints its first line, so a run prints either the whole
table or nothing.  It prints just when the cursor of the session reaches the end of its rows and
each of them has a record (`Command.MapsRows`).  The document of a record is `Text.Unbroken`, so the
line feeds on the output are the ends of its lines, one for each row.
-/

namespace RecordMapping

/-! ### Rows that a source delivers -/

/-- The rows of a source, from the first to the last. -/
structure RowSource.Delivers {γ : Type} [RowSource γ] (c : γ) (rows : List Row) : Prop where
  moves (k : Nat) (row : Row) : rows[k]? = some row →
    (RowSource.advance (RowSource.moved c k)).1 = .ok true ∧
      RowSource.row (RowSource.moved c (k + 1)) = row
  ends : (RowSource.advance (RowSource.moved c rows.length)).1 = .ok false

/-- All records of a source are those of the rows that it delivers, in their order. -/
theorem Stream.traverses_iff_delivers {γ τ σ : Type} [RowSource γ] [Target σ] {p : Projector τ σ}
    {c : γ} {rs : List σ} :
    Traverses p c rs ↔ ∃ rows, RowSource.Delivers c rows ∧
      List.Forall₂ (fun r row => (p.projectOne row).value = .ok r) rs rows := by
  constructor
  · intro h
    have hmaps {k : Nat} (hk : k < rs.length) := h.begins k rs[k] (List.getElem?_eq_getElem hk)
    let rows := (List.range rs.length).map fun k => RowSource.row (RowSource.moved c (k + 1))
    have hlength : rows.length = rs.length := by simp [rows]
    refine ⟨rows, ⟨?_, ?_⟩, List.forall₂_iff_get.mpr ⟨hlength.symm, ?_⟩⟩
    · intro k row hrow
      obtain ⟨hk, rfl⟩ := List.getElem?_eq_some_iff.mp hrow
      exact ⟨(hmaps (hlength ▸ hk)).moves, by simp [rows]⟩
    · rw [hlength]
      exact h.ends
    · intro k hk _
      simpa [rows] using (hmaps hk).gives
  · rintro ⟨rows, hrows, hrecords⟩
    obtain ⟨hlength, hgives⟩ := List.forall₂_iff_get.mp hrecords
    refine ⟨?_, hlength ▸ hrows.ends⟩
    intro k r hr
    obtain ⟨hk, rfl⟩ := List.getElem?_eq_some_iff.mp hr
    have hk' : k < rows.length := hlength ▸ hk
    obtain ⟨hmoves, hrow⟩ := hrows.moves k rows[k] (List.getElem?_eq_getElem hk')
    exact ⟨rfl, hmoves, by rw [hrow]; exact hgives k hk hk'⟩

/-! ### Lines -/

/-- Lines without line feeds are found again by the line feeds after them. -/
theorem splitOn_lines {lines : List (List Char)} (h : ∀ line ∈ lines, '\n' ∉ line) :
    (lines.flatMap fun line => line ++ ['\n']).splitOn '\n' = lines ++ [[]] := by
  induction lines with
  | nil => exact List.splitOn_nil '\n'
  | cons line rest ih =>
    obtain ⟨hline, hrest⟩ := List.forall_mem_cons.mp h
    rw [List.flatMap_cons, List.append_assoc, List.singleton_append,
      List.splitOn_append_cons_self_of_not_mem hline, ih hrest]
    rfl

namespace Command

/-- The text that a run prints; every line is ended. -/
def Outcome.printed (o : Outcome) : List Char := o.output.flatMap fun line => line.toList ++ ['\n']

/-! ### Runs of the map command -/

/-- A session starts, its cursor delivers these rows, and the rows have these records. -/
def MapsRows (files : Files) (i : Input) (strict : Bool) (rows : List Row)
    (records : List Record) : Prop :=
  ∃ s, (Session.start files i strict).value = .ok s ∧ RowSource.Delivers s.cursor rows ∧
    List.Forall₂ (fun record row => (s.projector.projectOne row).value = .ok record) records rows

section Runs

variable {surroundings : Surroundings} {words : List String} {run : Run} {i : Input}
  {strict : Bool} {format : OutputFormat}

theorem exists_mapsRows_iff {files : Files} {records : List Record} :
    (∃ rows, MapsRows files i strict rows records) ↔
      ∃ m, (mapTable files i strict).value = .ok m ∧ m.records = records := by
  constructor
  · rintro ⟨rows, s, hstart, hrows, hrecords⟩
    have htraverses := Stream.traverses_iff_delivers.mpr ⟨rows, hrows, hrecords⟩
    exact ⟨_, mapTable_eq_ok_iff.mpr ⟨s, records, hstart, htraverses, rfl⟩, rfl⟩
  · rintro ⟨m, hmap, rfl⟩
    obtain ⟨s, records, hstart, htraverses, rfl⟩ := mapTable_eq_ok_iff.mp hmap
    obtain ⟨rows, hrows, hrecords⟩ := Stream.traverses_iff_delivers.mp htraverses
    exact ⟨rows, s, hstart, hrows, hrecords⟩

/-- The whole mapping decides before a line is printed. -/
theorem execute_map (hwords : readArguments words = .ok run)
    (hrequest : run.request = .map i strict format)
    (hlog : run.openLog surroundings.files = .ok ()) :
    (∃ m, (mapTable surroundings.files i strict).value = .ok m ∧
      (execute surroundings words).exitCode = 0 ∧
      (execute surroundings words).output = m.report format) ∨
    ∃ e, (mapTable surroundings.files i strict).value = .error e ∧
      (execute surroundings words).exitCode = 1 ∧ (execute surroundings words).output = [] := by
  have hexecute : execute surroundings words = run.execute surroundings := by
    rw [execute, hwords]
  have hperform : (run.request.perform surroundings.files).value =
      (mapTable surroundings.files i strict).value.map fun m => m.report format := by
    rw [hrequest]
    rfl
  rw [hexecute, Run.execute, hlog]
  dsimp only
  rw [hperform]
  cases (mapTable surroundings.files i strict).value with
  | ok m => exact Or.inl ⟨m, rfl, rfl, rfl⟩
  | error e => exact Or.inr ⟨e, rfl, rfl, rfl⟩

end Runs

end Command

end RecordMapping
