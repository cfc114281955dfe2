import RecordMapping.Proofs.Strictness
import RecordMapping.Row.Memory

/-!
# RecordMapping.Proofs.NamedColumns — cells are found by name

A rule without a condition looks at one cell of the row, the one under its column (`Row.cell?`).
Where that cell stands never shows, so two rows with the same cells under the columns of a projector
have the same result.

Where no two column names differ only in case, a name finds the one column that it fits, whichever
of the two lookups does it.  So the cell under a name depends on the named cells of the row, and not
on their order or on the columns that nobody asks for.
-/

namespace RecordMapping

/-! ### One column for a name -/

namespace Shape

variable {s : Shape} {name column : String}

/-- No two columns differ only in the case of ASCII letters. -/
def Distinct (s : Shape) : Prop :=
  s.columns.Pairwise fun a b => ¬ Text.sameIgnoringCase a b = true

instance : Decidable s.Distinct := inferInstanceAs (Decidable (List.Pairwise _ _))

theorem ordinal?_eq_none :
    s.ordinal? name = none ↔
      ∀ column ∈ s.columns, ¬ Text.sameIgnoringCase column name = true := by
  constructor
  · intro h column hcolumn
    unfold ordinal? find? at h
    have hcase := List.findIdx?_eq_none_iff.mp (Option.or_eq_none_iff.mp h).2 column hcolumn
    exact Bool.eq_false_iff.mp hcase
  · intro h
    cases hfound : s.ordinal? name with
    | none => rfl
    | some i =>
      obtain ⟨column, hcolumn, hfits⟩ := fits_of_ordinal? hfound
      exact absurd hfits (h column (List.mem_of_getElem? hcolumn))

/-- Two places for one name would be two columns that differ only in case. -/
theorem Distinct.unique (h : s.Distinct) {i j : Nat} {a b : String} (hi : s.columns[i]? = some a)
    (hj : s.columns[j]? = some b) (ha : Text.sameIgnoringCase a name = true)
    (hb : Text.sameIgnoringCase b name = true) : i = j := by
  obtain ⟨hin, rfl⟩ := List.getElem?_eq_some_iff.mp hi
  obtain ⟨hjn, rfl⟩ := List.getElem?_eq_some_iff.mp hj
  have hsame :=
    (Text.sameIgnoringCase_iff.mp ha).trans (Text.sameIgnoringCase_iff.mp hb).symm
  have hpairs := List.pairwise_iff_getElem.mp h
  rcases Nat.lt_trichotomy i j with hlt | heq | hlt
  · exact absurd (Text.sameIgnoringCase_iff.mpr hsame) (hpairs i j hin hjn hlt)
  · exact heq
  · exact absurd (Text.sameIgnoringCase_iff.mpr hsame.symm) (hpairs j i hjn hin hlt)

theorem Distinct.ordinal?_eq_some (h : s.Distinct) {i : Nat} (hi : s.columns[i]? = some column)
    (hfits : Text.sameIgnoringCase column name = true) : s.ordinal? name = some i := by
  cases hfound : s.ordinal? name with
  | none => exact absurd hfits (ordinal?_eq_none.mp hfound column (List.mem_of_getElem? hi))
  | some j =>
    obtain ⟨column', hj, hfits'⟩ := fits_of_ordinal? hfound
    rw [h.unique hj hi hfits' hfits]

end Shape

/-! ### One cell for a rule -/

/-- What a row answers about the cell under a name. -/
def Row.cell? (row : Row) (name : String) : Option (Bool × Except CursorError Value) :=
  (row.ordinal? name).map fun i => (row.isNull i, row.read i)

/-- A rule without a condition fills its property from the cell under its column. -/
theorem Rule.fill_of_cell? {σ : Type} {r : Rule σ} (hplain : r.condition = none) {row row' : Row}
    (h : row.cell? r.column = row'.cell? r.column) (strict : Bool) (target : σ) :
    r.fill strict row (row.ordinal? r.column) target =
      r.fill strict row' (row'.ordinal? r.column) target := by
  have haccepts : ∀ row, r.accepts row = true := by
    intro row
    rw [Rule.accepts, hplain]
    rfl
  unfold Row.cell? at h
  cases hi : row.ordinal? r.column with
  | none =>
    cases hj : row'.ordinal? r.column with
    | none => simp only [fill, haccepts]
    | some j =>
      rw [hi, hj] at h
      cases h
  | some i =>
    cases hj : row'.ordinal? r.column with
    | none =>
      rw [hi, hj] at h
      cases h
    | some j =>
      rw [hi, hj] at h
      obtain ⟨hnull, hread⟩ := Prod.mk.inj (Option.some.inj h)
      simp only [fill, assign, haccepts, hnull, hread]

namespace Projector

/-- A run through rules without conditions knows a row by the cells under their columns. -/
theorem run_of_cells {σ : Type} {targetType : String} {strict : Bool} {rules : List (Rule σ)}
    (hplain : ∀ r ∈ rules, r.condition = none) {row row' : Row}
    (h : ∀ name ∈ rules.map Rule.column, row.cell? name = row'.cell? name) (target : σ) :
    rules.foldlM (takeRule targetType strict row) target =
      rules.foldlM (takeRule targetType strict row') target := by
  refine run_congr ?_
  intro r hr left
  unfold takeRule
  rw [Rule.fill_of_cell? (hplain r hr) (h r.column (List.mem_map_of_mem hr))]

/-- The places of the cells, and what an index remembers of them, do not matter. -/
theorem project_of_cells {τ σ : Type} [DecidableEq τ] [Target σ] {serial : Nat} {target : τ}
    {s : RuleSet σ} {f : Fingerprint τ} {p : Projector τ σ}
    (hcompile : (compile serial target s f).value = .ok p)
    (hplain : ∀ r ∈ s.rules, r.condition = none) {row row' : Row} {index index' : PresenceIndex}
    (hindex : index.Reachable) (hindex' : index'.Reachable)
    (h : ∀ name ∈ p.columns, row.cell? name = row'.cell? name) :
    (p.project row index).value.1 = (p.project row' index').value.1 := by
  rw [project_eq_run hcompile hindex.faithful, project_eq_run hcompile hindex'.faithful]
  refine run_of_cells hplain ?_ Target.initial
  obtain rfl := compile_ok hcompile
  exact h

end Projector

/-! ### Rows in memory -/

namespace MemoryCursor

/-- The cells of the row at hand, each with the name of its column. -/
def fields (c : MemoryCursor) : List (String × Value) := c.shape.columns.zip (c.current.getD [])

/-- A row with one cell for each column and no two columns that differ only in case. -/
structure Plain (c : MemoryCursor) : Prop where
  cells : ∃ cells, c.current = some cells ∧ cells.length = c.shape.width
  distinct : c.shape.Distinct

/-- No row has a column of that name, or both have one and the same value under it. -/
def AgreeOn (name : String) (c c' : MemoryCursor) : Prop :=
  (∀ column ∈ c.shape.columns ++ c'.shape.columns, ¬ Text.sameIgnoringCase column name = true) ∨
  ∃ f ∈ c.fields, ∃ f' ∈ c'.fields, Text.sameIgnoringCase f.1 name = true ∧
    Text.sameIgnoringCase f'.1 name = true ∧ f.2 = f'.2

/-- The fields that some of the names ask for. -/
def fieldsFor (names : List String) (c : MemoryCursor) : List (String × Value) :=
  c.fields.filter fun f => names.any fun name => Text.sameIgnoringCase f.1 name

variable {c c' : MemoryCursor} {name : String} {names : List String}

theorem cell?_eq_none (h : ∀ column ∈ c.shape.columns, ¬ Text.sameIgnoringCase column name = true) :
    c.row.cell? name = none := by
  unfold Row.cell?
  rw [Option.map_eq_none_iff]
  exact Shape.ordinal?_eq_none.mpr h

/-- The value of the field that fits a name is the cell under the name. -/
theorem Plain.cell?_of_mem (h : c.Plain) {f : String × Value} (hf : f ∈ c.fields)
    (hfits : Text.sameIgnoringCase f.1 name = true) :
    c.row.cell? name = some (f.2.isNull, .ok f.2) := by
  obtain ⟨cells, hcells, -⟩ := h.cells
  unfold fields at hf
  rw [hcells, Option.getD_some] at hf
  obtain ⟨i, hi⟩ := List.mem_iff_getElem?.mp hf
  obtain ⟨hcolumn, hcell⟩ := List.getElem?_zip_eq_some.mp hi
  have hordinal : c.row.ordinal? name = some i := h.distinct.ordinal?_eq_some hcolumn hfits
  have hnull : c.row.isNull i = f.2.isNull := by
    show c.isNull i = _
    simp [isNull, hcells, hcell]
  have hread : c.row.read i = .ok f.2 := by
    show c.read i = _
    simp [read, hcells, hcell]
  rw [Row.cell?, hordinal, Option.map_some, hnull, hread]

theorem cell?_of_agreeOn (h : c.Plain) (h' : c'.Plain) (hagree : AgreeOn name c c') :
    c.row.cell? name = c'.row.cell? name := by
  rcases hagree with hnone | ⟨f, hf, f', hf', hfits, hfits', hvalue⟩
  · obtain ⟨hleft, hright⟩ := List.forall_mem_append.mp hnone
    rw [cell?_eq_none hleft, cell?_eq_none hright]
  · rw [h.cell?_of_mem hf hfits, h'.cell?_of_mem hf' hfits', hvalue]

/-- With one cell for each column, a column that fits a name belongs to a field. -/
theorem Plain.field_of_column (h : c.Plain) {column : String} (hcolumn : column ∈ c.shape.columns) :
    ∃ f ∈ c.fields, f.1 = column := by
  obtain ⟨cells, hcells, hwidth⟩ := h.cells
  have hnames : c.fields.map Prod.fst = c.shape.columns := by
    unfold fields
    rw [hcells, Option.getD_some]
    exact List.map_fst_zip (Nat.le_of_eq hwidth.symm)
  rw [← hnames] at hcolumn
  exact List.mem_map.mp hcolumn

/-- Rows agree on all names that ask for the same fields of both, in whatever order these stand. -/
theorem agreeOn_of_perm (h : c.Plain) (h' : c'.Plain)
    (hperm : (c.fieldsFor names).Perm (c'.fieldsFor names)) (hname : name ∈ names) :
    AgreeOn name c c' := by
  have hboth : ∀ f, Text.sameIgnoringCase f.1 name = true → (f ∈ c.fields ↔ f ∈ c'.fields) := by
    intro f hfits
    have hasked : names.any (fun name => Text.sameIgnoringCase f.1 name) = true :=
      List.any_eq_true.mpr ⟨name, hname, hfits⟩
    have hmem := hperm.mem_iff (a := f)
    unfold fieldsFor at hmem
    rw [List.mem_filter, List.mem_filter] at hmem
    simpa [hasked] using hmem
  by_cases hfound : ∃ f ∈ c.fields, Text.sameIgnoringCase f.1 name = true
  · obtain ⟨f, hf, hfits⟩ := hfound
    exact Or.inr ⟨f, hf, f, (hboth f hfits).mp hf, hfits, hfits, rfl⟩
  · left
    intro column hcolumn hfits
    rcases List.mem_append.mp hcolumn with hcolumn | hcolumn
    · obtain ⟨f, hf, rfl⟩ := h.field_of_column hcolumn
      exact hfound ⟨f, hf, hfits⟩
    · obtain ⟨f, hf, rfl⟩ := h'.field_of_column hcolumn
      exact hfound ⟨f, (hboth f hfits).mpr hf, hfits⟩

end MemoryCursor

/-! ### Two rows, one result -/

open MemoryCursor (AgreeOn)

/-- Rules without conditions give two rows the same result, be it a record or a failure, if for each
column of the projector neither row has it or both have the same value there.  That is so when the
fields that the projector asks for are the same in both, whatever their order and whatever other
columns stand between them. -/
theorem columns_matter_by_name {τ σ : Type} [DecidableEq τ] [Target σ] {serial : Nat} {target : τ}
    {s : RuleSet σ} {f : Fingerprint τ} {p : Projector τ σ}
    (hcompile : (Projector.compile serial target s f).value = .ok p)
    (hplain : ∀ r ∈ s.rules, r.condition = none) {c c' : MemoryCursor} (hc : c.Plain)
    (hc' : c'.Plain) {index index' : PresenceIndex} (hindex : index.Reachable)
    (hindex' : index'.Reachable) :
    ((∀ name ∈ p.columns, AgreeOn name c c') →
      (p.project c.row index).value.1 = (p.project c'.row index').value.1) ∧
    ((c.fieldsFor p.columns).Perm (c'.fieldsFor p.columns) →
      (p.project c.row index).value.1 = (p.project c'.row index').value.1) := by
  have hagree : (∀ name ∈ p.columns, AgreeOn name c c') →
      (p.project c.row index).value.1 = (p.project c'.row index').value.1 := by
    intro h
    refine Projector.project_of_cells hcompile hplain hindex hindex' ?_
    intro name hname
    exact MemoryCursor.cell?_of_agreeOn hc hc' (h name hname)
  refine ⟨hagree, ?_⟩
  intro hperm
  refine hagree ?_
  intro name hname
  exact MemoryCursor.agreeOn_of_perm hc hc' hperm hname

/-- An order whose columns stand the other way round, in capitals and behind a note.  It gives the
same record, and where the number cannot be read the same failure. -/
theorem columns_matter_by_name_order :
    ∃ (s : RuleSet Record) (p : Projector Unit Record) (row moved : Value → MemoryCursor),
      (RuleSet.build (Schema.describe ⟨"Order", [⟨"Id", .int, none, false⟩,
        ⟨"Customer", .text, some "customer_name", false⟩]⟩) [] true).value = .ok s ∧
      (Projector.compile 0 () s (.ofRuleSet () s "orders")).value = .ok p ∧
      (∀ r ∈ s.rules, r.condition = none) ∧ p.presenceIndex.Reachable ∧
      (∀ id, (row id).Plain ∧ (moved id).Plain ∧
        ∀ name ∈ p.columns, AgreeOn name (row id) (moved id)) ∧
      (row (.text "7")).shape.columns = ["Id", "customer_name"] ∧
      (moved (.text "7")).shape.columns = ["note", "CUSTOMER_NAME", "ID"] ∧
      (p.project (moved (.text "7")).row p.presenceIndex).value.1 =
        .ok ⟨[("Id", .int 7), ("Customer", .text "Ada")]⟩ ∧
      ∃ cause, (p.project (moved (.text "x")).row p.presenceIndex).value.1 =
        .error ⟨"Id", "Id", "Order", .int, none, .conversion cause⟩ := by
  let s : RuleSet Record := ⟨"Order",
    [.ofProperty (SchemaProperty.toProperty ⟨"Id", .int, none, false⟩),
      .ofProperty (SchemaProperty.toProperty ⟨"Customer", .text, some "customer_name", false⟩)],
    true⟩
  let p : Projector Unit Record :=
    ⟨.ofRuleSet () s "orders", "Order", ⟨0, ["Id", "customer_name"]⟩, s.rules, true⟩
  let row (id : Value) : MemoryCursor :=
    ⟨⟨["Id", "customer_name"]⟩, some [id, .text "Ada"], [], [], 1, none⟩
  let moved (id : Value) : MemoryCursor :=
    ⟨⟨["note", "CUSTOMER_NAME", "ID"]⟩, some [.null, .text "Ada", id], [], [], 1, none⟩
  have hcompile : (Projector.compile 0 () s (.ofRuleSet () s "orders")).value = .ok p := rfl
  have hplain : ∀ r ∈ s.rules, r.condition = none := by
    intro r hr
    simp only [s, List.mem_cons, List.not_mem_nil, or_false] at hr
    rcases hr with rfl | rfl <;> rfl
  have hindex : p.presenceIndex.Reachable := .new p.table
  have hshape : Shape.Distinct ⟨["Id", "customer_name"]⟩ := by decide
  have hshape' : Shape.Distinct ⟨["note", "CUSTOMER_NAME", "ID"]⟩ := by decide
  have hrow : ∀ id, (row id).Plain := fun id => ⟨⟨_, rfl, rfl⟩, hshape⟩
  have hmoved : ∀ id, (moved id).Plain := fun id => ⟨⟨_, rfl, rfl⟩, hshape'⟩
  have hagree : ∀ id, ∀ name ∈ p.columns, AgreeOn name (row id) (moved id) := by
    intro id name hname
    have hname : name = "Id" ∨ name = "customer_name" := by
      simpa [p, Projector.columns] using hname
    have hid : Text.sameIgnoringCase "Id" "Id" = true := by decide
    have hcapital : Text.sameIgnoringCase "ID" "Id" = true := by decide
    right
    rcases hname with rfl | rfl
    · exact ⟨("Id", id), by simp [row, MemoryCursor.fields], ("ID", id),
        by simp [moved, MemoryCursor.fields], hid, hcapital, rfl⟩
    · exact ⟨("customer_name", .text "Ada"), by simp [row, MemoryCursor.fields],
        ("CUSTOMER_NAME", .text "Ada"), by simp [moved, MemoryCursor.fields], by decide,
        by decide, rfl⟩
  have hsame : ∀ id, (p.project (row id).row p.presenceIndex).value.1 =
      (p.project (moved id).row p.presenceIndex).value.1 := fun id =>
    (columns_matter_by_name hcompile hplain (hrow id) (hmoved id) hindex hindex).1 (hagree id)
  refine ⟨s, p, row, moved, rfl, hcompile, hplain, hindex,
    fun id => ⟨hrow id, hmoved id, hagree id⟩, rfl, rfl, ?_, ?_⟩
  · rw [← hsame]
    rfl
  · rw [← hsame]
    exact ⟨_, rfl⟩

end RecordMapping
