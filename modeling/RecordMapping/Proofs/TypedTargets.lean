import RecordMapping.Proofs.ConfiguredRules
import RecordMapping.Proofs.Strictness
import RecordMapping.Row.Csv.Cursor
import RecordMapping.Row.Memory
import Mathlib.Data.List.Pairwise

/-!
# RecordMapping.Proofs.TypedTargets — typed and dynamic targets that are declared alike

A type of independent fields and a schema may declare the same properties.  Configured alike they make
the same rules but for the targets (`RuleSet.build_like`), since overrides never look at a target.

A record has fields for what was assigned, a typed target has all its fields from the start.  So a
target mirrors a record (`Mirrors`) if it has the record's values where the record has any, and is as
it was elsewhere.  Each rule keeps that up or fails on both for the same cause, since both read values
by the same conversion (`coerce_eq_read`).  They part on nulls alone, which a record takes for any
kind: a row that hands out a null and does not call it one misleads the rule (`Rule.Misled`), and the
typed target stops there.  Rows of either kind of cursor mislead no rule.
-/

namespace RecordMapping

/-! ### Nulls that are not told -/

/-- A cell that the row does not call null is not read as null. -/
def Row.TellsNulls (row : Row) : Prop := ∀ i, row.isNull i = false → row.read i ≠ .ok .null

/-- The rule fills its property, of a kind without nulls, from a null that the row does not tell. -/
def Rule.Misled {σ : Type} (r : Rule σ) (row : Row) : Prop :=
  r.kind ≠ .any ∧ r.accepts row = true ∧
    ∃ i, row.ordinal? r.column = some i ∧ row.isNull i = false ∧ row.read i = .ok .null

theorem Row.TellsNulls.not_misled {row : Row} (h : row.TellsNulls) {σ : Type} (r : Rule σ) :
    ¬ r.Misled row := by
  rintro ⟨-, -, i, -, hnull, hread⟩
  exact h i hnull hread

theorem MemoryCursor.tellsNulls (c : MemoryCursor) : c.row.TellsNulls := by
  intro i hnull hread
  change c.isNull i = false at hnull
  change c.read i = .ok .null at hread
  unfold MemoryCursor.isNull at hnull
  unfold MemoryCursor.read at hread
  cases hcurrent : c.current with
  | none =>
    rw [hcurrent] at hread
    cases hread
  | some cells =>
    rw [hcurrent] at hnull hread
    cases hcell : cells[i]? with
    | none =>
      simp only [hcell] at hread
      cases hread
    | some v =>
      simp only [hcell, Option.any_some] at hnull hread
      obtain rfl := Except.ok.inj hread
      cases hnull

theorem CsvCursor.tellsNulls (c : CsvCursor) : c.row.TellsNulls := by
  intro i hnull hread
  change c.isNull i = false at hnull
  change c.read i = .ok .null at hread
  unfold CsvCursor.isNull at hnull
  unfold CsvCursor.read at hread
  cases hcell : c.cell i with
  | error e =>
    rw [hcell] at hread
    cases hread
  | ok text =>
    rw [hcell] at hnull hread
    cases text with
    | none => cases hnull
    | some text => cases hread

/-! ### Fields -/

/-- The type of a field of the kind. -/
def Kind.scalar : Kind → Scalar
  | bool => .bool
  | int => .int64
  | float => .float
  | text => .text
  | bytes => .bytes
  | any => .value

@[simp] theorem Kind.kind_scalar (k : Kind) : k.scalar.kind = k := by
  cases k <;> rfl

/-- A record converts as a field of the kind does, but for nulls. -/
theorem coerce_eq_read (k : Kind) {v : Value} (h : v = .null → k = .any) :
    coerce k v = (k.scalar.read v).map k.scalar.write := by
  by_cases hv : v = .null
  · rw [hv, h hv]
    rfl
  · unfold coerce
    rw [if_neg (mt Value.isNull_eq_true.mp hv)]
    cases k with
    | any => rfl
    | bool | int | float | text | bytes => rfl

theorem read_null {k : Kind} (h : k ≠ .any) :
    k.scalar.read .null = .error (.unexpectedNull k.scalar) := by
  cases k with
  | any => exact absurd rfl h
  | bool | int | float | text | bytes => rfl

/-- A field of a target that keeps what is written into it. -/
structure Field (σ : Type) where
  name : String
  kind : Kind
  column : Option String
  get : σ → kind.scalar.Carrier
  set : σ → kind.scalar.Carrier → σ
  get_set : ∀ t a, get (set t a) = a

namespace Field

variable {σ : Type}

def property (f : Field σ) : Property σ :=
  { Property.ofField f.name ⟨f.kind.scalar, false⟩ f.get f.set with column := f.column }

@[simp] theorem kind_property (f : Field σ) : f.property.kind = f.kind := f.kind.kind_scalar

theorem get_property (f : Field σ) (t : σ) : f.property.get t = f.kind.scalar.write (f.get t) := rfl

theorem set_property (f : Field σ) (t : σ) (v : Value) :
    f.property.set t v = (f.kind.scalar.read v).map (f.set t) :=
  Property.set_ofField f.name ⟨f.kind.scalar, false⟩ f.get f.set t v

/-- Writing one of the fields leaves the other alone. -/
structure Apart (f g : Field σ) : Prop where
  left : ∀ t a, f.get (g.set t a) = f.get t
  right : ∀ t a, g.get (f.set t a) = g.get t

instance : Std.Symm (Apart (σ := σ)) := ⟨fun _ _ h => ⟨h.right, h.left⟩⟩

end Field

/-! ### Rules of a schema that declares the same properties -/

section Like

variable {σ : Type}

/-- The property as a schema declares it. -/
def Property.declared (p : Property σ) : SchemaProperty := ⟨p.name, p.kind, p.column, !p.settable⟩

/-- The schema of the same name that declares the same properties. -/
def Schema.like (typeName : String) (properties : List (Property σ)) : Schema :=
  ⟨typeName, properties.map Property.declared⟩

def Property.onRecord (p : Property σ) : Property Record := p.declared.toProperty

def Descriptor.onRecord (d : Descriptor σ) : Descriptor Record where
  typeName := d.typeName
  properties := d.properties.map Property.onRecord
  nodup := by
    rw [List.map_map]
    exact d.nodup

def Rule.onRecord (r : Rule σ) : Rule Record :=
  ⟨r.property.onRecord, r.column, r.condition, r.processors⟩

def RuleSet.onRecord (s : RuleSet σ) : RuleSet Record :=
  ⟨s.typeName, s.rules.map Rule.onRecord, s.strict⟩

theorem Rule.onRecord_applyAll (r : Rule σ) (actions : List Action) :
    (r.applyAll actions).onRecord = r.onRecord.applyAll actions := by
  unfold applyAll
  induction actions generalizing r with
  | nil => rfl
  | cons a rest ih =>
    rw [List.foldl_cons, List.foldl_cons, ih]
    cases a <;> rfl

theorem Property.settable_onRecord (p : Property σ) : p.onRecord.settable = p.settable :=
  Bool.not_not p.settable

namespace RuleSet

theorem configure_onRecord (o : Override) (rules : List (Rule σ)) :
    configure o (rules.map Rule.onRecord) = (configure o rules).map (List.map Rule.onRecord) := by
  induction rules with
  | nil => rfl
  | cons r rest ih =>
    rw [List.map_cons]
    unfold configure
    by_cases hname : r.name = o.property
    · have hname' : r.onRecord.name = o.property := hname
      rw [if_pos hname, if_pos hname', ← Rule.onRecord_applyAll]
      rfl
    · have hname' : ¬ r.onRecord.name = o.property := hname
      rw [if_neg hname, if_neg hname', ih]
      cases configure o rest <;> rfl

theorem configureAll_onRecord (typeName : String) (seen : List String) (overrides : List Override)
    (rules : List (Rule σ)) :
    configureAll typeName seen overrides (rules.map Rule.onRecord) =
      (configureAll typeName seen overrides rules).map (List.map Rule.onRecord) := by
  induction overrides generalizing seen rules with
  | nil => rfl
  | cons o rest ih =>
    unfold configureAll
    by_cases hseen : o.property ∈ seen
    · rw [if_pos hseen, if_pos hseen]
      rfl
    · rw [if_neg hseen, if_neg hseen, configure_onRecord]
      cases configure o rules with
      | none => rfl
      | some next => exact ih _ next

theorem ofDescriptor_onRecord (d : Descriptor σ) (overrides : List Override) (strict : Bool) :
    ofDescriptor d.onRecord overrides strict = (ofDescriptor d overrides strict).map onRecord := by
  have heligible : d.onRecord.eligible.map Rule.ofProperty =
      (d.eligible.map Rule.ofProperty).map Rule.onRecord := by
    unfold Descriptor.eligible Descriptor.onRecord
    rw [List.filter_map, List.map_map, List.map_map]
    have hsettable : Property.settable ∘ Property.onRecord (σ := σ) = Property.settable :=
      funext Property.settable_onRecord
    rw [hsettable]
    rfl
  have hname : d.onRecord.typeName = d.typeName := rfl
  unfold ofDescriptor
  rw [heligible, hname, configureAll_onRecord]
  cases configureAll d.typeName [] overrides (d.eligible.map Rule.ofProperty) with
  | error e => rfl
  | ok rules =>
    have hblank : firstBlankColumn (rules.map Rule.onRecord) =
        (firstBlankColumn rules).map Rule.onRecord := List.find?_map
    simp only [Except.map, hblank]
    cases firstBlankColumn rules <;> rfl

/-- Overrides make the same rules of a type and of a schema that declares the same properties, or
fail on both alike. -/
theorem build_like {typeName : String} (hname : ¬ Text.isBlankText typeName = true)
    (properties : List (Property σ)) (overrides : List Override) (strict : Bool) :
    (build (Schema.like typeName properties).describe overrides strict).value =
      (build (Descriptor.make typeName properties) overrides strict).value.map onRecord := by
  have hproperties : (Schema.like typeName properties).properties.map SchemaProperty.toProperty =
      properties.map Property.onRecord := List.map_map
  have hnames : (properties.map Property.onRecord).map Property.name =
      properties.map Property.name := List.map_map
  have hname' : ¬ Text.isBlankText (Schema.like typeName properties).typeName = true := hname
  unfold Schema.describe
  rw [if_neg hname', hproperties]
  cases hrepeated : Descriptor.firstRepeated [] (properties.map Property.name) with
  | some name =>
    have hrepeated' := hrepeated
    rw [← hnames] at hrepeated'
    rw [Descriptor.make_of_repeated hrepeated, Descriptor.make_of_repeated hrepeated']
    rfl
  | none =>
    have hnodup := Descriptor.firstRepeated_nil.mp hrepeated
    have hnodup' := hnodup
    rw [← hnames] at hnodup'
    rw [Descriptor.make_of_nodup hnodup, Descriptor.make_of_nodup hnodup', value_build, value_build]
    exact ofDescriptor_onRecord ⟨typeName, properties, hnodup⟩ overrides strict

end RuleSet

/-- A rule without processors reads a cell and converts it alike for both targets. -/
theorem Rule.assign_onRecord {row : Row} {i : Nat} {r : Rule σ} {f : Field σ}
    (hfield : r.property = f.property) (hplain : r.processors = [])
    (hnull : row.read i = .ok .null → f.kind = .any) (t : σ) (record : Record) :
    (∃ cause, r.assign row i t = .error cause ∧ r.onRecord.assign row i record = .error cause) ∨
    ∃ a, r.assign row i t = .ok (f.set t a) ∧
      r.onRecord.assign row i record = .ok (record.set f.name (f.kind.scalar.write a)) := by
  have hplain' : r.onRecord.processors = [] := hplain
  have hset : r.onRecord.property.set record =
      fun v => (coerce f.kind v).map (record.set f.name) := by
    funext v
    unfold Rule.onRecord Property.onRecord
    rw [SchemaProperty.set_toProperty, hfield, ← f.kind_property]
    rfl
  unfold Rule.assign
  cases hread : row.read i with
  | error e => exact Or.inl ⟨.read e, rfl, rfl⟩
  | ok v =>
    have hv : v = .null → f.kind = .any := by
      rintro rfl
      exact hnull hread
    rw [hplain, hplain', hset, hfield]
    simp only [Rule.process, f.set_property, coerce_eq_read f.kind hv]
    cases f.kind.scalar.read v with
    | error e => exact Or.inl ⟨.conversion e, rfl, rfl⟩
    | ok a => exact Or.inr ⟨a, rfl, rfl⟩

end Like

/-! ### Targets and records -/

section Mirrors

variable {σ : Type} [Target σ] {fields : List (Field σ)} {t : σ} {record : Record}

/-- The target has the values of the record's fields and is as it was everywhere else. -/
structure Mirrors (fields : List (Field σ)) (t : σ) (record : Record) : Prop where
  assigned : ∀ f ∈ fields, ∀ v, record.get? f.name = some v → f.property.get t = v
  initial : ∀ f ∈ fields, record.get? f.name = none → f.get t = f.get Target.initial

theorem mirrors_initial (fields : List (Field σ)) :
    Mirrors fields Target.initial Target.initial := by
  constructor
  · intro f _ v hv
    cases hv
  · intro f _ _
    rfl

/-- Writing a field of both keeps the mirror. -/
theorem Mirrors.set (h : Mirrors fields t record) (hnames : (fields.map Field.name).Nodup)
    (hapart : fields.Pairwise Field.Apart) {f : Field σ} (hf : f ∈ fields)
    (a : f.kind.scalar.Carrier) :
    Mirrors fields (f.set t a) (record.set f.name (f.kind.scalar.write a)) := by
  -- fields of other names are apart from `f`, and so keep what they have on both sides
  have hothers : ∀ g ∈ fields, g = f ∨ g.name ≠ f.name ∧ g.get (f.set t a) = g.get t := by
    intro g hg
    by_cases hname : g.name = f.name
    · exact Or.inl (List.inj_on_of_nodup_map hnames hg hf hname)
    · have hne : g ≠ f := fun heq => hname (congrArg Field.name heq)
      exact Or.inr ⟨hname, (hapart.forall hg hf hne).left t a⟩
  constructor
  · intro g hg v hv
    rcases hothers g hg with rfl | ⟨hname, hget⟩
    · rw [Record.get?_set_self] at hv
      rw [Field.get_property, g.get_set]
      exact Option.some.inj hv
    · rw [Record.get?_set_of_ne record hname] at hv
      rw [Field.get_property, hget]
      exact h.assigned g hg v hv
  · intro g hg hnone
    rcases hothers g hg with rfl | ⟨hname, hget⟩
    · rw [Record.get?_set_self] at hnone
      cases hnone
    · rw [Record.get?_set_of_ne record hname] at hnone
      rw [hget]
      exact h.initial g hg hnone

/-- What rules make of both targets: a target that mirrors a record, where no rule was misled, one
failure of both, or a typed target that stopped at a misled rule. -/
inductive Alike (fields : List (Field σ)) (typeName : String) (row : Row) (rules : List (Rule σ)) :
    Except BindingFailure σ → Except BindingFailure Record → Prop
  | ok {t : σ} {record : Record} (mirrors : Mirrors fields t record)
    (told : ∀ r ∈ rules, ¬ r.Misled row) : Alike fields typeName row rules (.ok t) (.ok record)
  | error (e : BindingFailure) : Alike fields typeName row rules (.error e) (.error e)
  | misled {r : Rule σ} (hr : r ∈ rules) (h : r.Misled row) (right : Except BindingFailure Record) :
    Alike fields typeName row rules
      (.error (Projector.failure typeName r (.conversion (.unexpectedNull r.kind.scalar)))) right

namespace Alike

variable {typeName : String} {row : Row} {rules : List (Rule σ)}
  {left : Except BindingFailure σ} {right : Except BindingFailure Record}

theorem cons {r : Rule σ} (hr : ¬ r.Misled row) (h : Alike fields typeName row rules left right) :
    Alike fields typeName row (r :: rules) left right := by
  cases h with
  | ok mirrors told => exact .ok mirrors (List.forall_mem_cons.mpr ⟨hr, told⟩)
  | error e => exact .error e
  | misled hq h right => exact .misled (List.mem_cons_of_mem r hq) h right

theorem ok_iff (h : Alike fields typeName row rules left right) :
    (∃ t, left = .ok t) ↔ (∃ record, right = .ok record) ∧ ∀ r ∈ rules, ¬ r.Misled row := by
  cases h with
  | @ok t record mirrors told => exact ⟨fun _ => ⟨⟨record, rfl⟩, told⟩, fun _ => ⟨t, rfl⟩⟩
  | error e =>
    constructor
    · rintro ⟨t, ht⟩
      cases ht
    · rintro ⟨⟨record, hrecord⟩, -⟩
      cases hrecord
  | @misled r hr hmisled right =>
    constructor
    · rintro ⟨t, ht⟩
      cases ht
    · rintro ⟨-, htold⟩
      exact absurd hmisled (htold r hr)

theorem mirrors (h : Alike fields typeName row rules left right) {t : σ} {record : Record}
    (ht : left = .ok t) (hrecord : right = .ok record) : Mirrors fields t record := by
  subst ht hrecord
  cases h with
  | ok mirrors told => exact mirrors

theorem error_cases (h : Alike fields typeName row rules left right) {e : BindingFailure}
    (he : left = .error e) :
    right = .error e ∨ ∃ r ∈ rules, r.Misled row ∧
      e = Projector.failure typeName r (.conversion (.unexpectedNull r.kind.scalar)) := by
  subst he
  cases h with
  | error => exact Or.inl rfl
  | misled hr hmisled => exact Or.inr ⟨_, hr, hmisled, rfl⟩

end Alike

end Mirrors

namespace Projector

/-- A typed target stops at a rule that is misled. -/
theorem takeRule_of_misled {σ : Type} {row : Row} {r : Rule σ} {f : Field σ}
    (hfield : r.property = f.property) (hplain : r.processors = []) (hmisled : r.Misled row)
    (typeName : String) (strict : Bool) (t : σ) :
    takeRule typeName strict row t r =
      .error (failure typeName r (.conversion (.unexpectedNull r.kind.scalar))) := by
  obtain ⟨hkind, haccepts, i, hordinal, hnull, hread⟩ := hmisled
  have hset : r.property.set t .null = .error (.unexpectedNull r.kind.scalar) := by
    rw [Rule.kind, hfield, f.kind_property] at hkind ⊢
    rw [f.set_property, read_null hkind]
    rfl
  unfold takeRule Rule.fill Rule.assign
  rw [hordinal]
  simp only [hnull, haccepts, hread, hplain, Rule.process, hset, Bool.false_eq_true, if_false, if_true]

section Runs

variable {σ : Type} [Target σ] {fields : List (Field σ)} {row : Row}

/-- A rule fails on both targets for one cause, or keeps the mirror, unless it is misled. -/
theorem takeRule_alike (hnames : (fields.map Field.name).Nodup)
    (hapart : fields.Pairwise Field.Apart) {r : Rule σ} {f : Field σ} (hf : f ∈ fields)
    (hfield : r.property = f.property) (hplain : r.processors = []) {t : σ} {record : Record}
    (h : Mirrors fields t record) (typeName : String) (strict : Bool) :
    Alike fields typeName row [r] (takeRule typeName strict row t r)
      (takeRule typeName strict row record r.onRecord) := by
  by_cases hmisled : r.Misled row
  · rw [takeRule_of_misled hfield hplain hmisled]
    exact .misled List.mem_cons_self hmisled _
  have htold : ∀ q ∈ [r], ¬ q.Misled row := List.forall_mem_singleton.mpr hmisled
  have haccepts : r.onRecord.accepts row = r.accepts row := rfl
  have hcolumn : r.onRecord.column = r.column := rfl
  unfold takeRule Rule.fill
  rw [haccepts, hcolumn]
  cases hordinal : row.ordinal? r.column with
  | none =>
    cases strict && r.accepts row with
    | true =>
      rw [if_pos rfl]
      exact .error _
    | false =>
      rw [if_neg Bool.false_ne_true]
      exact .ok h htold
  | some i =>
    cases hnull : row.isNull i with
    | true =>
      simp only [hnull, if_true]
      exact .ok h htold
    | false =>
      cases haccepted : r.accepts row with
      | false =>
        simp only [hnull, Bool.false_eq_true, if_false]
        exact .ok h htold
      | true =>
        simp only [hnull, Bool.false_eq_true, if_false, if_true]
        have hnone : row.read i = .ok .null → f.kind = .any := by
          intro hread
          by_contra hkind
          rw [← f.kind_property, ← hfield] at hkind
          exact hmisled ⟨hkind, haccepted, i, hordinal, hnull, hread⟩
        rcases Rule.assign_onRecord hfield hplain hnone t record with
          ⟨cause, ht, hrecord⟩ | ⟨a, ht, hrecord⟩
        · rw [ht, hrecord]
          exact .error _
        · rw [ht, hrecord]
          exact .ok (h.set hnames hapart hf a) htold

/-- All rules in turn. -/
theorem run_alike (hnames : (fields.map Field.name).Nodup) (hapart : fields.Pairwise Field.Apart)
    {rules : List (Rule σ)} (hfields : ∀ r ∈ rules, ∃ f ∈ fields, r.property = f.property)
    (hplain : ∀ r ∈ rules, r.processors = []) {t : σ} {record : Record}
    (h : Mirrors fields t record) (typeName : String) (strict : Bool) :
    Alike fields typeName row rules (rules.foldlM (takeRule typeName strict row) t)
      ((rules.map Rule.onRecord).foldlM (takeRule typeName strict row) record) := by
  induction rules generalizing t record with
  | nil => exact .ok h (List.forall_mem_nil _)
  | cons r rest ih =>
    obtain ⟨⟨f, hf, hfield⟩, hfieldsRest⟩ := List.forall_mem_cons.mp hfields
    obtain ⟨hr, hplainRest⟩ := List.forall_mem_cons.mp hplain
    rw [List.map_cons, List.foldlM_cons, List.foldlM_cons]
    have hstep : Alike fields typeName row [r] (takeRule typeName strict row t r)
        (takeRule typeName strict row record r.onRecord) :=
      takeRule_alike hnames hapart hf hfield hr h typeName strict
    generalize takeRule typeName strict row t r = left at hstep ⊢
    generalize takeRule typeName strict row record r.onRecord = right at hstep ⊢
    cases hstep with
    | ok mirrors told =>
      exact (ih hfieldsRest hplainRest mirrors).cons (told r List.mem_cons_self)
    | error e => exact .error e
    | misled hq hmisled right =>
      exact .misled (List.mem_cons.mpr (Or.inl (List.mem_singleton.mp hq))) hmisled _

end Runs

end Projector

/-! ### Projecting -/

section Projecting

variable {σ : Type} {fields : List (Field σ)} {s : RuleSet σ}

/-- The rules that a type of fields makes without processors. -/
theorem RuleSet.rules_of_fields {typeName : String} {properties : List (Property σ)}
    {overrides : List Override} {strict : Bool}
    (hfields : properties.filter Property.settable = fields.map Field.property)
    (hplain : ∀ o ∈ overrides, ∀ p, .process p ∉ o.actions)
    (hs : (build (Descriptor.make typeName properties) overrides strict).value = .ok s) :
    (fields.map Field.name).Nodup ∧ (∀ r ∈ s.rules, ∃ f ∈ fields, r.property = f.property) ∧
      ∀ r ∈ s.rules, r.processors = [] := by
  obtain ⟨d, hd, hof⟩ := build_ok hs
  obtain ⟨hnodup, rfl⟩ := Descriptor.make_ok hd
  have heligible : s.rules.map Rule.property = fields.map Field.property := by
    rw [(ofDescriptor_ok hof).2.2, Descriptor.eligible, hfields]
  have hnames : (properties.filter Property.settable).map Property.name =
      fields.map Field.name := by
    rw [hfields, List.map_map]
    rfl
  refine ⟨?_, ?_, ?_⟩
  · rw [← hnames]
    exact hnodup.sublist (List.filter_sublist.map _)
  · intro r hr
    have hmem : r.property ∈ s.rules.map Rule.property := List.mem_map_of_mem hr
    rw [heligible] at hmem
    obtain ⟨f, hf, hproperty⟩ := List.mem_map.mp hmem
    exact ⟨f, hf, hproperty.symm⟩
  · refine forall_build (P := fun r => r.processors = []) (fun _ => rfl) ?_ hs
    intro o ho a ha r hr
    cases a with
    | column => exact hr
    | condition => exact hr
    | process p => exact absurd ha (hplain o ho p)

end Projecting

/-- An account, which is labelled by its owner. -/
structure Account where
  number : Int64
  owner : String
  deriving DecidableEq

namespace Account

instance : Target Account := ⟨⟨0, ""⟩⟩

def fields : List (Field Account) :=
  [⟨"Number", .int, none, number, fun t a => { t with number := a }, fun _ _ => rfl⟩,
    ⟨"Owner", .text, some "owner_name", owner, fun t a => { t with owner := a }, fun _ _ => rfl⟩]

def properties : List (Property Account) :=
  fields.map Field.property ++
    [(Property.ofField "Label" ⟨.text, false⟩ owner fun t a => { t with owner := a }).readOnly]

def descriptor : Descriptor Account := ⟨"Account", properties, by decide⟩

/-- Owners are taken from their own column only. -/
def owned : Override :=
  ⟨"Owner", [.condition ⟨"owned", ⟨"owner"⟩, fun _ column => decide (column = "owner_name")⟩]⟩

def cursor (cells : List Value) : MemoryCursor :=
  ⟨⟨["number", "owner_name"]⟩, some cells, [], [], 1, none⟩

end Account

/-- A counter that starts at one. -/
structure Counter where
  count : Int64
  deriving DecidableEq

namespace Counter

instance : Target Counter := ⟨⟨1⟩⟩

def fields : List (Field Counter) := [⟨"Count", .int, none, count, fun _ a => ⟨a⟩, fun _ _ => rfl⟩]

end Counter

/-- A row with one cell, which is read as null whatever the row says of it. -/
def Row.null (told : Bool) : Row := ⟨⟨["Count"]⟩, fun _ => told, fun _ => .ok .null⟩

end RecordMapping
