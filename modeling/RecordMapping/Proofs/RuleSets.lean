import RecordMapping.Projector
import Mathlib.Data.List.Induction
import Mathlib.Data.List.Nodup

/-!
# RecordMapping.Proofs.RuleSets — what a rule set keeps of its descriptor

Overrides change columns, conditions and processors, never the properties: the rules of a rule set
are those of the eligible properties, in their order.  The rules of a schema also write the field
of their own name and no other (`FillsField`), and their names are distinct.
-/

namespace RecordMapping

variable {σ : Type}

namespace Rule

@[simp] theorem property_apply (r : Rule σ) (a : Action) : (r.apply a).property = r.property := by
  cases a <;> rfl

@[simp] theorem property_applyAll (r : Rule σ) (actions : List Action) :
    (r.applyAll actions).property = r.property := by
  unfold applyAll
  induction actions generalizing r with
  | nil => rfl
  | cons a rest ih => rw [List.foldl_cons, ih, property_apply]

theorem map_name (rules : List (Rule σ)) :
    rules.map name = (rules.map property).map Property.name := List.map_map.symm

end Rule

/-- Where keys are distinct, an item is found by its key. -/
theorem find?_of_nodup {α : Type} {key : α → String} {items : List α}
    (hnodup : (items.map key).Nodup) {x : α} (hx : x ∈ items) :
    (items.find? fun y => decide (key y = key x)) = some x := by
  cases hfind : items.find? fun y => decide (key y = key x) with
  | none => exact absurd (decide_eq_true rfl) (List.find?_eq_none.mp hfind x hx)
  | some y =>
    have hkey : key y = key x := by simpa using List.find?_some hfind
    rw [List.inj_on_of_nodup_map hnodup (List.mem_of_find?_eq_some hfind) hx hkey]

/-- Without a first bad item there is none at all. -/
theorem forall_or_first {α : Type} (bad : α → Prop) [DecidablePred bad] (items : List α) :
    (∀ x ∈ items, ¬ bad x) ∨
      ∃ before x after, items = before ++ x :: after ∧ (∀ y ∈ before, ¬ bad y) ∧ bad x := by
  cases hfind : items.find? fun x => decide (bad x) with
  | none =>
    refine Or.inl ?_
    intro x hx
    simpa using List.find?_eq_none.mp hfind x hx
  | some x =>
    obtain ⟨hx, before, after, hsplit, hbefore⟩ := List.find?_eq_some_iff_append.mp hfind
    exact Or.inr ⟨before, x, after, hsplit, fun y hy => by simpa using hbefore y hy,
      of_decide_eq_true hx⟩

/-! ### First occurrences -/

theorem eraseDups_concat {α : Type} [DecidableEq α] (items : List α) (x : α) :
    (items ++ [x]).eraseDups =
      if x ∈ items then items.eraseDups else items.eraseDups ++ [x] := by
  rw [List.eraseDups_append]
  by_cases h : x ∈ items <;> simp [List.removeAll, List.eraseDups_cons, h]

theorem nodup_eraseDups {α : Type} [DecidableEq α] (items : List α) : items.eraseDups.Nodup := by
  induction items using List.reverseRecOn with
  | nil => simp
  | append_singleton before x ih =>
    rw [eraseDups_concat]
    split
    · exact ih
    · next h =>
      rw [← List.concat_eq_append]
      exact ih.concat (mt List.mem_eraseDups.mp h)

/-! ### Overrides -/

namespace RuleSet

theorem properties_configure {o : Override} {rules next : List (Rule σ)}
    (h : configure o rules = some next) : next.map Rule.property = rules.map Rule.property := by
  induction rules generalizing next with
  | nil => simp [configure] at h
  | cons r rest ih =>
    unfold configure at h
    split at h
    · obtain rfl := Option.some.inj h
      rw [List.map_cons, List.map_cons, Rule.property_applyAll]
    · obtain ⟨changed, hc, rfl⟩ := Option.map_eq_some_iff.mp h
      rw [List.map_cons, List.map_cons, ih hc]

theorem properties_configureAll {typeName : String} {seen : List String}
    {overrides : List Override} {rules next : List (Rule σ)}
    (h : configureAll typeName seen overrides rules = .ok next) :
    next.map Rule.property = rules.map Rule.property := by
  induction overrides generalizing seen rules with
  | nil =>
    obtain rfl := Except.ok.inj h
    rfl
  | cons o rest ih =>
    unfold configureAll at h
    split at h
    · cases h
    · cases hc : configure o rules with
      | none => rw [hc] at h; cases h
      | some changed =>
        rw [hc] at h
        rw [ih h, properties_configure hc]

theorem ofDescriptor_ok {d : Descriptor σ} {overrides : List Override} {strict : Bool}
    {s : RuleSet σ} (h : ofDescriptor d overrides strict = .ok s) :
    s.typeName = d.typeName ∧ s.strict = strict ∧ s.rules.map Rule.property = d.eligible := by
  unfold ofDescriptor at h
  split at h
  · cases h
  · rename_i rules hrules
    split at h
    · cases h
    · obtain rfl := Except.ok.inj h
      refine ⟨rfl, rfl, ?_⟩
      rw [properties_configureAll hrules, List.map_map]
      exact List.map_id _

theorem mem_properties {d : Descriptor σ} {overrides : List Override} {strict : Bool}
    {s : RuleSet σ} (hs : ofDescriptor d overrides strict = .ok s) {r : Rule σ} (hr : r ∈ s.rules) :
    r.property ∈ d.properties := by
  have hmem : r.property ∈ s.rules.map Rule.property := List.mem_map_of_mem hr
  rw [(ofDescriptor_ok hs).2.2] at hmem
  exact (List.mem_filter.mp hmem).1

theorem build_ok {described : Except ConfigurationError (Descriptor σ)}
    {overrides : List Override} {strict : Bool} {s : RuleSet σ}
    (h : (build described overrides strict).value = .ok s) :
    ∃ d, described = .ok d ∧ ofDescriptor d overrides strict = .ok s := by
  unfold build at h
  split at h
  · cases h
  · rename_i d
    refine ⟨d, rfl, ?_⟩
    split at h
    · cases h
    · rename_i hd
      rw [hd, ← h]
      rfl

/-! ### Properties of rules that overrides keep -/

section Invariants

variable {P : Rule σ → Prop}

/-- Every change that the override makes keeps `P`. -/
def Keeps (P : Rule σ → Prop) (o : Override) : Prop :=
  ∀ a ∈ o.actions, ∀ r, P r → P (Rule.apply r a)

theorem Keeps.applyAll {o : Override} (h : Keeps P o) {r : Rule σ} (hr : P r) :
    P (r.applyAll o.actions) := by
  unfold Keeps at h
  unfold Rule.applyAll
  generalize o.actions = actions at h
  induction actions generalizing r with
  | nil => exact hr
  | cons a rest ih =>
    exact ih (h a List.mem_cons_self r hr) fun b hb => h b (List.mem_cons_of_mem a hb)

theorem Keeps.configure {o : Override} (h : Keeps P o) {rules next : List (Rule σ)}
    (hrules : ∀ r ∈ rules, P r) (hnext : configure o rules = some next) : ∀ r ∈ next, P r := by
  induction rules generalizing next with
  | nil => cases hnext
  | cons r rest ih =>
    obtain ⟨hr, hrest⟩ := List.forall_mem_cons.mp hrules
    unfold RuleSet.configure at hnext
    split at hnext
    · obtain rfl := Option.some.inj hnext
      exact List.forall_mem_cons.mpr ⟨h.applyAll hr, hrest⟩
    · obtain ⟨changed, hc, rfl⟩ := Option.map_eq_some_iff.mp hnext
      exact List.forall_mem_cons.mpr ⟨hr, ih hrest hc⟩

theorem forall_configureAll {typeName : String} {seen : List String} {overrides : List Override}
    (h : ∀ o ∈ overrides, Keeps P o) {rules next : List (Rule σ)} (hrules : ∀ r ∈ rules, P r)
    (hnext : configureAll typeName seen overrides rules = .ok next) : ∀ r ∈ next, P r := by
  induction overrides generalizing seen rules with
  | nil =>
    obtain rfl := Except.ok.inj hnext
    exact hrules
  | cons o rest ih =>
    obtain ⟨ho, hrest⟩ := List.forall_mem_cons.mp h
    unfold configureAll at hnext
    split at hnext
    · cases hnext
    · cases hc : configure o rules with
      | none => rw [hc] at hnext; cases hnext
      | some changed =>
        rw [hc] at hnext
        exact ih hrest (ho.configure hrules hc) hnext

/-- What holds of every default rule and is kept by every override holds of the whole rule set. -/
theorem forall_build {described : Except ConfigurationError (Descriptor σ)}
    {overrides : List Override} {strict : Bool} {s : RuleSet σ}
    (hdefault : ∀ p, P (Rule.ofProperty p)) (h : ∀ o ∈ overrides, Keeps P o)
    (hs : (build described overrides strict).value = .ok s) : ∀ r ∈ s.rules, P r := by
  obtain ⟨d, -, hd⟩ := build_ok hs
  unfold ofDescriptor at hd
  split at hd
  · cases hd
  · rename_i rules hrules
    split at hd
    · cases hd
    · obtain rfl := Except.ok.inj hd
      refine forall_configureAll h ?_ hrules
      intro r hr
      obtain ⟨p, -, rfl⟩ := List.mem_map.mp hr
      exact hdefault p

end Invariants

end RuleSet

/-! ### Descriptors -/

namespace Descriptor

variable {typeName : String} {properties : List (Property σ)}

theorem make_of_nodup (h : (properties.map Property.name).Nodup) :
    make typeName properties = .ok ⟨typeName, properties, h⟩ := by
  unfold make
  split
  · rename_i hsome
    rw [firstRepeated_nil.mpr h] at hsome
    cases hsome
  · rfl

theorem make_of_repeated {name : String}
    (h : firstRepeated [] (properties.map Property.name) = some name) :
    make typeName properties = .error (.duplicateProperty typeName name) := by
  unfold make
  split
  · rename_i hsome
    rw [h] at hsome
    rw [Option.some.inj hsome]
  · rename_i hnone
    rw [h] at hnone
    cases hnone

theorem make_ok {d : Descriptor σ} (h : make typeName properties = .ok d) :
    ∃ hnodup, d = ⟨typeName, properties, hnodup⟩ := by
  unfold make at h
  split at h
  · cases h
  · rename_i hnone
    exact ⟨firstRepeated_nil.mp hnone, (Except.ok.inj h).symm⟩

theorem nodup_eligible (d : Descriptor σ) : (d.eligible.map Property.name).Nodup :=
  d.nodup.sublist (List.filter_sublist.map _)

end Descriptor

theorem Schema.describe_ok {schema : Schema} {d : Descriptor Record} (h : schema.describe = .ok d) :
    ∃ hnodup, d = ⟨schema.typeName, schema.properties.map SchemaProperty.toProperty, hnodup⟩ := by
  unfold describe at h
  split at h
  · cases h
  · exact Descriptor.make_ok h

/-- The properties of a descriptor have different names, so rules of one name have one property. -/
theorem RuleSet.property_eq_of_name {d : Descriptor σ} {overrides overrides' : List Override}
    {strict strict' : Bool} {s s' : RuleSet σ} (hs : ofDescriptor d overrides strict = .ok s)
    (hs' : ofDescriptor d overrides' strict' = .ok s') {r r' : Rule σ} (hr : r ∈ s.rules)
    (hr' : r' ∈ s'.rules) (hname : r.name = r'.name) : r.property = r'.property := by
  exact List.inj_on_of_nodup_map d.nodup (mem_properties hs hr) (mem_properties hs' hr') hname

/-! ### Rules of a schema -/

/-- The rule reads and writes the field of its own name, coerced to its kind. -/
structure Rule.FillsField (r : Rule Record) : Prop where
  get (record : Record) : r.property.get record = (record.get? r.name).getD .null
  set (record : Record) (v : Value) :
    r.property.set record v = (coerce r.kind v).map (record.set r.name)

/-- The name and the kind of a rule that fills its field say how it reads and writes. -/
theorem Rule.FillsField.accessors {r r' : Rule Record} (h : r.FillsField) (h' : r'.FillsField)
    (hname : r.name = r'.name) (hkind : r.kind = r'.kind) :
    r.property.get = r'.property.get ∧ r.property.set = r'.property.set := by
  constructor
  · funext record
    rw [h.get, h'.get, hname]
  · funext record v
    rw [h.set, h'.set, hname, hkind]

/-- What building from a schema gives. -/
structure RuleSet.OfSchema (schema : Schema) (strict : Bool) (s : RuleSet Record) : Prop where
  typeName : s.typeName = schema.typeName
  strict : s.strict = strict
  names : s.rules.map Rule.name =
    (schema.properties.filter fun p => !p.readOnly).map SchemaProperty.name
  nodup : (s.rules.map Rule.name).Nodup
  fills : ∀ r ∈ s.rules, r.FillsField

theorem RuleSet.ofSchema_build {schema : Schema} {overrides : List Override} {strict : Bool}
    {s : RuleSet Record} (h : (build schema.describe overrides strict).value = .ok s) :
    s.OfSchema schema strict := by
  obtain ⟨d, hd, hs⟩ := build_ok h
  obtain ⟨htype, hstrict, hproperties⟩ := ofDescriptor_ok hs
  obtain ⟨hnodup, rfl⟩ := Schema.describe_ok hd
  have hnames := Rule.map_name s.rules
  rw [hproperties] at hnames
  refine ⟨htype, hstrict, ?_, ?_, ?_⟩
  · rw [hnames, Descriptor.eligible, List.filter_map, List.map_map]
    rfl
  · rw [hnames]
    exact Descriptor.nodup_eligible _
  · intro r hr
    obtain ⟨p, -, hp⟩ := List.mem_map.mp (mem_properties hs hr)
    constructor
    · intro record
      rw [Rule.name, ← hp]
      rfl
    · intro record v
      rw [Rule.name, Rule.kind, ← hp]
      exact p.set_toProperty record v

end RecordMapping
