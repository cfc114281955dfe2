import RecordMapping.Proofs.Projection

/-!
# RecordMapping.Proofs.PropertyOrder — the properties of a schema in another order

Overrides find rules by name and names are distinct, so an override changes the rules one by one
(`configure_eq_map`) and a schema with its properties in another order builds the same rules in
another order.

Whether a rule fails on a row and what it gives is said of that rule alone.  So rules in another
order give a record where the rules in the first order do, with the same fields (`Given.mem_iff`);
only the order of the fields and the failure that comes first follow the order of the rules.
-/

namespace RecordMapping

/-! ### Building -/

namespace RuleSet

variable {σ : Type} {rules rules' : List (Rule σ)}

/-- A rule with the changes of an override, if they are meant for it. -/
def adjust (o : Override) (r : Rule σ) : Rule σ :=
  if r.name = o.property then r.applyAll o.actions else r

theorem configure_eq_none {o : Override} (h : o.property ∉ rules.map Rule.name) :
    configure o rules = none := by
  induction rules with
  | nil => rfl
  | cons r rest ih =>
    rw [List.map_cons, List.mem_cons, not_or] at h
    rw [configure, if_neg fun hname => h.1 hname.symm, ih h.2]
    rfl

/-- Where names are distinct, the first rule of a name is the only one. -/
theorem configure_eq_map {o : Override} (hnodup : (rules.map Rule.name).Nodup)
    (h : o.property ∈ rules.map Rule.name) : configure o rules = some (rules.map (adjust o)) := by
  induction rules with
  | nil => exact absurd h List.not_mem_nil
  | cons r rest ih =>
    obtain ⟨hfresh, hrest⟩ := List.nodup_cons.mp hnodup
    rw [List.map_cons]
    by_cases hname : r.name = o.property
    · have hothers : rest.map (adjust o) = rest := by
        refine (List.map_congr_left ?_).trans (List.map_id rest)
        intro q hq
        have hq : q.name ≠ o.property := by
          rintro hsame
          exact hfresh (hname.trans hsame.symm ▸ List.mem_map_of_mem hq)
        rw [adjust, if_neg hq, id]
      rw [configure, if_pos hname, hothers, adjust, if_pos hname]
    · have hlater : o.property ∈ rest.map Rule.name :=
        (List.mem_cons.mp h).resolve_left fun hsame => hname hsame.symm
      rw [configure, if_neg hname, ih hrest hlater, adjust, if_neg hname]
      rfl

theorem configure_perm {o : Override} (hperm : rules.Perm rules')
    (hnodup : (rules.map Rule.name).Nodup) {next : List (Rule σ)}
    (h : configure o rules = some next) :
    ∃ next', configure o rules' = some next' ∧ next.Perm next' := by
  have hnames := hperm.map Rule.name
  by_cases hmem : o.property ∈ rules.map Rule.name
  · rw [configure_eq_map hnodup hmem] at h
    obtain rfl := Option.some.inj h
    exact ⟨rules'.map (adjust o),
      configure_eq_map (hnames.nodup_iff.mp hnodup) (hnames.mem_iff.mp hmem), hperm.map _⟩
  · rw [configure_eq_none hmem] at h
    cases h

theorem configureAll_perm {typeName : String} {seen : List String} {overrides : List Override}
    (hperm : rules.Perm rules') (hnodup : (rules.map Rule.name).Nodup) {next : List (Rule σ)}
    (h : configureAll typeName seen overrides rules = .ok next) :
    ∃ next', configureAll typeName seen overrides rules' = .ok next' ∧ next.Perm next' := by
  induction overrides generalizing seen rules rules' with
  | nil =>
    obtain rfl := Except.ok.inj h
    exact ⟨rules', rfl, hperm⟩
  | cons o rest ih =>
    unfold configureAll at h ⊢
    split at h
    · cases h
    · rename_i hseen
      rw [if_neg hseen]
      cases hconfigure : configure o rules with
      | none =>
        rw [hconfigure] at h
        cases h
      | some changed =>
        rw [hconfigure] at h
        obtain ⟨changed', hconfigure', hchanged⟩ := configure_perm hperm hnodup hconfigure
        rw [hconfigure']
        refine ih hchanged ?_ h
        -- the changed rules are for the same properties, so their names are still distinct
        rw [Rule.map_name, properties_configure hconfigure, ← Rule.map_name]
        exact hnodup

theorem firstBlankColumn_eq_none :
    firstBlankColumn rules = none ↔ ∀ r ∈ rules, ¬ Text.isBlankText r.column = true := by
  unfold firstBlankColumn
  exact List.find?_eq_none

theorem ofDescriptor_perm {d d' : Descriptor σ} {overrides : List Override} {strict : Bool}
    {s : RuleSet σ} (hname : d'.typeName = d.typeName) (hperm : d.properties.Perm d'.properties)
    (h : ofDescriptor d overrides strict = .ok s) :
    ∃ s', ofDescriptor d' overrides strict = .ok s' ∧ s.rules.Perm s'.rules := by
  have hdefaults : (d.eligible.map Rule.ofProperty).Perm (d'.eligible.map Rule.ofProperty) :=
    (hperm.filter _).map _
  have hnames : ((d.eligible.map Rule.ofProperty).map Rule.name).Nodup := by
    rw [List.map_map]
    exact d.nodup_eligible
  unfold ofDescriptor at h ⊢
  cases hrules : configureAll d.typeName [] overrides (d.eligible.map Rule.ofProperty) with
  | error e =>
    rw [hrules] at h
    cases h
  | ok rules =>
    rw [hrules] at h
    obtain ⟨rules', hrules', hrulesPerm⟩ := configureAll_perm hdefaults hnames hrules
    rw [hname, hrules']
    cases hblank : firstBlankColumn rules with
    | some r =>
      simp only [hblank] at h
      cases h
    | none =>
      simp only [hblank] at h
      obtain rfl := Except.ok.inj h
      have hblank' : firstBlankColumn rules' = none :=
        firstBlankColumn_eq_none.mpr fun r hr =>
          firstBlankColumn_eq_none.mp hblank r (hrulesPerm.mem_iff.mpr hr)
      exact ⟨⟨d.typeName, rules', strict⟩, by simp only [hblank'], hrulesPerm⟩

end RuleSet

/-- Distinct names under a name that is not blank describe a type. -/
theorem Schema.describe_eq_ok {schema : Schema} (hname : ¬ Text.isBlankText schema.typeName = true)
    (hnodup : ((schema.properties.map SchemaProperty.toProperty).map Property.name).Nodup) :
    schema.describe =
      .ok ⟨schema.typeName, schema.properties.map SchemaProperty.toProperty, hnodup⟩ := by
  rw [describe, if_neg hname, Descriptor.make_of_nodup hnodup]

theorem Schema.describe_perm {schema : Schema} {properties : List SchemaProperty}
    (hperm : schema.properties.Perm properties) {d : Descriptor Record}
    (h : schema.describe = .ok d) :
    ∃ d', describe ⟨schema.typeName, properties⟩ = .ok d' ∧ d'.typeName = d.typeName ∧
      d.properties.Perm d'.properties := by
  obtain ⟨hnodup, rfl⟩ := describe_ok h
  have hproperties := hperm.map SchemaProperty.toProperty
  have hnames := (hproperties.map Property.name).nodup_iff.mp hnodup
  have hblank : ¬ Text.isBlankText schema.typeName = true := by
    intro hblank
    rw [describe, if_pos hblank] at h
    cases h
  exact ⟨_, @describe_eq_ok ⟨schema.typeName, properties⟩ hblank hnames, rfl, hproperties⟩

/-- The same rules in another order. -/
theorem RuleSet.build_perm {schema : Schema} {properties : List SchemaProperty}
    (hperm : schema.properties.Perm properties) {overrides : List Override} {strict : Bool}
    {s : RuleSet Record} (h : (build schema.describe overrides strict).value = .ok s) :
    ∃ s', (build (Schema.describe ⟨schema.typeName, properties⟩) overrides strict).value = .ok s' ∧
      s.rules.Perm s'.rules := by
  obtain ⟨d, hd, hs⟩ := build_ok h
  obtain ⟨d', hd', hname, hproperties⟩ := Schema.describe_perm hperm hd
  obtain ⟨s', hs', hrules⟩ := ofDescriptor_perm hname hproperties hs
  refine ⟨s', ?_, hrules⟩
  simp only [build, hd', hs']
  rfl

/-! ### Projecting -/

/-- A record is known by its fields, each name being there once. -/
theorem Record.get?_of_perm {r r' : Record} (hnodup : (r.fields.map Prod.fst).Nodup)
    (h : r.fields.Perm r'.fields) (name : String) : r.get? name = r'.get? name := by
  have hnames := h.map Prod.fst
  by_cases hmem : name ∈ r.fields.map Prod.fst
  · obtain ⟨f, hf, rfl⟩ := List.mem_map.mp hmem
    rw [get?_of_mem hnodup hf, get?_of_mem (hnames.nodup_iff.mp hnodup) (h.mem_iff.mp hf)]
  · rw [get?_eq_none.mpr hmem, get?_eq_none.mpr fun hmem' => hmem (hnames.mem_iff.mpr hmem')]

/-- A rule gives one value. -/
theorem Rule.Gives.unique {row : Row} {r : Rule Record} {v v' : Value} (h : r.Gives row v)
    (h' : r.Gives row v') : v = v' := by
  obtain ⟨i, raw, w, htakes, hcell, hpipe, hcoerce⟩ := h
  obtain ⟨j, raw', w', htakes', hcell', hpipe', hcoerce'⟩ := h'
  obtain rfl := htakes.unique htakes'
  obtain rfl := Except.ok.inj (hcell.symm.trans hcell')
  obtain rfl := Except.ok.inj (hpipe.symm.trans hpipe')
  exact Except.ok.inj (hcoerce.symm.trans hcoerce')

namespace Projector

variable {row : Row} {rules rules' : List (Rule Record)} {fields fields' : List (String × Value)}

/-- The fields of a projection, without regard to their order. -/
theorem Given.mem_iff (h : Given row rules fields) (f : String × Value) :
    f ∈ fields ↔ ∃ r ∈ rules, r.name = f.1 ∧ r.Gives row f.2 := by
  constructor
  · intro hf
    obtain ⟨hlength, hpairs⟩ := List.forall₂_iff_get.mp h
    obtain ⟨i, rfl⟩ := List.mem_iff_get.mp hf
    obtain ⟨hname, hgives⟩ := hpairs i (Nat.lt_of_lt_of_eq i.isLt hlength.symm) i.isLt
    exact ⟨_, (List.mem_filter.mp (List.get_mem _ _)).1, hname.symm, hgives⟩
  · rintro ⟨r, hr, hname, hgives⟩
    obtain ⟨v, hgives', hmem⟩ := h.exists_field hr hgives.takes
    rw [hgives'.unique hgives, hname] at hmem
    exact hmem

theorem Given.perm (h : Given row rules fields) (h' : Given row rules' fields')
    (hnodup : (rules.map Rule.name).Nodup) (hperm : rules.Perm rules') : fields.Perm fields' := by
  have hnodup' := (hperm.map Rule.name).nodup_iff.mp hnodup
  have hfields := List.Nodup.of_map _ (h.nodup hnodup)
  have hfields' := List.Nodup.of_map _ (h'.nodup hnodup')
  rw [List.perm_ext_iff_of_nodup hfields hfields']
  intro f
  rw [h.mem_iff, h'.mem_iff]
  simp only [hperm.mem_iff]

section Compiled

variable {τ : Type} [DecidableEq τ] {schema : Schema} {strict : Bool} {s : RuleSet Record}
  {serial : Nat} {target : τ} {f : Fingerprint τ} {p : Projector τ Record}

theorem given_of_projectOne (hs : s.OfSchema schema strict)
    (hcompile : (compile serial target s f).value = .ok p) {record : Record}
    (h : (p.projectOne row).value = .ok record) :
    Given row s.rules record.fields ∧ ∀ r ∈ s.rules, ∀ c, ¬ r.Fails s.strict row c := by
  rcases projectOne_cases hs hcompile row with
    ⟨r, cause, -, hvalue⟩ | ⟨given, hgiven, hnone, hvalue⟩
  · cases hvalue.symm.trans h
  · obtain rfl := Except.ok.inj (hvalue.symm.trans h)
    exact ⟨hgiven, hnone⟩

/-- A row has a record exactly if no rule fails on it. -/
theorem projectOne_ok_iff (hs : s.OfSchema schema strict)
    (hcompile : (compile serial target s f).value = .ok p) :
    (∃ record, (p.projectOne row).value = .ok record) ↔
      ∀ r ∈ s.rules, ∀ c, ¬ r.Fails s.strict row c := by
  constructor
  · rintro ⟨record, h⟩
    exact (given_of_projectOne hs hcompile h).2
  · intro hnone
    cases hvalue : (p.projectOne row).value with
    | ok record => exact ⟨record, rfl⟩
    | error e =>
      obtain ⟨r, hr, cause, hfails, -⟩ := fails_of_projectOne hs hcompile hvalue
      exact absurd hfails (hnone r hr cause)

end Compiled

/-- A schema with its properties in another order builds the same rules in another order, whatever
the overrides.  On every row the projectors of both rule sets succeed or fail together.  Their
records have the same fields, in whatever order, and so the same value for each name.  A failure of
one is for a rule of the other that fails on the row as well. -/
theorem rules_do_not_interfere {schema : Schema} {properties : List SchemaProperty}
    (hperm : schema.properties.Perm properties) {overrides : List Override} {strict : Bool}
    {s : RuleSet Record} (hbuild : (RuleSet.build schema.describe overrides strict).value = .ok s) :
    ∃ s', (RuleSet.build (Schema.describe ⟨schema.typeName, properties⟩) overrides strict).value =
        .ok s' ∧
      s.rules.Perm s'.rules ∧
      ∀ {τ : Type} [DecidableEq τ] {target target' : τ} {serial serial' : Nat}
        {f f' : Fingerprint τ} {p p' : Projector τ Record},
        (compile serial target s f).value = .ok p → (compile serial' target' s' f').value = .ok p' →
        ∀ (row : Row) (index index' : PresenceIndex), index.Reachable → index'.Reachable →
          ((∃ record, (p.project row index).value.1 = .ok record) ↔
            ∃ record, (p'.project row index').value.1 = .ok record) ∧
          (∀ record record', (p.project row index).value.1 = .ok record →
            (p'.project row index').value.1 = .ok record' →
              record.fields.Perm record'.fields ∧ ∀ name, record.get? name = record'.get? name) ∧
          ∀ e, (p'.project row index').value.1 = .error e →
            ∃ r ∈ s.rules, ∃ cause, r.Fails strict row cause ∧
              e = failure schema.typeName r cause := by
  obtain ⟨s', hbuild', hrules⟩ := RuleSet.build_perm hperm hbuild
  refine ⟨s', hbuild', hrules, ?_⟩
  intro τ _ target target' serial serial' f f' p p' hcompile hcompile' row index index' hindex
    hindex'
  have hs := RuleSet.ofSchema_build hbuild
  have hs' := RuleSet.ofSchema_build hbuild'
  rw [p.project_eq_projectOne row hindex.faithful, p'.project_eq_projectOne row hindex'.faithful]
  refine ⟨?_, ?_, ?_⟩
  · rw [projectOne_ok_iff hs hcompile, projectOne_ok_iff hs' hcompile', hs.strict, hs'.strict]
    simp only [hrules.mem_iff]
  · intro record record' hrecord hrecord'
    obtain ⟨hgiven, -⟩ := given_of_projectOne hs hcompile hrecord
    obtain ⟨hgiven', -⟩ := given_of_projectOne hs' hcompile' hrecord'
    have hfields := hgiven.perm hgiven' hs.nodup hrules
    exact ⟨hfields, Record.get?_of_perm (hgiven.nodup hs.nodup) hfields⟩
  · intro e he
    obtain ⟨r, hr, cause, hfails, hfailure⟩ := fails_of_projectOne hs' hcompile' he
    rw [hs'.strict] at hfails
    rw [hs'.typeName] at hfailure
    exact ⟨r, hrules.mem_iff.mpr hr, cause, hfails, hfailure⟩

/-- An order with its two numbers the other way round: the same record, and where neither number can
be read the failure that comes first. -/
theorem rules_do_not_interfere_order :
    ∃ (s s' : RuleSet Record) (p p' : Projector Unit Record) (row : Value → Value → Row),
      (RuleSet.build (Schema.describe ⟨"Order", [⟨"Id", .int, none, false⟩,
        ⟨"Total", .int, some "amount", false⟩]⟩) [⟨"Id", [.process .trim]⟩] true).value = .ok s ∧
      (RuleSet.build (Schema.describe ⟨"Order", [⟨"Total", .int, some "amount", false⟩,
        ⟨"Id", .int, none, false⟩]⟩) [⟨"Id", [.process .trim]⟩] true).value = .ok s' ∧
      s.rules.Perm s'.rules ∧ (compile 0 () s (.ofRuleSet () s "orders")).value = .ok p ∧
      (compile 1 () s' (.ofRuleSet () s' "orders")).value = .ok p' ∧
      p.presenceIndex.Reachable ∧ p'.presenceIndex.Reachable ∧
      (p.project (row (.text " 7 ") (.text "12")) p.presenceIndex).value.1 =
        .ok ⟨[("Id", .int 7), ("Total", .int 12)]⟩ ∧
      (p'.project (row (.text " 7 ") (.text "12")) p'.presenceIndex).value.1 =
        .ok ⟨[("Total", .int 12), ("Id", .int 7)]⟩ ∧
      (∃ e, (p.project (row (.text "x") (.text "y")) p.presenceIndex).value.1 = .error e ∧
        e.property = "Id") ∧
      ∃ e, (p'.project (row (.text "x") (.text "y")) p'.presenceIndex).value.1 = .error e ∧
        e.property = "Total" ∧ ∃ r ∈ s.rules, ∃ cause,
          r.Fails true (row (.text "x") (.text "y")) cause ∧ e = failure "Order" r cause := by
  let idRule : Rule Record :=
    ⟨SchemaProperty.toProperty ⟨"Id", .int, none, false⟩, "Id", none, [.trim]⟩
  let totalRule : Rule Record :=
    .ofProperty (SchemaProperty.toProperty ⟨"Total", .int, some "amount", false⟩)
  let s : RuleSet Record := ⟨"Order", [idRule, totalRule], true⟩
  let moved : RuleSet Record := ⟨"Order", [totalRule, idRule], true⟩
  let p : Projector Unit Record :=
    ⟨.ofRuleSet () s "orders", "Order", ⟨0, ["Id", "amount"]⟩, s.rules, true⟩
  let p' : Projector Unit Record :=
    ⟨.ofRuleSet () moved "orders", "Order", ⟨1, ["amount", "Id"]⟩, moved.rules, true⟩
  let row (a b : Value) : Row :=
    ⟨⟨["id", "Amount"]⟩, fun _ => false, fun i => .ok (if i = 0 then a else b)⟩
  have hbuild : (RuleSet.build (Schema.describe ⟨"Order", [⟨"Id", .int, none, false⟩,
    ⟨"Total", .int, some "amount", false⟩]⟩) [⟨"Id", [.process .trim]⟩] true).value = .ok s := rfl
  have hcompile : (compile 0 () s (.ofRuleSet () s "orders")).value = .ok p := rfl
  have hcompile' : (compile 1 () moved (.ofRuleSet () moved "orders")).value = .ok p' := rfl
  have hindex : p.presenceIndex.Reachable := .new p.table
  have hindex' : p'.presenceIndex.Reachable := .new p'.table
  obtain ⟨s', hbuild', hrules, halike⟩ := rules_do_not_interfere (.swap _ _ []) hbuild
  obtain rfl : moved = s' := Except.ok.inj hbuild'
  have hfails : (p'.project (row (.text "x") (.text "y")) p'.presenceIndex).value.1 =
      .error ⟨"Total", "amount", "Order", .int, none, .conversion (.parse .int64 "y")⟩ := rfl
  obtain ⟨-, -, hboth⟩ := halike hcompile hcompile' (row (.text "x") (.text "y")) _ _ hindex hindex'
  exact ⟨s, moved, p, p', row, hbuild, hbuild', hrules, hcompile, hcompile', hindex, hindex', rfl,
    rfl, ⟨_, rfl, rfl⟩, _, hfails, rfl, hboth _ hfails⟩

end Projector

end RecordMapping
