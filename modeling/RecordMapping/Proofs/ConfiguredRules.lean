import RecordMapping.Proofs.PropertyOrder
import Mathlib.Data.List.Induction

/-!
# RecordMapping.Proofs.ConfiguredRules — which configurations make a rule set

Overrides are taken in turn.  An override is at fault if an earlier one is for its property or if no
rule has its name (`Override.Fault`); up to the first fault, each of them changes the one rule of its
name and no other.  So a rule ends with the changes of the one override that is meant for it, and
`Rule.configured` says which column, which condition and which processors they leave.

A described type has a rule set exactly if no override is at fault and no column is blank
(`RuleSet.Accepts`), and otherwise one reason to have none (`RuleSet.Refuses`).  The order of the
overrides matters to the reason alone.
-/

namespace RecordMapping

variable {σ : Type}

/-! ### The changes of one rule -/

namespace Rule

namespace Action

def column? : Action → Option String
  | column name => some name
  | _ => none

def condition? : Action → Option Condition
  | condition c => some c
  | _ => none

def processor? : Action → Option Processor
  | process p => some p
  | _ => none

end Action

/-- The rule of a property after changes: the last column and the last condition that they set, and
all their processors. -/
def configured (p : Property σ) (actions : List Action) : Rule σ where
  property := p
  column := (actions.filterMap Action.column?).getLast?.getD p.defaultColumn
  condition := (actions.filterMap Action.condition?).getLast?
  processors := actions.filterMap Action.processor?

@[simp] theorem name_configured (p : Property σ) (actions : List Action) :
    (configured p actions).name = p.name := rfl

theorem applyAll_concat (r : Rule σ) (actions : List Action) (a : Action) :
    r.applyAll (actions ++ [a]) = (r.applyAll actions).apply a := by
  simp [applyAll, List.foldl_append]

theorem applyAll_ofProperty (p : Property σ) (actions : List Action) :
    (ofProperty p).applyAll actions = configured p actions := by
  induction actions using List.reverseRecOn with
  | nil => rfl
  | append_singleton actions a ih =>
    rw [applyAll_concat, ih]
    cases a <;> simp [configured, apply, Action.column?, Action.condition?, Action.processor?]

end Rule

/-! ### Overrides in turn -/

/-- Why an override cannot follow the earlier ones; `names` are the names of the rules. -/
inductive Override.Fault (typeName : String) (names : List String) (earlier : List Override)
    (o : Override) : ConfigurationError → Prop
  | repeated (again : o.property ∈ earlier.map Override.property) :
    Fault typeName names earlier o (.duplicateRule typeName o.property)
  | unknown (first : o.property ∉ earlier.map Override.property) (unnamed : o.property ∉ names) :
    Fault typeName names earlier o (.unknownProperty typeName o.property)

namespace RuleSet

/-- No override is at fault. -/
structure Sound (names : List String) (overrides : List Override) : Prop where
  once : (overrides.map Override.property).Nodup
  known : ∀ o ∈ overrides, o.property ∈ names

/-- The first fault: an override at fault after sound ones. -/
def FirstFault (typeName : String) (names : List String) (overrides : List Override)
    (e : ConfigurationError) : Prop :=
  ∃ before o after, overrides = before ++ o :: after ∧ Sound names before ∧
    o.Fault typeName names before e

theorem Sound.perm {names : List String} {overrides overrides' : List Override}
    (h : Sound names overrides) (hperm : overrides.Perm overrides') : Sound names overrides' :=
  ⟨(hperm.map _).nodup_iff.mp h.once, fun o ho => h.known o (hperm.mem_iff.mpr ho)⟩

theorem sound_or_firstFault (typeName : String) (names : List String) (overrides : List Override) :
    Sound names overrides ∨ ∃ e, FirstFault typeName names overrides e := by
  induction overrides using List.reverseRecOn with
  | nil => exact Or.inl ⟨List.nodup_nil, nofun⟩
  | append_singleton earlier o ih =>
    rcases ih with hsound | ⟨e, before, q, after, rfl, hsound, hfault⟩
    · by_cases hagain : o.property ∈ earlier.map Override.property
      · exact Or.inr ⟨_, earlier, o, [], rfl, hsound, .repeated hagain⟩
      by_cases hnamed : o.property ∈ names
      · refine Or.inl ⟨?_, ?_⟩
        · rw [List.map_append, List.nodup_append]
          refine ⟨hsound.once, List.nodup_singleton _, ?_⟩
          intro name hname other hother
          obtain rfl := List.mem_singleton.mp hother
          rintro rfl
          exact hagain hname
        · intro q hq
          rcases List.mem_append.mp hq with hq | hq
          · exact hsound.known q hq
          · exact List.mem_singleton.mp hq ▸ hnamed
      · exact Or.inr ⟨_, earlier, o, [], rfl, hsound, .unknown hagain hnamed⟩
    · exact Or.inr ⟨e, before, q, after ++ [o], by simp, hsound, hfault⟩

/-- The changes that the overrides hold for the rule of a property. -/
def changes (overrides : List Override) (property : String) : List Rule.Action :=
  ((overrides.find? fun o => decide (o.property = property)).map Override.actions).getD []

theorem changes_of_mem {overrides : List Override} {o : Override}
    (hnodup : (overrides.map Override.property).Nodup) (ho : o ∈ overrides) :
    changes overrides o.property = o.actions := by
  have hfound : (overrides.find? fun q => decide (q.property = o.property)) = some o :=
    find?_of_nodup hnodup ho
  rw [changes, hfound]
  rfl

theorem changes_of_not_mem {overrides : List Override} {property : String}
    (h : property ∉ overrides.map Override.property) : changes overrides property = [] := by
  have hnone : (overrides.find? fun o => decide (o.property = property)) = none := by
    refine List.find?_eq_none.mpr ?_
    intro o ho hname
    exact h (List.mem_map.mpr ⟨o, ho, of_decide_eq_true hname⟩)
  rw [changes, hnone]
  rfl

section Rules

variable {typeName : String} {rules : List (Rule σ)}

@[simp] theorem name_adjust (o : Override) (r : Rule σ) : (adjust o r).name = r.name := by
  unfold adjust
  split
  · rw [Rule.name, Rule.property_applyAll, Rule.name]
  · rfl

theorem map_name_adjust (o : Override) (rules : List (Rule σ)) :
    (rules.map (adjust o)).map Rule.name = rules.map Rule.name := by
  simp [List.map_map, Function.comp_def]

/-- A rule goes through all overrides and is changed by its own. -/
def settle (overrides : List Override) (r : Rule σ) : Rule σ :=
  overrides.foldl (fun r o => adjust o r) r

@[simp] theorem name_settle (overrides : List Override) (r : Rule σ) :
    (settle overrides r).name = r.name := by
  induction overrides generalizing r with
  | nil => rfl
  | cons o rest ih => exact (ih (adjust o r)).trans (name_adjust o r)

theorem settle_of_not_mem {overrides : List Override} {r : Rule σ}
    (h : r.name ∉ overrides.map Override.property) : settle overrides r = r := by
  induction overrides with
  | nil => rfl
  | cons o rest ih =>
    rw [List.map_cons, List.mem_cons, not_or] at h
    rw [settle, List.foldl_cons, adjust, if_neg h.1]
    exact ih h.2

theorem settle_eq_applyAll {overrides : List Override}
    (hnodup : (overrides.map Override.property).Nodup) (r : Rule σ) :
    settle overrides r = r.applyAll (changes overrides r.name) := by
  induction overrides with
  | nil => rfl
  | cons o rest ih =>
    obtain ⟨hfresh, hrest⟩ := List.nodup_cons.mp hnodup
    by_cases hname : r.name = o.property
    · -- no later override has this name
      have hlater : (r.applyAll o.actions).name ∉ rest.map Override.property := by
        rw [Rule.name, Rule.property_applyAll, ← Rule.name, hname]
        exact hfresh
      have hown := changes_of_mem hnodup List.mem_cons_self
      rw [settle, List.foldl_cons, adjust, if_pos hname, hname, hown]
      exact settle_of_not_mem hlater
    · have hpassed : changes (o :: rest) r.name = changes rest r.name := by
        rw [changes, List.find?_cons_of_neg (by simpa using fun h => hname h.symm)]
        rfl
      rw [settle, List.foldl_cons, adjust, if_neg hname, hpassed]
      exact ih hrest

/-- Sound overrides are all applied, whatever follows them. -/
theorem configureAll_append {before : List Override} (hnodup : (rules.map Rule.name).Nodup)
    (hsound : Sound (rules.map Rule.name) before) {seen : List String}
    (hfresh : ∀ o ∈ before, o.property ∉ seen) (rest : List Override) :
    configureAll typeName seen (before ++ rest) rules =
      configureAll typeName ((before.map Override.property).reverse ++ seen) rest
        (rules.map (settle before)) := by
  induction before generalizing seen rules with
  | nil =>
    have hsettle : rules.map (settle []) = rules := List.map_id rules
    rw [hsettle]
    rfl
  | cons o later ih =>
    obtain ⟨hnew, honce⟩ := List.nodup_cons.mp hsound.once
    obtain ⟨hknown, hlater⟩ := List.forall_mem_cons.mp hsound.known
    obtain ⟨hunseen, hfresh⟩ := List.forall_mem_cons.mp hfresh
    have hsettle : (rules.map (adjust o)).map (settle later) = rules.map (settle (o :: later)) :=
      List.map_map
    have hfresh' : ∀ q ∈ later, q.property ∉ o.property :: seen := by
      intro q hq hmem
      rcases List.mem_cons.mp hmem with hsame | hseen
      · exact hnew (hsame ▸ List.mem_map_of_mem hq)
      · exact hfresh q hq hseen
    have hsound' : Sound ((rules.map (adjust o)).map Rule.name) later := by
      rw [map_name_adjust]
      exact ⟨honce, hlater⟩
    rw [List.cons_append, configureAll, if_neg hunseen, configure_eq_map hnodup hknown]
    dsimp only
    rw [ih (by rwa [map_name_adjust]) hsound' hfresh', hsettle]
    simp

theorem configureAll_of_sound {overrides : List Override} (hnodup : (rules.map Rule.name).Nodup)
    (hsound : Sound (rules.map Rule.name) overrides) :
    configureAll typeName [] overrides rules = .ok (rules.map (settle overrides)) := by
  have happend : configureAll typeName [] (overrides ++ []) rules =
      .ok (rules.map (settle overrides)) :=
    configureAll_append hnodup hsound (fun _ _ => List.not_mem_nil) []
  rwa [List.append_nil] at happend

theorem configureAll_of_firstFault {overrides : List Override} {e : ConfigurationError}
    (hnodup : (rules.map Rule.name).Nodup)
    (h : FirstFault typeName (rules.map Rule.name) overrides e) :
    configureAll typeName [] overrides rules = .error e := by
  obtain ⟨before, o, after, rfl, hsound, hfault⟩ := h
  rw [configureAll_append hnodup hsound fun _ _ => List.not_mem_nil, configureAll]
  cases hfault with
  | repeated again => rw [if_pos (by simpa using again)]
  | unknown first unnamed =>
    have hunnamed : o.property ∉ (rules.map (settle before)).map Rule.name := by
      simpa [Function.comp_def] using unnamed
    rw [if_neg (by simpa using first), configure_eq_none hunnamed]

end Rules

/-! ### Described types -/

section Described

variable (d : Descriptor σ) (overrides : List Override)

/-- The rules of the eligible properties, each with the changes that are meant for it. -/
def configuredRules : List (Rule σ) :=
  d.eligible.map fun p => Rule.configured p (changes overrides p.name)

/-- The configuration makes a rule set. -/
structure Accepts : Prop where
  sound : Sound (d.eligible.map Property.name) overrides
  filled : ∀ r ∈ configuredRules d overrides, ¬ Text.isBlankText r.column = true

/-- Why the configuration makes no rule set: the first fault of an override, or else the first blank
column. -/
inductive Refuses : ConfigurationError → Prop
  | fault {e : ConfigurationError}
    (first : FirstFault d.typeName (d.eligible.map Property.name) overrides e) : Refuses e
  | blank {before after : List (Rule σ)} {r : Rule σ}
    (sound : Sound (d.eligible.map Property.name) overrides)
    (split : configuredRules d overrides = before ++ r :: after)
    (filled : ∀ q ∈ before, ¬ Text.isBlankText q.column = true)
    (blank : Text.isBlankText r.column = true) : Refuses (.blankColumn d.typeName r.name)

variable {d overrides} {strict : Bool}

theorem accepts_or_refuses (d : Descriptor σ) (overrides : List Override) :
    Accepts d overrides ∨ ∃ e, Refuses d overrides e := by
  rcases sound_or_firstFault d.typeName (d.eligible.map Property.name) overrides with
    hsound | ⟨e, hfirst⟩
  · rcases forall_or_first (fun r : Rule σ => Text.isBlankText r.column = true)
      (configuredRules d overrides) with hfilled | ⟨before, r, after, hsplit, hbefore, hblank⟩
    · exact Or.inl ⟨hsound, hfilled⟩
    · exact Or.inr ⟨_, .blank hsound hsplit hbefore hblank⟩
  · exact Or.inr ⟨e, .fault hfirst⟩

theorem map_name_ofProperty (properties : List (Property σ)) :
    (properties.map Rule.ofProperty).map Rule.name = properties.map Property.name :=
  List.map_map

/-- Sound overrides turn the default rules into the configured ones. -/
theorem configureAll_eligible (hsound : Sound (d.eligible.map Property.name) overrides) :
    configureAll d.typeName [] overrides (d.eligible.map Rule.ofProperty) =
      .ok (configuredRules d overrides) := by
  rw [← map_name_ofProperty] at hsound
  have hnames := d.nodup_eligible
  rw [← map_name_ofProperty] at hnames
  rw [configureAll_of_sound hnames hsound, List.map_map, configuredRules]
  congr 1
  refine List.map_congr_left ?_
  intro p _
  rw [Function.comp, settle_eq_applyAll hsound.once, Rule.applyAll_ofProperty]
  rfl

theorem ofDescriptor_of_accepts (h : Accepts d overrides) :
    ofDescriptor d overrides strict = .ok ⟨d.typeName, configuredRules d overrides, strict⟩ := by
  unfold ofDescriptor
  rw [configureAll_eligible h.sound]
  dsimp only
  rw [firstBlankColumn_eq_none.mpr h.filled]

theorem ofDescriptor_of_refuses {e : ConfigurationError} (h : Refuses d overrides e) :
    ofDescriptor d overrides strict = .error e := by
  unfold ofDescriptor
  cases h with
  | fault first =>
    have hnames := d.nodup_eligible
    rw [← map_name_ofProperty] at hnames first
    rw [configureAll_of_firstFault hnames first]
  | @blank before after r sound split filled blank =>
    have hfirst : firstBlankColumn (configuredRules d overrides) = some r := by
      refine List.find?_eq_some_iff_append.mpr ⟨blank, before, after, split, ?_⟩
      intro q hq
      simpa using filled q hq
    rw [configureAll_eligible sound]
    dsimp only
    rw [hfirst]

theorem value_build (d : Descriptor σ) (overrides : List Override) (strict : Bool) :
    (build (.ok d) overrides strict).value = ofDescriptor d overrides strict := by
  unfold build
  dsimp only
  cases ofDescriptor d overrides strict <;> rfl

theorem ofDescriptor_eq_ok_iff {s : RuleSet σ} :
    ofDescriptor d overrides strict = .ok s ↔
      Accepts d overrides ∧ s = ⟨d.typeName, configuredRules d overrides, strict⟩ := by
  rcases accepts_or_refuses d overrides with h | ⟨e, h⟩
  · rw [ofDescriptor_of_accepts h, Except.ok.injEq, eq_comm]
    exact ⟨fun hs => ⟨h, hs⟩, And.right⟩
  · have herror : ofDescriptor d overrides strict = .error e := ofDescriptor_of_refuses h
    rw [herror]
    constructor
    · intro hs
      cases hs
    · rintro ⟨haccepts, -⟩
      cases herror.symm.trans (ofDescriptor_of_accepts haccepts)

theorem ofDescriptor_eq_error_iff {e : ConfigurationError} :
    ofDescriptor d overrides strict = .error e ↔ Refuses d overrides e := by
  refine ⟨?_, ofDescriptor_of_refuses⟩
  intro he
  rcases accepts_or_refuses d overrides with h | ⟨e', h⟩
  · cases (ofDescriptor_of_accepts h).symm.trans he
  · cases (ofDescriptor_of_refuses h).symm.trans he
    exact h

theorem accepts_iff : Accepts d overrides ↔
    (overrides.map Override.property).Nodup ∧
      (∀ o ∈ overrides, ∃ p ∈ d.eligible, p.name = o.property) ∧
      ∀ p ∈ d.eligible,
        ¬ Text.isBlankText (Rule.configured p (changes overrides p.name)).column = true := by
  constructor
  · intro h
    refine ⟨h.sound.once, fun o ho => List.mem_map.mp (h.sound.known o ho), ?_⟩
    intro p hp
    exact h.filled _ (List.mem_map_of_mem hp)
  · rintro ⟨honce, hknown, hfilled⟩
    exact ⟨⟨honce, fun o ho => List.mem_map.mpr (hknown o ho)⟩, List.forall_mem_map.mpr hfilled⟩

end Described

/-! ### Overrides in another order -/

theorem changes_perm {overrides overrides' : List Override}
    (hnodup : (overrides.map Override.property).Nodup) (hperm : overrides.Perm overrides')
    (property : String) : changes overrides property = changes overrides' property := by
  have hnames := hperm.map Override.property
  by_cases hmem : property ∈ overrides.map Override.property
  · obtain ⟨o, ho, rfl⟩ := List.mem_map.mp hmem
    rw [changes_of_mem hnodup ho,
      changes_of_mem (hnames.nodup_iff.mp hnodup) (hperm.mem_iff.mp ho)]
  · rw [changes_of_not_mem hmem, changes_of_not_mem fun h => hmem (hnames.mem_iff.mpr h)]

theorem configuredRules_perm {d : Descriptor σ} {overrides overrides' : List Override}
    (hnodup : (overrides.map Override.property).Nodup) (hperm : overrides.Perm overrides') :
    configuredRules d overrides = configuredRules d overrides' := by
  unfold configuredRules
  simp only [changes_perm hnodup hperm]

theorem Accepts.perm {d : Descriptor σ} {overrides overrides' : List Override}
    (h : Accepts d overrides) (hperm : overrides.Perm overrides') : Accepts d overrides' := by
  refine ⟨h.sound.perm hperm, ?_⟩
  rw [← configuredRules_perm h.sound.once hperm]
  exact h.filled

theorem build_reordered {described : Except ConfigurationError (Descriptor σ)}
    {overrides overrides' : List Override} (hperm : overrides.Perm overrides') {strict : Bool}
    {s : RuleSet σ} (h : (build described overrides strict).value = .ok s) :
    (build described overrides' strict).value = .ok s := by
  obtain ⟨d, rfl, hd⟩ := build_ok h
  obtain ⟨haccepts, rfl⟩ := ofDescriptor_eq_ok_iff.mp hd
  rw [value_build, ofDescriptor_of_accepts (haccepts.perm hperm),
    configuredRules_perm haccepts.sound.once hperm]

/-- A configuration makes a rule set exactly if the type is described, each override is for another
settable property, and no column ends blank.  The rules are then those of the settable properties in
their order: the default ones, or with the changes of their own override.  Otherwise the reason is
that of the description, or the first override at fault, or the first blank column.  In any order
the overrides make the same rules, if they make any, under the same fingerprint. -/
theorem configuration_decides_rules (described : Except ConfigurationError (Descriptor σ))
    (overrides : List Override) (strict : Bool) :
    ((∃ s, (build described overrides strict).value = .ok s) ↔
      ∃ d, described = .ok d ∧ (overrides.map Override.property).Nodup ∧
        (∀ o ∈ overrides, ∃ p ∈ d.eligible, p.name = o.property) ∧
        ∀ p ∈ d.eligible,
          ¬ Text.isBlankText (Rule.configured p (changes overrides p.name)).column = true) ∧
    (∀ s, (build described overrides strict).value = .ok s →
      ∃ d, described = .ok d ∧ s.typeName = d.typeName ∧ s.strict = strict ∧
        s.rules.map Rule.property = d.eligible ∧
        ∀ r ∈ s.rules,
          (r.name ∉ overrides.map Override.property →
            r = ⟨r.property, r.property.column.getD r.property.name, none, []⟩) ∧
          ∀ o ∈ overrides, o.property = r.name → r = Rule.configured r.property o.actions) ∧
    (∀ e, (build described overrides strict).value = .error e ↔
      described = .error e ∨ ∃ d, described = .ok d ∧ Refuses d overrides e) ∧
    ∀ overrides', overrides.Perm overrides' →
      ((∃ s, (build described overrides strict).value = .ok s) ↔
        ∃ s, (build described overrides' strict).value = .ok s) ∧
      ∀ s s', (build described overrides strict).value = .ok s →
        (build described overrides' strict).value = .ok s' → s.rules = s'.rules ∧
          ∀ {τ : Type} (target : τ) (command : String),
            Fingerprint.ofRuleSet target s command = Fingerprint.ofRuleSet target s' command := by
  refine ⟨?_, ?_, ?_, ?_⟩
  · simp only [← accepts_iff]
    constructor
    · rintro ⟨s, hs⟩
      obtain ⟨d, rfl, hd⟩ := build_ok hs
      exact ⟨d, rfl, (ofDescriptor_eq_ok_iff.mp hd).1⟩
    · rintro ⟨d, rfl, haccepts⟩
      exact ⟨_, (value_build d overrides strict).trans (ofDescriptor_of_accepts haccepts)⟩
  · intro s hs
    obtain ⟨d, rfl, hd⟩ := build_ok hs
    obtain ⟨haccepts, rfl⟩ := ofDescriptor_eq_ok_iff.mp hd
    refine ⟨d, rfl, rfl, rfl, (ofDescriptor_ok hd).2.2, List.forall_mem_map.mpr ?_⟩
    intro p _
    constructor
    · intro hunmentioned
      rw [Rule.name_configured] at hunmentioned
      rw [changes_of_not_mem hunmentioned]
      rfl
    · intro o ho hname
      rw [Rule.name_configured] at hname
      rw [← hname, changes_of_mem haccepts.sound.once ho]
      rfl
  · intro e
    cases described with
    | error e' =>
      constructor
      · intro he
        exact Or.inl (congrArg Except.error (Except.error.inj he))
      · rintro (he | ⟨d, hd, -⟩)
        · exact congrArg Except.error (Except.error.inj he)
        · cases hd
    | ok d =>
      rw [value_build, ofDescriptor_eq_error_iff]
      constructor
      · intro h
        exact Or.inr ⟨d, rfl, h⟩
      · rintro (he | ⟨d', hd, h⟩)
        · cases he
        · cases hd
          exact h
  · intro overrides' hperm
    refine ⟨⟨?_, ?_⟩, ?_⟩
    · rintro ⟨s, hs⟩
      exact ⟨s, build_reordered hperm hs⟩
    · rintro ⟨s, hs⟩
      exact ⟨s, build_reordered hperm.symm hs⟩
    · intro s s' hs hs'
      obtain rfl := Except.ok.inj ((build_reordered hperm hs).symm.trans hs')
      exact ⟨rfl, fun _ _ => rfl⟩

/-- An order whose customer is given a column twice and two processors.  Taking the overrides in the
other order changes nothing, and overriding the read-only total as well is an error. -/
theorem configuration_decides_rules_order :
    ∃ (d : Descriptor Record) (customer id total : Override) (s s' : RuleSet Record),
      Schema.describe ⟨"Order", [⟨"Id", .int, none, false⟩,
        ⟨"Customer", .text, some "customer_name", false⟩, ⟨"Total", .float, none, true⟩]⟩ = .ok d ∧
      customer = ⟨"Customer", [.column "name", .process .trim, .column "client",
        .process .uppercase]⟩ ∧
      id.property = "Id" ∧ total.property = "Total" ∧
      (build (.ok d) [customer, id] true).value = .ok s ∧
      (build (.ok d) [id, customer] true).value = .ok s' ∧ s.rules = s'.rules ∧
      (∀ r ∈ s.rules, r.name = "Customer" → r.column = "client" ∧ r.condition = none ∧
        r.processors = [.trim, .uppercase]) ∧
      (build (.ok d) [customer, total, id] true).value =
        .error (.unknownProperty "Order" "Total") := by
  let d : Descriptor Record := ⟨"Order", [SchemaProperty.toProperty ⟨"Id", .int, none, false⟩,
    SchemaProperty.toProperty ⟨"Customer", .text, some "customer_name", false⟩,
    SchemaProperty.toProperty ⟨"Total", .float, none, true⟩], by decide⟩
  let customer : Override := ⟨"Customer", [.column "name", .process .trim, .column "client",
    .process .uppercase]⟩
  let id : Override := ⟨"Id", [.condition ⟨"even", ⟨"parity"⟩, fun _ _ => true⟩]⟩
  let total : Override := ⟨"Total", []⟩
  have hdescribe : Schema.describe ⟨"Order", [⟨"Id", .int, none, false⟩,
    ⟨"Customer", .text, some "customer_name", false⟩, ⟨"Total", .float, none, true⟩]⟩ = .ok d := rfl
  obtain ⟨hmakes, hrules, -, hreordered⟩ := configuration_decides_rules (.ok d) [customer, id] true
  obtain ⟨-, -, hreasons, -⟩ := configuration_decides_rules (.ok d) [customer, total, id] true
  have hknown : ∀ o ∈ [customer, id], ∃ p ∈ d.eligible, p.name = o.property := by decide
  obtain ⟨s, hs⟩ := hmakes.mpr ⟨d, rfl, by decide, hknown, by decide⟩
  obtain ⟨hboth, hsame⟩ := hreordered [id, customer] (.swap _ _ [])
  obtain ⟨s', hs'⟩ := hboth.mp ⟨s, hs⟩
  obtain ⟨-, -, -, -, -, hown⟩ := hrules s hs
  refine ⟨d, customer, id, total, s, s', hdescribe, rfl, rfl, rfl, hs, hs',
    (hsame s s' hs hs').1, ?_, (hreasons _).mpr (Or.inr ⟨d, rfl, .fault ?_⟩)⟩
  · intro r hr hname
    rw [(hown r hr).2 customer List.mem_cons_self hname.symm]
    exact ⟨rfl, rfl, rfl⟩
  · exact ⟨[customer], total, [id], rfl, ⟨by decide, by decide⟩, .unknown (by decide) (by decide)⟩

end RuleSet

end RecordMapping
