import RecordMapping.Proofs.ConfiguredRules
import RecordMapping.Proofs.FileRules

/-!
# RecordMapping.Proofs.RefusedFiles — which rules files make a rule set

A rules file is looked at four times: for processors that do not exist, for a blank target, for names
that repeat, and for blank columns.  The first of these that finds something is the reason why the
file makes no rule set (`RulesFile.Refused`).  Read-only entries matter to the names alone.

Its overrides come from entries with distinct names that all get a rule, so none is ever at fault.
-/

namespace RecordMapping

/-! ### Names that repeat -/

namespace Descriptor

theorem firstRepeated_eq_some {seen names : List String} {name : String} :
    firstRepeated seen names = some name ↔
      ∃ before after, names = before ++ name :: after ∧
        (before.Nodup ∧ ∀ n ∈ before, n ∉ seen) ∧ (name ∈ before ∨ name ∈ seen) := by
  induction names generalizing seen with
  | nil => simp [firstRepeated]
  | cons first rest ih =>
    by_cases hfirst : first ∈ seen
    · rw [firstRepeated, if_pos hfirst, Option.some.injEq]
      constructor
      · rintro rfl
        exact ⟨[], rest, rfl, ⟨List.nodup_nil, List.forall_mem_nil _⟩, Or.inr hfirst⟩
      · rintro ⟨before, after, hsplit, ⟨-, hunseen⟩, -⟩
        cases before with
        | nil => exact (List.cons.inj hsplit).1
        | cons n more =>
          obtain ⟨rfl, -⟩ := List.cons.inj hsplit
          exact absurd hfirst (hunseen first List.mem_cons_self)
    · rw [firstRepeated, if_neg hfirst, ih]
      constructor
      · rintro ⟨before, after, rfl, hunseen, hagain⟩
        refine ⟨first :: before, after, rfl, unseen_cons.mpr ⟨hfirst, hunseen⟩, ?_⟩
        rwa [List.mem_cons, or_left_comm, ← or_assoc, ← List.mem_cons] at hagain
      · rintro ⟨before, after, hsplit, hunseen, hagain⟩
        cases before with
        | nil =>
          obtain ⟨rfl, -⟩ := List.cons.inj hsplit
          exact absurd (hagain.resolve_left List.not_mem_nil) hfirst
        | cons n more =>
          obtain ⟨rfl, rfl⟩ := List.cons.inj hsplit
          refine ⟨more, after, rfl, (unseen_cons.mp hunseen).2, ?_⟩
          rwa [List.mem_cons, or_assoc, or_left_comm, ← List.mem_cons] at hagain

/-- The first name that is among those before it. -/
theorem firstRepeated_nil_eq_some {names : List String} {name : String} :
    firstRepeated [] names = some name ↔
      ∃ before after, names = before ++ name :: after ∧ before.Nodup ∧ name ∈ before := by
  simp [firstRepeated_eq_some]

end Descriptor

/-! ### Processors that do not exist -/

theorem Processor.builtin?_eq_none {name : String} :
    builtin? name = none ↔ name ∉ builtins.map key := by
  unfold builtin?
  rw [List.find?_eq_none, List.mem_map, not_exists]
  simp

namespace PropertyEntry

/-- The first processor that the entry names and that does not exist. -/
def unknown? (e : PropertyEntry) : Option String :=
  e.processors.find? fun name => decide (name ∉ Processor.builtins.map Processor.key)

theorem unknown?_eq_none {e : PropertyEntry} :
    e.unknown? = none ↔ ∀ name ∈ e.processors, name ∈ Processor.builtins.map Processor.key := by
  simp [unknown?, List.find?_eq_none]

end PropertyEntry

namespace RulesFile

theorem processors_of_unknown (property : String) {names : List String} {name : String}
    (h : (names.find? fun n => decide (n ∉ Processor.builtins.map Processor.key)) = some name) :
    processors property names = .error (.unknownProcessor property name) := by
  induction names with
  | nil => cases h
  | cons first rest ih =>
    unfold processors
    cases hfirst : Processor.builtin? first with
    | none =>
      have hunknown := Processor.builtin?_eq_none.mp hfirst
      rw [List.find?_cons_of_pos (by simpa using hunknown)] at h
      obtain rfl := Option.some.inj h
      rfl
    | some p =>
      have hknown : first ∈ Processor.builtins.map Processor.key := by
        by_contra hunknown
        cases hfirst.symm.trans (Processor.builtin?_eq_none.mpr hunknown)
      rw [List.find?_cons_of_neg (by simpa using hknown)] at h
      rw [ih h]
      rfl

theorem processors_of_known (property : String) {names : List String}
    (h : ∀ name ∈ names, name ∈ Processor.builtins.map Processor.key) :
    ∃ ps, processors property names = .ok ps := by
  induction names with
  | nil => exact ⟨[], rfl⟩
  | cons name rest ih =>
    obtain ⟨hname, hrest⟩ := List.forall_mem_cons.mp h
    obtain ⟨ps, hps⟩ := ih hrest
    unfold processors
    cases hfound : Processor.builtin? name with
    | none => exact absurd hname (Processor.builtin?_eq_none.mp hfound)
    | some p => exact ⟨p :: ps, by rw [hps]; rfl⟩

/-! ### The overrides of a file -/

theorem override_of_unknown {e : PropertyEntry} {name : String} (h : e.unknown? = some name) :
    override e = .error (.unknownProcessor e.name name) := by
  rw [override, processors_of_unknown e.name h]
  rfl

theorem override_of_known {e : PropertyEntry} (h : e.unknown? = none) :
    ∃ o, override e = .ok o := by
  obtain ⟨ps, hps⟩ := processors_of_known e.name (PropertyEntry.unknown?_eq_none.mp h)
  exact ⟨⟨e.name, (e.column.map Rule.Action.column).toList ++ ps.map Rule.Action.process⟩,
    by rw [override, hps]; rfl⟩

/-- The first entry that names a processor which does not exist ends the reading of overrides. -/
theorem mapM_override_of_unknown {before : List PropertyEntry}
    (hbefore : ∀ q ∈ before, q.unknown? = none) {e : PropertyEntry} {name : String}
    (hname : e.unknown? = some name) (after : List PropertyEntry) :
    (before ++ e :: after).mapM override = .error (.unknownProcessor e.name name) := by
  induction before with
  | nil =>
    rw [List.nil_append, List.mapM_cons, override_of_unknown hname]
    rfl
  | cons q rest ih =>
    obtain ⟨hq, hrest⟩ := List.forall_mem_cons.mp hbefore
    obtain ⟨o, ho⟩ := override_of_known hq
    rw [List.cons_append, List.mapM_cons, ho, ih hrest]
    rfl

theorem mapM_override_of_known {entries : List PropertyEntry}
    (h : ∀ e ∈ entries, e.unknown? = none) : ∃ os, entries.mapM override = .ok os := by
  induction entries with
  | nil => exact ⟨[], rfl⟩
  | cons e rest ih =>
    obtain ⟨he, hrest⟩ := List.forall_mem_cons.mp h
    obtain ⟨o, ho⟩ := override_of_known he
    obtain ⟨os, hos⟩ := ih hrest
    refine ⟨o :: os, ?_⟩
    rw [List.mapM_cons, ho, hos]
    rfl

/-- Only entries that override something name processors. -/
theorem isOverride_of_unknown {e : PropertyEntry} {name : String} (h : e.unknown? = some name)
    (hsettable : e.readOnly = false) : isOverride e = true := by
  have hnamed : e.processors ≠ [] := List.ne_nil_of_mem (List.mem_of_find?_eq_some h)
  simp [isOverride, hsettable, hnamed]

/-! ### Files with and without a rule set -/

section Files

variable (f : RulesFile)

/-- Every processor exists that an entry with a rule names. -/
def ProcessorsKnown : Prop := ∀ e ∈ f.settable, e.unknown? = none

/-- The file makes a rule set. -/
structure Accepted : Prop where
  processors : f.ProcessorsKnown
  target : ¬ Text.isBlankText f.target = true
  names : (f.properties.map PropertyEntry.name).Nodup
  columns : ∀ e ∈ f.settable, ¬ Text.isBlankText e.columnName = true

/-- Why the file makes no rule set: what the first of the four looks at it finds. -/
inductive Refused : ConfigurationError → Prop
  | processor {before after : List PropertyEntry} {e : PropertyEntry} {name : String}
    (split : f.settable = before ++ e :: after) (known : ∀ q ∈ before, q.unknown? = none)
    (unknown : e.unknown? = some name) : Refused (.unknownProcessor e.name name)
  | target (processors : f.ProcessorsKnown) (blank : Text.isBlankText f.target = true) :
    Refused (.blankTypeName f.target)
  | property {before after : List String} {name : String} (processors : f.ProcessorsKnown)
    (target : ¬ Text.isBlankText f.target = true)
    (split : f.properties.map PropertyEntry.name = before ++ name :: after)
    (nodup : before.Nodup) (again : name ∈ before) : Refused (.duplicateProperty f.target name)
  | column {before after : List PropertyEntry} {e : PropertyEntry}
    (processors : f.ProcessorsKnown) (target : ¬ Text.isBlankText f.target = true)
    (names : (f.properties.map PropertyEntry.name).Nodup)
    (split : f.settable = before ++ e :: after)
    (filled : ∀ q ∈ before, ¬ Text.isBlankText q.columnName = true)
    (blank : Text.isBlankText e.columnName = true) : Refused (.blankColumn f.target e.name)

variable {f}

theorem accepted_or_refused (f : RulesFile) : f.Accepted ∨ ∃ err, f.Refused err := by
  rcases forall_or_first (fun e : PropertyEntry => e.unknown? ≠ none) f.settable with
    hknown | ⟨before, e, after, hsplit, hbefore, he⟩
  swap
  · obtain ⟨name, hname⟩ := Option.ne_none_iff_exists'.mp he
    exact Or.inr ⟨_, .processor hsplit (fun q hq => not_not.mp (hbefore q hq)) hname⟩
  have hprocessors : f.ProcessorsKnown := fun e he => not_not.mp (hknown e he)
  by_cases htarget : Text.isBlankText f.target = true
  · exact Or.inr ⟨_, .target hprocessors htarget⟩
  cases hnames : Descriptor.firstRepeated [] (f.properties.map PropertyEntry.name) with
  | some name =>
    obtain ⟨before, after, hsplit, hnodup, hagain⟩ := Descriptor.firstRepeated_nil_eq_some.mp hnames
    exact Or.inr ⟨_, .property hprocessors htarget hsplit hnodup hagain⟩
  | none =>
    have hnodup := Descriptor.firstRepeated_nil.mp hnames
    rcases forall_or_first (fun e : PropertyEntry => Text.isBlankText e.columnName = true)
      f.settable with hfilled | ⟨before, e, after, hsplit, hbefore, hblank⟩
    · exact Or.inl ⟨hprocessors, htarget, hnodup, hfilled⟩
    · exact Or.inr ⟨_, .column hprocessors htarget hnodup hsplit hbefore hblank⟩

theorem overrides_of_known (h : f.ProcessorsKnown) : ∃ os, f.overrides = .ok os := by
  rw [overrides, filter_isOverride]
  exact mapM_override_of_known fun e he => h e (List.mem_of_mem_filter he)

theorem overrides_of_unknown {before after : List PropertyEntry} {e : PropertyEntry} {name : String}
    (hsplit : f.settable = before ++ e :: after) (hknown : ∀ q ∈ before, q.unknown? = none)
    (hname : e.unknown? = some name) :
    f.overrides = .error (.unknownProcessor e.name name) := by
  have hsettable : e.readOnly = false := by
    have he : e ∈ f.settable := by simp [hsplit]
    simpa using (List.mem_filter.mp he).2
  rw [overrides, filter_isOverride, hsplit, List.filter_append,
    List.filter_cons_of_pos (isOverride_of_unknown hname hsettable)]
  exact mapM_override_of_unknown (fun q hq => hknown q (List.mem_of_mem_filter hq)) hname _

theorem map_name_schema (f : RulesFile) :
    (f.schema.properties.map SchemaProperty.toProperty).map Property.name =
      f.properties.map PropertyEntry.name := by
  simp [schema, Function.comp_def, SchemaProperty.toProperty]

theorem describe_of_nodup (htarget : ¬ Text.isBlankText f.target = true)
    (hnames : (f.properties.map PropertyEntry.name).Nodup) : ∃ d, f.schema.describe = .ok d := by
  rw [← map_name_schema] at hnames
  exact ⟨_, Schema.describe_eq_ok htarget hnames⟩

theorem value_ruleSet {os : List Override} {d : Descriptor Record} (hos : f.overrides = .ok os)
    (hd : f.schema.describe = .ok d) (strict : Bool) :
    (f.ruleSet strict).value = RuleSet.ofDescriptor d os (f.strict || strict) := by
  unfold ruleSet
  rw [hos, hd]
  exact RuleSet.value_build d os _

theorem ruleSet_of_accepted (h : f.Accepted) (strict : Bool) :
    ∃ s, (f.ruleSet strict).value = .ok s := by
  obtain ⟨os, hos⟩ := overrides_of_known h.processors
  obtain ⟨d, hd⟩ := describe_of_nodup h.target h.names
  have haccepts : RuleSet.Accepts d os := by
    refine ⟨sound_overrides hos hd, ?_⟩
    rw [(configuredRules_eq hos hd).1]
    exact List.forall_mem_map.mpr h.columns
  rw [value_ruleSet hos hd]
  exact ⟨_, RuleSet.ofDescriptor_of_accepts haccepts⟩

theorem ruleSet_of_refused {err : ConfigurationError} (h : f.Refused err) (strict : Bool) :
    (f.ruleSet strict).value = .error err := by
  cases h with
  | processor split known unknown =>
    unfold ruleSet
    rw [overrides_of_unknown split known unknown]
    rfl
  | target processors blank =>
    obtain ⟨os, hos⟩ := overrides_of_known processors
    have hdescribe : f.schema.describe = .error (.blankTypeName f.target) := if_pos blank
    unfold ruleSet
    rw [hos, hdescribe]
    rfl
  | @property before after name processors target split nodup again =>
    obtain ⟨os, hos⟩ := overrides_of_known processors
    have hrepeated : Descriptor.firstRepeated [] (f.properties.map PropertyEntry.name) = some name :=
      Descriptor.firstRepeated_nil_eq_some.mpr ⟨before, after, split, nodup, again⟩
    rw [← map_name_schema] at hrepeated
    have hdescribe : f.schema.describe = .error (.duplicateProperty f.target name) := by
      have htarget : ¬ Text.isBlankText f.schema.typeName = true := target
      exact (if_neg htarget).trans (Descriptor.make_of_repeated hrepeated)
    unfold ruleSet
    rw [hos, hdescribe]
    rfl
  | @column before after e processors target names split filled blank =>
    obtain ⟨os, hos⟩ := overrides_of_known processors
    obtain ⟨d, hd⟩ := describe_of_nodup target names
    have hrules : RuleSet.configuredRules d os =
        before.map PropertyEntry.rule ++ e.rule :: after.map PropertyEntry.rule := by
      rw [(configuredRules_eq hos hd).1, split, List.map_append, List.map_cons]
    have hrefuses : RuleSet.Refuses d os (.blankColumn d.typeName e.rule.name) :=
      .blank (sound_overrides hos hd) hrules (List.forall_mem_map.mpr filled) blank
    rw [value_ruleSet hos hd, RuleSet.ofDescriptor_of_refuses hrefuses,
      (describe_ok hd).1]
    rfl

theorem ruleSet_eq_error_iff {err : ConfigurationError} {strict : Bool} :
    (f.ruleSet strict).value = .error err ↔ f.Refused err := by
  refine ⟨?_, fun h => ruleSet_of_refused h strict⟩
  intro herr
  rcases accepted_or_refused f with h | ⟨err', h⟩
  · obtain ⟨s, hs⟩ := ruleSet_of_accepted h strict
    cases hs.symm.trans herr
  · cases (ruleSet_of_refused h strict).symm.trans herr
    exact h

theorem exists_ruleSet_iff {strict : Bool} :
    (∃ s, (f.ruleSet strict).value = .ok s) ↔ f.Accepted := by
  refine ⟨?_, fun h => ruleSet_of_accepted h strict⟩
  rintro ⟨s, hs⟩
  rcases accepted_or_refused f with h | ⟨err, h⟩
  · exact h
  · cases (ruleSet_of_refused h strict).symm.trans hs

theorem accepted_iff : f.Accepted ↔
    (∀ e ∈ f.properties, e.readOnly = false →
      ∀ name ∈ e.processors, name ∈ Processor.builtins.map Processor.key) ∧
    ¬ Text.isBlankText f.target = true ∧ (f.properties.map PropertyEntry.name).Nodup ∧
    ∀ e ∈ f.properties, e.readOnly = false → ¬ Text.isBlankText (e.column.getD e.name) = true := by
  have hmem {e : PropertyEntry} : e ∈ f.settable ↔ e ∈ f.properties ∧ e.readOnly = false := by
    simp [settable]
  constructor
  · rintro ⟨hprocessors, htarget, hnames, hcolumns⟩
    refine ⟨?_, htarget, hnames, fun e he hsettable => hcolumns e (hmem.mpr ⟨he, hsettable⟩)⟩
    intro e he hsettable
    exact PropertyEntry.unknown?_eq_none.mp (hprocessors e (hmem.mpr ⟨he, hsettable⟩))
  · rintro ⟨hprocessors, htarget, hnames, hcolumns⟩
    refine ⟨?_, htarget, hnames, ?_⟩
    · intro e he
      exact PropertyEntry.unknown?_eq_none.mpr (hprocessors e (hmem.mp he).1 (hmem.mp he).2)
    · intro e he
      exact hcolumns e (hmem.mp he).1 (hmem.mp he).2

end Files

/-- A file makes a rule set exactly if it has a target, its names are distinct, and each entry that
is not read-only has a column and names processors that exist.  Otherwise it makes none for the
reason that is looked for first.  The overrides that come from its entries are never that reason. -/
theorem file_decides_rules (f : RulesFile) (strict : Bool) :
    ((∃ s, (f.ruleSet strict).value = .ok s) ↔
      (∀ e ∈ f.properties, e.readOnly = false →
        ∀ name ∈ e.processors, name ∈ Processor.builtins.map Processor.key) ∧
      ¬ Text.isBlankText f.target = true ∧ (f.properties.map PropertyEntry.name).Nodup ∧
      ∀ e ∈ f.properties, e.readOnly = false →
        ¬ Text.isBlankText (e.column.getD e.name) = true) ∧
    (∀ err, (f.ruleSet strict).value = .error err ↔ f.Refused err) ∧
    ∀ typeName property, (f.ruleSet strict).value ≠ .error (.duplicateRule typeName property) ∧
      (f.ruleSet strict).value ≠ .error (.unknownProperty typeName property) := by
  refine ⟨?_, fun err => ruleSet_eq_error_iff, ?_⟩
  · rw [exists_ruleSet_iff, accepted_iff]
  · intro typeName property
    constructor
    · intro herr
      cases ruleSet_eq_error_iff.mp herr
    · intro herr
      cases ruleSet_eq_error_iff.mp herr

end RulesFile

end RecordMapping
