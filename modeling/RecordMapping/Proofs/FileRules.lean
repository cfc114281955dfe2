import RecordMapping.Command.Session
import RecordMapping.Proofs.CacheSlots
import RecordMapping.Proofs.ConfiguredRules
import RecordMapping.Proofs.Signatures

/-!
# RecordMapping.Proofs.FileRules — the rules of a rules file, entry by entry

A rules file that gives a rule set gives one rule for each entry that is not read-only, in the order
of the entries: `PropertyEntry.rule` says which, with the property's name as its column unless the
entry names one (`RulesFile.makes_of_ruleSet`).  The overrides on the way there touch each entry's
own rule and no other, because the names are distinct.

Every part of such a rule shows in its signature, the processors by their names.  So two files have
one fingerprint exactly if they mean the same once defaults are written out and read-only entries
are left out, and a cache makes one projector for both exactly then.
-/

namespace RecordMapping

theorem Rule.applyAll_process {σ : Type} (r : Rule σ) (ps : List Processor) :
    r.applyAll (ps.map .process) = { r with processors := r.processors ++ ps } := by
  induction ps generalizing r with
  | nil => simp [Rule.applyAll]
  | cons p rest ih =>
    have hstep : r.applyAll ((p :: rest).map .process) =
        ({ r with processors := r.processors ++ [p] } : Rule σ).applyAll (rest.map .process) := rfl
    rw [hstep, ih]
    simp

/-! ### Entries -/

namespace PropertyEntry

def columnName (e : PropertyEntry) : String := e.column.getD e.name

def property (e : PropertyEntry) : Property Record :=
  SchemaProperty.toProperty ⟨e.name, e.kind, none, e.readOnly⟩

/-- The rule that the entry stands for. -/
def rule (e : PropertyEntry) : Rule Record :=
  ⟨e.property, e.columnName, none, e.processors.filterMap Processor.builtin?⟩

/-- The processors of the entry's rule are all those that the entry names. -/
def Known (e : PropertyEntry) : Prop := e.rule.processors.map Processor.key = e.processors

end PropertyEntry

namespace RulesFile

theorem processors_ok {property : String} {names : List String} {ps : List Processor}
    (h : processors property names = .ok ps) :
    names.filterMap Processor.builtin? = ps ∧ ps.map Processor.key = names := by
  induction names generalizing ps with
  | nil =>
    obtain rfl := Except.ok.inj h
    exact ⟨rfl, rfl⟩
  | cons name rest ih =>
    unfold processors at h
    cases hp : Processor.builtin? name with
    | none => rw [hp] at h; cases h
    | some p =>
      cases hrest : processors property rest with
      | error e => rw [hp, hrest] at h; cases h
      | ok more =>
        rw [hp, hrest] at h
        obtain rfl := Except.ok.inj h
        obtain ⟨hfound, hkeys⟩ := ih hrest
        have hkey : p.key = name := by simpa using List.find?_some hp
        rw [List.filterMap_cons, hp, hfound, List.map_cons, hkey, hkeys]
        exact ⟨rfl, rfl⟩

/-- The override of an entry turns the default rule of its property into the entry's rule. -/
theorem override_ok {e : PropertyEntry} {o : Override} (h : override e = .ok o) :
    o.property = e.name ∧ (Rule.ofProperty e.property).applyAll o.actions = e.rule ∧ e.Known := by
  unfold override at h
  cases hps : processors e.name e.processors with
  | error err => rw [hps] at h; cases h
  | ok ps =>
    rw [hps] at h
    obtain rfl := Except.ok.inj h
    obtain ⟨hfound, hkeys⟩ := processors_ok hps
    have hrule : e.rule = ⟨e.property, e.columnName, none, ps⟩ := by
      rw [PropertyEntry.rule, hfound]
    refine ⟨rfl, ?_, ?_⟩
    · rw [hrule]
      cases hcolumn : e.column with
      | none =>
        have hname : e.columnName = e.name := by simp [PropertyEntry.columnName, hcolumn]
        rw [hname]
        exact Rule.applyAll_process _ ps
      | some column =>
        have hname : e.columnName = column := by simp [PropertyEntry.columnName, hcolumn]
        rw [hname]
        exact Rule.applyAll_process ⟨e.property, column, none, []⟩ ps
    · rw [PropertyEntry.Known, hrule]
      exact hkeys

/-- An entry that overrides nothing stands for the default rule. -/
theorem rule_of_not_override {e : PropertyEntry} (hsettable : e.readOnly = false)
    (h : isOverride e = false) : Rule.ofProperty e.property = e.rule ∧ e.Known := by
  simp only [isOverride, hsettable, Bool.not_false, Bool.true_and, Bool.or_eq_false_iff,
    Option.isSome_eq_false_iff, Option.isNone_iff_eq_none, Bool.not_eq_false',
    List.isEmpty_iff] at h
  obtain ⟨hcolumn, hprocessors⟩ := h
  have hrule : e.rule = Rule.ofProperty e.property := by
    simp only [PropertyEntry.rule, PropertyEntry.columnName, hcolumn, hprocessors]
    rfl
  refine ⟨hrule.symm, ?_⟩
  rw [PropertyEntry.Known, hrule, hprocessors]
  rfl

/-! ### All entries -/

theorem overrides_cons {e : PropertyEntry} {rest : List PropertyEntry} {os : List Override}
    (h : (e :: rest).mapM override = .ok os) :
    ∃ o more, override e = .ok o ∧ rest.mapM override = .ok more ∧ os = o :: more := by
  rw [List.mapM_cons] at h
  cases hentry : override e with
  | error err => rw [hentry] at h; cases h
  | ok o =>
    cases hmore : rest.mapM override with
    | error err => rw [hentry, hmore] at h; cases h
    | ok more =>
      rw [hentry, hmore] at h
      exact ⟨o, more, rfl, rfl, (Except.ok.inj h).symm⟩

theorem map_property_overrides {entries : List PropertyEntry} {os : List Override}
    (h : entries.mapM override = .ok os) :
    os.map Override.property = entries.map PropertyEntry.name := by
  induction entries generalizing os with
  | nil =>
    obtain rfl := Except.ok.inj h
    rfl
  | cons e rest ih =>
    obtain ⟨o, more, ho, hmore, rfl⟩ := overrides_cons h
    rw [List.map_cons, List.map_cons, (override_ok ho).1, ih hmore]

theorem exists_override {entries : List PropertyEntry} {os : List Override}
    (h : entries.mapM override = .ok os) {e : PropertyEntry} (he : e ∈ entries) :
    ∃ o ∈ os, override e = .ok o := by
  induction entries generalizing os with
  | nil => cases he
  | cons first rest ih =>
    obtain ⟨o, more, ho, hmore, rfl⟩ := overrides_cons h
    rcases List.mem_cons.mp he with rfl | he
    · exact ⟨o, List.mem_cons_self, ho⟩
    · obtain ⟨q, hq, hoverride⟩ := ih hmore he
      exact ⟨q, List.mem_cons_of_mem o hq, hoverride⟩

/-- The changes that are meant for the rule of an entry make it the entry's own. -/
theorem configured_entry {entries : List PropertyEntry} {os : List Override}
    (hnodup : (entries.map PropertyEntry.name).Nodup)
    (hos : (entries.filter isOverride).mapM override = .ok os) {e : PropertyEntry}
    (he : e ∈ entries) (hsettable : e.readOnly = false) :
    Rule.configured e.property (RuleSet.changes os e.name) = e.rule ∧ e.Known := by
  have hnames := map_property_overrides hos
  have honce : (os.map Override.property).Nodup := by
    rw [hnames]
    exact hnodup.sublist (List.filter_sublist.map _)
  rw [← Rule.applyAll_ofProperty]
  by_cases hoverride : isOverride e = true
  · obtain ⟨o, ho, hentry⟩ := exists_override hos (List.mem_filter.mpr ⟨he, hoverride⟩)
    obtain ⟨hname, hrule, hknown⟩ := override_ok hentry
    rw [← hname, RuleSet.changes_of_mem honce ho]
    exact ⟨hrule, hknown⟩
  · have hnone : e.name ∉ os.map Override.property := by
      rw [hnames]
      intro hmem
      obtain ⟨q, hq, hname⟩ := List.mem_map.mp hmem
      obtain ⟨hq, hoverrides⟩ := List.mem_filter.mp hq
      rw [List.inj_on_of_nodup_map hnodup hq he hname] at hoverrides
      exact hoverride hoverrides
    rw [RuleSet.changes_of_not_mem hnone]
    exact rule_of_not_override hsettable (Bool.eq_false_iff.mpr hoverride)

/-- The entries that get a rule. -/
def settable (f : RulesFile) : List PropertyEntry := f.properties.filter fun e => !e.readOnly

/-- The rule set that a file gives. -/
structure Makes (f : RulesFile) (strict : Bool) (s : RuleSet Record) : Prop where
  typeName : s.typeName = f.target
  strict : s.strict = (f.strict || strict)
  rules : s.rules = f.settable.map PropertyEntry.rule
  known : ∀ e ∈ f.settable, e.Known

theorem nodup_settable {f : RulesFile} (h : (f.properties.map PropertyEntry.name).Nodup) :
    (f.settable.map PropertyEntry.name).Nodup :=
  h.sublist (List.filter_sublist.map _)

/-- A described file has distinct names, and its default rules are those of the entries that get a
rule. -/
theorem describe_ok {f : RulesFile} {d : Descriptor Record} (h : f.schema.describe = .ok d) :
    d.typeName = f.target ∧ (f.properties.map PropertyEntry.name).Nodup ∧
      d.eligible = f.settable.map PropertyEntry.property := by
  obtain ⟨hnodup, rfl⟩ := Schema.describe_ok h
  refine ⟨rfl, ?_, ?_⟩
  · simpa [schema, List.map_map, Function.comp_def, SchemaProperty.toProperty] using hnodup
  · simp only [Descriptor.eligible, schema, settable, List.map_map, List.filter_map]
    rfl

/-- Only entries that get a rule override it. -/
theorem filter_isOverride (f : RulesFile) :
    f.properties.filter isOverride = f.settable.filter isOverride := by
  rw [settable, List.filter_filter]
  congr 1
  funext e
  cases he : e.readOnly <;> simp [isOverride, he]

section Described

variable {f : RulesFile} {os : List Override} {d : Descriptor Record}

/-- Overrides of distinct entries that get a rule are never at fault. -/
theorem sound_overrides (hos : f.overrides = .ok os) (hd : f.schema.describe = .ok d) :
    RuleSet.Sound (d.eligible.map Property.name) os := by
  obtain ⟨-, hnodup, heligible⟩ := describe_ok hd
  rw [overrides, filter_isOverride] at hos
  have hproperties := map_property_overrides hos
  have hnames : d.eligible.map Property.name = f.settable.map PropertyEntry.name := by
    rw [heligible, List.map_map]
    rfl
  constructor
  · rw [hproperties]
    exact (nodup_settable hnodup).sublist (List.filter_sublist.map _)
  · intro o ho
    have hmem : o.property ∈ os.map Override.property := List.mem_map_of_mem ho
    rw [hproperties] at hmem
    rw [hnames]
    exact (List.filter_sublist.map _).subset hmem

/-- The overrides of a described file leave the rules that its entries stand for. -/
theorem configuredRules_eq (hos : f.overrides = .ok os) (hd : f.schema.describe = .ok d) :
    RuleSet.configuredRules d os = f.settable.map PropertyEntry.rule ∧
      ∀ e ∈ f.settable, e.Known := by
  obtain ⟨-, hnodup, heligible⟩ := describe_ok hd
  rw [overrides, filter_isOverride] at hos
  have hentries : ∀ e ∈ f.settable,
      Rule.configured e.property (RuleSet.changes os e.name) = e.rule ∧ e.Known := by
    intro e he
    have hsettable : e.readOnly = false := by simpa using (List.mem_filter.mp he).2
    exact configured_entry (nodup_settable hnodup) hos he hsettable
  refine ⟨?_, fun e he => (hentries e he).2⟩
  rw [RuleSet.configuredRules, heligible, List.map_map]
  exact List.map_congr_left fun e he => (hentries e he).1

end Described

theorem makes_of_ruleSet {f : RulesFile} {strict : Bool} {s : RuleSet Record}
    (h : (f.ruleSet strict).value = .ok s) : f.Makes strict s := by
  obtain ⟨os, hos, hbuild⟩ := ruleSet_ok h
  obtain ⟨d, hd, hs⟩ := RuleSet.build_ok hbuild
  obtain ⟨-, rfl⟩ := RuleSet.ofDescriptor_eq_ok_iff.mp hs
  obtain ⟨hrules, hknown⟩ := configuredRules_eq hos hd
  exact ⟨(describe_ok hd).1, rfl, hrules, hknown⟩

/-! ### What a file means -/

/-- What an entry says, with its column written out. -/
structure EntryMeaning where
  name : String
  kind : Kind
  column : String
  processors : List String
  deriving DecidableEq, Repr

/-- What a file says, with its defaults written out and without its read-only entries. -/
structure Meaning where
  target : String
  command : String
  strict : Bool
  entries : List EntryMeaning
  deriving DecidableEq, Repr

/-- The meaning of a file whose rules are made strict if `strict` says so. -/
def meaning (f : RulesFile) (strict : Bool) : Meaning where
  target := f.target
  command := f.command.getD f.target
  strict := f.strict || strict
  entries := (f.properties.filter fun e => !e.readOnly).map fun e =>
    ⟨e.name, e.kind, e.column.getD e.name, e.processors⟩

/-! ### Fingerprints -/

namespace EntryMeaning

def signature (m : EntryMeaning) : RuleSignature where
  property := m.name
  kind := m.kind
  column := m.column
  condition := none
  processors := (m.processors.filterMap Processor.builtin?).map Processor.identity

/-- The entry that a signature shows; processors have their names for keys. -/
def ofSignature (g : RuleSignature) : EntryMeaning :=
  ⟨g.property, g.kind, g.column, g.processors.map ClosureIdentity.key⟩

end EntryMeaning

namespace Meaning

variable {τ : Type}

def fingerprint (target : τ) (m : Meaning) : Fingerprint τ :=
  ⟨target, m.target, m.entries.map EntryMeaning.signature, m.strict, m.command⟩

def ofFingerprint (f : Fingerprint τ) : Meaning :=
  ⟨f.typeName, f.command, f.strict, f.rules.map EntryMeaning.ofSignature⟩

end Meaning

section Fingerprints

variable {τ : Type} {f : RulesFile} {strict : Bool} {s : RuleSet Record}

theorem Makes.fingerprint (h : f.Makes strict s) (target : τ) :
    Fingerprint.ofRuleSet target s f.commandId = (f.meaning strict).fingerprint target := by
  have hsignatures : s.rules.map Rule.signature =
      (f.meaning strict).entries.map EntryMeaning.signature := by
    rw [h.rules, meaning, settable, List.map_map, List.map_map]
    rfl
  rw [Fingerprint.ofRuleSet, h.typeName, h.strict, hsignatures]
  rfl

theorem Makes.meaning (h : f.Makes strict s) (target : τ) :
    Meaning.ofFingerprint (Fingerprint.ofRuleSet target s f.commandId) = f.meaning strict := by
  have hentries : (s.rules.map Rule.signature).map EntryMeaning.ofSignature =
      (f.meaning strict).entries := by
    rw [h.rules, List.map_map, List.map_map]
    refine List.map_congr_left ?_
    intro e he
    have hkeys : e.rule.signature.processors.map ClosureIdentity.key = e.processors := by
      refine Eq.trans ?_ (h.known e he)
      exact List.map_map
    show EntryMeaning.ofSignature e.rule.signature = _
    rw [EntryMeaning.ofSignature, hkeys]
    rfl
  rw [Meaning.ofFingerprint, Fingerprint.ofRuleSet, hentries, h.typeName, h.strict]
  rfl

theorem Makes.fingerprint_eq_iff {g : RulesFile} {strict' : Bool} {t : RuleSet Record}
    (hs : f.Makes strict s) (ht : g.Makes strict' t) (target : τ) :
    Fingerprint.ofRuleSet target s f.commandId = Fingerprint.ofRuleSet target t g.commandId ↔
      f.meaning strict = g.meaning strict' := by
  constructor
  · intro h
    rw [← hs.meaning target, ← ht.meaning target, h]
  · intro h
    rw [hs.fingerprint target, ht.fingerprint target, h]

end Fingerprints

/-- Two files have one fingerprint exactly if they mean the same.  A cache that has no projector for
the second file makes none for it after the first exactly then. -/
theorem fingerprints_agree_iff_meaning {a b : RulesFile} {strictA strictB : Bool}
    {s t : RuleSet Record} (hs : (a.ruleSet strictA).value = .ok s)
    (ht : (b.ruleSet strictB).value = .ok t) :
    (∀ {τ : Type} [DecidableEq τ] (target : τ),
      (Fingerprint.ofRuleSet target s a.commandId).agrees
        (Fingerprint.ofRuleSet target t b.commandId) = true ↔
          a.meaning strictA = b.meaning strictB) ∧
    ∀ c : Command.RecordCache,
      c.get? (Fingerprint.ofRuleSet .record t b.commandId) = none →
        let first := (Cache.fetch c .record s a.commandId).value.cache
        (Cache.fetch first .record t b.commandId).value.ran = false ↔
          a.meaning strictA = b.meaning strictB := by
  have hsame {τ : Type} (target : τ) := Makes.fingerprint_eq_iff (makes_of_ruleSet hs)
    (makes_of_ruleSet ht) target
  constructor
  · intro τ _ target
    rw [Fingerprint.agrees_iff_eq, hsame]
  · intro c hnone
    dsimp only
    rw [Cache.ran_fetch, Option.isNone_eq_false_iff, Cache.get?_fetch, hnone,
      Option.isSome_none, Bool.or_false, decide_eq_true_iff, eq_comm, hsame]

/-- The second file writes out the command and the columns, is strict by its caller's wish, and does
without the read-only entry, whose processor does not even exist.  The third changes the order of
two processors. -/
theorem fingerprints_agree_iff_meaning_written_out : ∃ s t u : RuleSet Record,
    (ruleSet ⟨"Order", none, true, [⟨"Id", .int, none, [], false⟩,
      ⟨"Note", .text, none, ["trim", "lowercase"], false⟩,
      ⟨"Total", .float, some "", ["reverse"], true⟩]⟩ false).value = .ok s ∧
    (ruleSet ⟨"Order", some "Order", false, [⟨"Id", .int, some "Id", [], false⟩,
      ⟨"Note", .text, some "Note", ["trim", "lowercase"], false⟩]⟩ true).value = .ok t ∧
    (ruleSet ⟨"Order", some "Order", false, [⟨"Id", .int, some "Id", [], false⟩,
      ⟨"Note", .text, some "Note", ["lowercase", "trim"], false⟩]⟩ true).value = .ok u ∧
    (Fingerprint.ofRuleSet () s "Order").agrees (Fingerprint.ofRuleSet () t "Order") = true ∧
    (Fingerprint.ofRuleSet () s "Order").agrees (Fingerprint.ofRuleSet () u "Order") = false := by
  obtain ⟨s, hs⟩ : ∃ s, (ruleSet ⟨"Order", none, true, [⟨"Id", .int, none, [], false⟩,
      ⟨"Note", .text, none, ["trim", "lowercase"], false⟩,
      ⟨"Total", .float, some "", ["reverse"], true⟩]⟩ false).value = .ok s := ⟨_, rfl⟩
  obtain ⟨t, ht⟩ : ∃ t, (ruleSet ⟨"Order", some "Order", false, [⟨"Id", .int, some "Id", [], false⟩,
      ⟨"Note", .text, some "Note", ["trim", "lowercase"], false⟩]⟩ true).value = .ok t := ⟨_, rfl⟩
  obtain ⟨u, hu⟩ : ∃ u, (ruleSet ⟨"Order", some "Order", false, [⟨"Id", .int, some "Id", [], false⟩,
      ⟨"Note", .text, some "Note", ["lowercase", "trim"], false⟩]⟩ true).value = .ok u := ⟨_, rfl⟩
  refine ⟨s, t, u, hs, ht, hu, ?_, ?_⟩
  · exact ((fingerprints_agree_iff_meaning hs ht).1 ()).mpr (by decide)
  · refine Bool.eq_false_iff.mpr ?_
    intro hagree
    exact absurd (((fingerprints_agree_iff_meaning hs hu).1 ()).mp hagree) (by decide)

end RulesFile

end RecordMapping
