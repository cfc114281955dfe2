import RecordMapping.Proofs.Projection
import RecordMapping.RulesFile

/-!
# RecordMapping.Proofs.Signatures — what the signature of a rule determines

A signature names a condition and the processors by key and code.  Where the same names stand for
the same functions (`Coherent`), two rules with one signature that read and write their property in
the same way fill it in the same way on every row (`Alike`).  Rules files name nothing but the
built-in processors, which their keys tell apart, so rule sets of rules files are always coherent.
-/

namespace RecordMapping

/-! ### Rules that no row tells apart -/

namespace Rule

variable {σ : Type} {r r' : Rule σ}

structure Alike (r r' : Rule σ) : Prop where
  name : r.name = r'.name
  kind : r.kind = r'.kind
  column : r.column = r'.column
  get : r.property.get = r'.property.get
  set : r.property.set = r'.property.set
  accepts (row : Row) : r.accepts row = r'.accepts row
  process (prior v : Value) :
    process r.kind prior r.processors v = process r.kind prior r'.processors v

theorem Alike.assign (h : Alike r r') (row : Row) (ordinal : Nat) (target : σ) :
    r.assign row ordinal target = r'.assign row ordinal target := by
  unfold Rule.assign
  rw [← h.kind, ← h.get, ← h.set]
  simp only [h.process]

theorem Alike.fill (h : Alike r r') (strict : Bool) (row : Row) (ordinal : Option Nat)
    (target : σ) : r.fill strict row ordinal target = r'.fill strict row ordinal target := by
  unfold Rule.fill
  simp only [h.accepts, h.assign]

theorem process_congr {ps ps' : List Processor}
    (hnames : ps.map Processor.identity = ps'.map Processor.identity)
    (hcode : ∀ p ∈ ps, ∀ p' ∈ ps', p.identity = p'.identity → p.apply = p'.apply)
    (kind : Kind) (prior v : Value) : process kind prior ps v = process kind prior ps' v := by
  induction ps generalizing ps' v with
  | nil =>
    obtain rfl : ps' = [] := List.map_eq_nil_iff.mp hnames.symm
    rfl
  | cons p rest ih =>
    cases ps' with
    | nil => cases hnames
    | cons p' rest' =>
      obtain ⟨hp, hrest⟩ := List.cons.inj hnames
      have hkey : p.key = p'.key := congrArg ClosureIdentity.key hp
      have happly : p.apply = p'.apply := hcode p List.mem_cons_self p' List.mem_cons_self hp
      have ih := ih hrest fun q hq q' hq' =>
        hcode q (List.mem_cons_of_mem p hq) q' (List.mem_cons_of_mem p' hq')
      rw [process, process, ← hkey, ← happly]
      simp only [ih]

end Rule

/-- Conditions of both with one key and one code are one function, and so are processors. -/
structure RuleSet.Coherent {σ σ' : Type} (s : RuleSet σ) (s' : RuleSet σ') : Prop where
  condition : ∀ r ∈ s.rules, ∀ r' ∈ s'.rules, ∀ c ∈ r.condition, ∀ c' ∈ r'.condition,
    c.identity = c'.identity → c.holds = c'.holds
  processor : ∀ r ∈ s.rules, ∀ r' ∈ s'.rules, ∀ p ∈ r.processors, ∀ p' ∈ r'.processors,
    p.identity = p'.identity → p.apply = p'.apply

theorem RuleSet.Coherent.accepts {σ : Type} {s s' : RuleSet σ} (h : s.Coherent s')
    {r r' : Rule σ} (hr : r ∈ s.rules) (hr' : r' ∈ s'.rules) (hsig : r.signature = r'.signature)
    (row : Row) : r.accepts row = r'.accepts row := by
  have hcolumn : r.column = r'.column := congrArg RuleSignature.column hsig
  have hcondition : r.condition.map Condition.identity = r'.condition.map Condition.identity :=
    congrArg RuleSignature.condition hsig
  have hcode := h.condition r hr r' hr'
  unfold Rule.accepts
  rw [← hcolumn]
  cases hc : r.condition with
  | none =>
    rw [hc] at hcondition
    rw [Option.map_eq_none_iff.mp hcondition.symm]
  | some c =>
    rw [hc] at hcondition
    obtain ⟨c', hc', hsame⟩ := Option.map_eq_some_iff.mp hcondition.symm
    rw [hc', Option.all_some, Option.all_some, hcode c hc c' hc' hsame.symm]

theorem RuleSet.Coherent.alike {σ : Type} {s s' : RuleSet σ} (h : s.Coherent s') {r r' : Rule σ}
    (hr : r ∈ s.rules) (hr' : r' ∈ s'.rules) (hsig : r.signature = r'.signature)
    (hget : r.property.get = r'.property.get) (hset : r.property.set = r'.property.set) :
    r.Alike r' where
  name := congrArg RuleSignature.property hsig
  kind := congrArg RuleSignature.kind hsig
  column := congrArg RuleSignature.column hsig
  get := hget
  set := hset
  accepts := h.accepts hr hr' hsig
  process := Rule.process_congr (congrArg RuleSignature.processors hsig)
    (h.processor r hr r' hr') r.kind

/-- Rule sets with the same signatures have alike rules one by one, if rules of one name and one
kind read and write in the same way. -/
theorem RuleSet.Coherent.forall₂_alike {σ : Type} {s s' : RuleSet σ} (h : s.Coherent s')
    (hsig : s.rules.map Rule.signature = s'.rules.map Rule.signature)
    (haccess : ∀ r ∈ s.rules, ∀ r' ∈ s'.rules, r.name = r'.name → r.kind = r'.kind →
      r.property.get = r'.property.get ∧ r.property.set = r'.property.set) :
    List.Forall₂ Rule.Alike s.rules s'.rules := by
  have hlength : s.rules.length = s'.rules.length := by
    simpa using congrArg List.length hsig
  refine List.forall₂_iff_get.mpr ⟨hlength, ?_⟩
  intro i hi hi'
  have hr : s.rules[i] ∈ s.rules := List.getElem_mem hi
  have hr' : s'.rules[i] ∈ s'.rules := List.getElem_mem hi'
  have hsame : s.rules[i].signature = s'.rules[i].signature := by
    have hi_map : (s.rules.map Rule.signature)[i]? = (s'.rules.map Rule.signature)[i]? := by
      rw [hsig]
    rw [List.getElem?_map, List.getElem?_map, List.getElem?_eq_getElem hi,
      List.getElem?_eq_getElem hi'] at hi_map
    exact Option.some.inj hi_map
  obtain ⟨hget, hset⟩ := haccess _ hr _ hr' (congrArg RuleSignature.property hsame)
    (congrArg RuleSignature.kind hsame)
  exact h.alike hr hr' hsame hget hset

/-- Alike rules fill a row alike. -/
theorem Projector.fillAll_alike {σ : Type} {rules rules' : List (Rule σ)}
    (h : List.Forall₂ Rule.Alike rules rules') (targetType : String) (strict : Bool) (row : Row)
    (target : σ) :
    fillAll targetType strict row (place row rules) target =
      fillAll targetType strict row (place row rules') target := by
  unfold place
  induction h generalizing target with
  | nil => rfl
  | @cons r r' rest rest' hr _ ih =>
    rw [List.map_cons, List.map_cons, fillAll, fillAll, ← hr.column, ← hr.fill]
    simp only [ih, failure, hr.name, hr.kind, hr.column]

/-! ### Rules files -/

/-- Among the built-in processors a key names one. -/
theorem Processor.eq_of_identity {p q : Processor} (hp : p ∈ builtins) (hq : q ∈ builtins)
    (h : p.identity = q.identity) : p = q := by
  have hnodup : (builtins.map Processor.key).Nodup := by decide
  exact List.inj_on_of_nodup_map hnodup hp hq (congrArg ClosureIdentity.key h)

/-- The rule has no condition and no processor but built-in ones. -/
structure Rule.Plain {σ : Type} (r : Rule σ) : Prop where
  condition : r.condition = none
  processors : ∀ p ∈ r.processors, p ∈ Processor.builtins

/-- A rule without a condition declines no row. -/
theorem Rule.Plain.willing {σ : Type} {r : Rule σ} (h : r.Plain) (row : Row) : r.Willing row := by
  intro c hc
  rw [h.condition] at hc
  cases hc

namespace RulesFile

theorem mem_builtins_of_processors {property : String} {names : List String} {ps : List Processor}
    (h : processors property names = .ok ps) : ∀ p ∈ ps, p ∈ Processor.builtins := by
  induction names generalizing ps with
  | nil =>
    obtain rfl := Except.ok.inj h
    exact fun p hp => absurd hp List.not_mem_nil
  | cons name rest ih =>
    unfold processors at h
    split at h
    · cases h
    · rename_i q hq
      cases hrest : processors property rest with
      | error e => rw [hrest] at h; cases h
      | ok qs =>
        rw [hrest] at h
        obtain rfl := Except.ok.inj h
        exact List.forall_mem_cons.mpr ⟨List.mem_of_find?_eq_some hq, ih hrest⟩

theorem keeps_override {σ : Type} {entry : PropertyEntry} {o : Override}
    (h : override entry = .ok o) : RuleSet.Keeps (@Rule.Plain σ) o := by
  unfold override at h
  cases hps : processors entry.name entry.processors with
  | error e => rw [hps] at h; cases h
  | ok ps =>
    rw [hps] at h
    obtain rfl := Except.ok.inj h
    intro a ha r hr
    rcases List.mem_append.mp ha with ha | ha
    · obtain ⟨name, -, rfl⟩ := Option.map_eq_some_iff.mp (Option.mem_toList.mp ha)
      exact ⟨hr.condition, hr.processors⟩
    · obtain ⟨p, hp, rfl⟩ := List.mem_map.mp ha
      refine ⟨hr.condition, ?_⟩
      intro q hq
      rcases List.mem_append.mp hq with hq | hq
      · exact hr.processors q hq
      · obtain rfl := List.mem_singleton.mp hq
        exact mem_builtins_of_processors hps q hp

theorem overrides_from_entries {entries : List PropertyEntry} {os : List Override}
    (h : entries.mapM override = .ok os) : ∀ o ∈ os, ∃ entry ∈ entries, override entry = .ok o := by
  induction entries generalizing os with
  | nil =>
    obtain rfl := Except.ok.inj h
    exact fun o ho => absurd ho List.not_mem_nil
  | cons entry rest ih =>
    rw [List.mapM_cons] at h
    cases hentry : override entry with
    | error e => rw [hentry] at h; cases h
    | ok o =>
      cases hrest : rest.mapM override with
      | error e => rw [hentry, hrest] at h; cases h
      | ok more =>
        rw [hentry, hrest] at h
        obtain rfl := Except.ok.inj h
        refine List.forall_mem_cons.mpr ⟨⟨entry, List.mem_cons_self, hentry⟩, ?_⟩
        intro o' ho'
        obtain ⟨entry', hmem, hentry'⟩ := ih hrest o' ho'
        exact ⟨entry', List.mem_cons_of_mem entry hmem, hentry'⟩

theorem ruleSet_ok {f : RulesFile} {strict : Bool} {s : RuleSet Record}
    (h : (f.ruleSet strict).value = .ok s) : ∃ os, f.overrides = .ok os ∧
      (RuleSet.build f.schema.describe os (f.strict || strict)).value = .ok s := by
  unfold ruleSet at h
  split at h
  · cases h
  · rename_i os hos
    exact ⟨os, hos, h⟩

theorem plain_ruleSet {f : RulesFile} {strict : Bool} {s : RuleSet Record}
    (h : (f.ruleSet strict).value = .ok s) : ∀ r ∈ s.rules, r.Plain := by
  obtain ⟨os, hos, hs⟩ := ruleSet_ok h
  refine RuleSet.forall_build (fun p => ⟨rfl, fun q hq => absurd hq List.not_mem_nil⟩) ?_ hs
  intro o ho
  obtain ⟨entry, -, hentry⟩ := overrides_from_entries hos o ho
  exact keeps_override hentry

end RulesFile

theorem RuleSet.coherent_of_plain {σ : Type} {s s' : RuleSet σ} (h : ∀ r ∈ s.rules, r.Plain)
    (h' : ∀ r ∈ s'.rules, r.Plain) : s.Coherent s' := by
  constructor
  · intro r hr r' _ c hc
    rw [(h r hr).condition] at hc
    cases hc
  · intro r hr r' hr' p hp p' hp' hidentity
    have hsame : p = p' := Processor.eq_of_identity ((h r hr).processors p hp)
      ((h' r' hr').processors p' hp') hidentity
    rw [hsame]

end RecordMapping
