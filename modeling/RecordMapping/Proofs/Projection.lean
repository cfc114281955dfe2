import RecordMapping.Proofs.Presence
import RecordMapping.Proofs.RuleSets
import RecordMapping.Rule.Builtin
import Mathlib.Data.List.Forall2

/-!
# RecordMapping.Proofs.Projection — what a projection means, rule by rule

A rule of a schema looks at its own cell and nothing else: `Fails` says why it fails on a row and
`Gives` which value it puts into the record.  Neither mentions the record, because a name is filled
only once and so every rule finds its field unassigned.  A projection is the first failure in the
order of the rules, or else the record of the given values in that order.
-/

namespace RecordMapping

/-! ### Fields of a record -/

namespace Record

variable {name : String}

theorem get?_eq_none {r : Record} : r.get? name = none ↔ name ∉ r.fields.map Prod.fst := by
  unfold get?
  rw [Option.map_eq_none_iff, List.find?_eq_none]
  constructor
  · intro h hmem
    obtain ⟨f, hf, rfl⟩ := List.mem_map.mp hmem
    exact h f hf (decide_eq_true rfl)
  · intro h f hf hname
    exact h (of_decide_eq_true hname ▸ List.mem_map_of_mem hf)

/-- A name that is not there yet goes to the end. -/
theorem set_of_not_mem {fields : List (String × Value)} (h : name ∉ fields.map Prod.fst)
    (v : Value) : set ⟨fields⟩ name v = ⟨fields ++ [(name, v)]⟩ := by
  unfold set
  induction fields with
  | nil => rfl
  | cons f rest ih =>
    rw [List.map_cons, List.mem_cons, not_or] at h
    have hrest : setIn name v rest = rest ++ [(name, v)] := congrArg Record.fields (ih h.2)
    show (⟨setIn name v (f :: rest)⟩ : Record) = _
    rw [setIn, if_neg (fun hf => h.1 hf.symm), hrest]
    rfl

theorem get?_set_self (r : Record) (name : String) (v : Value) : (r.set name v).get? name = some v := by
  unfold get? set
  dsimp only
  induction r.fields with
  | nil => simp [setIn]
  | cons f rest ih =>
    rw [setIn]
    by_cases hname : f.1 = name
    · simp [if_pos hname]
    · rw [if_neg hname, List.find?_cons_of_neg (by simpa using hname)]
      exact ih

theorem get?_set_of_ne (r : Record) {name other : String} (h : other ≠ name) (v : Value) :
    (r.set name v).get? other = r.get? other := by
  unfold get? set
  dsimp only
  induction r.fields with
  | nil =>
    rw [setIn, List.find?_cons_of_neg (by simpa using h.symm)]
  | cons f rest ih =>
    rw [setIn]
    by_cases hname : f.1 = name
    · have hother : ¬ f.1 = other := fun heq => h (heq.symm.trans hname)
      rw [if_pos hname, List.find?_cons_of_neg (by simpa using h.symm),
        List.find?_cons_of_neg (by simpa using hother)]
    · rw [if_neg hname]
      by_cases hother : f.1 = other
      · rw [List.find?_cons_of_pos (by simpa using hother),
          List.find?_cons_of_pos (by simpa using hother)]
      · rw [List.find?_cons_of_neg (by simpa using hother),
          List.find?_cons_of_neg (by simpa using hother)]
        exact ih

/-- A name that is there once has the value of its field. -/
theorem get?_of_mem {r : Record} (hnodup : (r.fields.map Prod.fst).Nodup) {v : Value}
    (h : (name, v) ∈ r.fields) : r.get? name = some v := by
  have hfound : (r.fields.find? fun f => decide (f.1 = name)) = some (name, v) :=
    find?_of_nodup hnodup h
  rw [get?, hfound]
  rfl

end Record

theorem Value.isNull_eq_true {v : Value} : v.isNull = true ↔ v = .null := by
  cases v <;> simp [isNull]

/-- Null stays null, `any` takes a value as it is, and every other kind gives a value of the kind. -/
theorem coerce_cases {k : Kind} {v w : Value} (h : coerce k v = .ok w) :
    (v = .null ∧ w = .null) ∨ (v ≠ .null ∧ k = .any ∧ w = v) ∨ (v ≠ .null ∧ k ≠ .any ∧ w.kind = k) := by
  by_cases hv : v = .null
  · subst hv
    exact Or.inl ⟨rfl, (Except.ok.inj h).symm⟩
  · right
    unfold coerce at h
    rw [if_neg (mt Value.isNull_eq_true.mp hv)] at h
    cases k with
    | any => exact Or.inl ⟨hv, rfl, (Except.ok.inj h).symm⟩
    | bool | int | float | text | bytes =>
      refine Or.inr ⟨hv, nofun, ?_⟩
      simp only [Except.map] at h
      split at h
      · cases h
      · obtain rfl := Except.ok.inj h
        rfl

theorem kind_coerce {k : Kind} {v w : Value} (h : coerce k v = .ok w) :
    w = .null ∨ k = .any ∨ w.kind = k := by
  rcases coerce_cases h with ⟨-, hw⟩ | ⟨-, hk, -⟩ | ⟨-, -, hkind⟩
  · exact Or.inl hw
  · exact Or.inr (Or.inl hk)
  · exact Or.inr (Or.inr hkind)

/-! ### One rule on one row -/

namespace Rule

section Cells

variable {σ : Type} (r : Rule σ) (row : Row)

/-- There is no condition, or it holds. -/
def Willing : Prop := ∀ c ∈ r.condition, c.holds row r.column = true

instance : Decidable (r.Willing row) := inferInstanceAs (Decidable (∀ c ∈ r.condition, _))

/-- The cell at `i` is the one that the rule fills its property from. -/
structure TakesAt (i : Nat) : Prop where
  present : row.ordinal? r.column = some i
  notNull : row.isNull i = false
  willing : r.Willing row

/-- The column is not there, and a strict rule that does not decline the row minds. -/
structure Misses (strict : Bool) : Prop where
  absent : row.ordinal? r.column = none
  isStrict : strict = true
  willing : r.Willing row

/-- The column is there, its cell is not null, and the row is not declined. -/
def Takes : Prop := ∃ i ∈ row.ordinal? r.column, row.isNull i = false ∧ r.Willing row

instance : Decidable (r.Takes row) :=
  inferInstanceAs (Decidable (∃ i ∈ row.ordinal? r.column, _))

variable {r row}

theorem accepts_eq_true : r.accepts row = true ↔ r.Willing row := by
  unfold accepts Willing
  cases r.condition <;> simp

theorem takes_iff : r.Takes row ↔ ∃ i, r.TakesAt row i := by
  constructor
  · rintro ⟨i, hpresent, hnull, hwilling⟩
    exact ⟨i, hpresent, hnull, hwilling⟩
  · rintro ⟨i, h⟩
    exact ⟨i, h.present, h.notNull, h.willing⟩

theorem TakesAt.unique {i j : Nat} (hi : r.TakesAt row i) (hj : r.TakesAt row j) : i = j :=
  Option.some.inj (hi.present.symm.trans hj.present)

variable {strict : Bool}

theorem fill_of_misses (h : r.Misses row strict) (target : σ) :
    r.fill strict row (row.ordinal? r.column) target = .failed .missingColumn := by
  unfold fill
  rw [h.absent, h.isStrict, accepts_eq_true.mpr h.willing]
  rfl

theorem fill_of_takesAt {i : Nat} (h : r.TakesAt row i) (target : σ) :
    r.fill strict row (row.ordinal? r.column) target =
      match r.assign row i target with
      | .ok next => .assigned next
      | .error cause => .failed cause := by
  unfold fill
  rw [h.present]
  dsimp only
  rw [h.notNull, if_neg Bool.false_ne_true]
  exact if_pos (accepts_eq_true.mpr h.willing)

/-- The three ways of leaving the property alone. -/
theorem fill_of_not_takes (hmisses : ¬ r.Misses row strict) (htakes : ¬ r.Takes row) (target : σ) :
    r.fill strict row (row.ordinal? r.column) target ∈ [.absent, .null, .declined] := by
  unfold fill
  cases hord : row.ordinal? r.column with
  | none =>
    have hno : ¬ (strict && r.accepts row) = true := by
      intro h
      obtain ⟨hstrict, haccepts⟩ := Bool.and_eq_true_iff.mp h
      exact hmisses ⟨hord, hstrict, accepts_eq_true.mp haccepts⟩
    dsimp only
    rw [if_neg hno]
    simp
  | some i =>
    dsimp only
    by_cases hnull : row.isNull i = true
    · rw [if_pos hnull]
      simp
    · have hno : ¬ r.accepts row = true := by
        intro haccepts
        exact htakes ⟨i, hord, Bool.eq_false_iff.mpr hnull, accepts_eq_true.mp haccepts⟩
      rw [if_neg hnull, if_neg hno]
      simp

end Cells

/-- The processors in turn, each given the kind and null as the prior value. -/
def pipe (kind : Kind) (processors : List Processor) (v : Value) : Except String Value :=
  processors.foldlM (fun v p => p.apply kind v .null) v

/-- Why a rule of a schema fails on a row. -/
inductive Fails (strict : Bool) (row : Row) (r : Rule Record) : BindingCause → Prop
  | missing (misses : r.Misses row strict) : Fails strict row r .missingColumn
  | read {i : Nat} {e : CursorError} (takes : r.TakesAt row i) (cell : row.read i = .error e) :
    Fails strict row r (.read e)
  | processor {i : Nat} {raw v : Value} {before after : List Processor} {p : Processor}
    {cause : String} (takes : r.TakesAt row i) (cell : row.read i = .ok raw)
    (split : r.processors = before ++ p :: after) (reached : pipe r.kind before raw = .ok v)
    (fails : p.apply r.kind v .null = .error cause) : Fails strict row r (.processor p.key cause)
  | conversion {i : Nat} {raw v : Value} {e : ConversionError} (takes : r.TakesAt row i)
    (cell : row.read i = .ok raw) (processed : pipe r.kind r.processors raw = .ok v)
    (fails : coerce r.kind v = .error e) : Fails strict row r (.conversion e)

/-- The rule puts `v` into the record. -/
def Gives (row : Row) (r : Rule Record) (v : Value) : Prop :=
  ∃ i raw w, r.TakesAt row i ∧ row.read i = .ok raw ∧ pipe r.kind r.processors raw = .ok w ∧
    coerce r.kind w = .ok v

section Pipe

variable (kind : Kind)

theorem pipe_append (before after : List Processor) (v : Value) :
    pipe kind (before ++ after) v = pipe kind before v >>= pipe kind after := by
  unfold pipe
  rw [List.foldlM_append]

theorem pipe_cons (p : Processor) (rest : List Processor) (v : Value) :
    pipe kind (p :: rest) v = p.apply kind v .null >>= pipe kind rest := by
  unfold pipe
  rw [List.foldlM_cons]

theorem process_cases (processors : List Processor) (v : Value) :
    (∃ w, pipe kind processors v = .ok w ∧ process kind .null processors v = .ok w) ∨
    ∃ before p after w cause, processors = before ++ p :: after ∧ pipe kind before v = .ok w ∧
      p.apply kind w .null = .error cause ∧
      process kind .null processors v = .error (.processor p.key cause) := by
  induction processors generalizing v with
  | nil => exact Or.inl ⟨v, rfl, rfl⟩
  | cons p rest ih =>
    cases happly : p.apply kind v .null with
    | error cause =>
      refine Or.inr ⟨[], p, rest, v, cause, rfl, rfl, happly, ?_⟩
      rw [process, happly]
    | ok next =>
      rcases ih next with
        ⟨w, hpipe, hprocess⟩ | ⟨before, q, after, w, cause, rfl, hpipe, hq, hprocess⟩
      · refine Or.inl ⟨w, ?_, ?_⟩
        · rw [pipe_cons, happly]
          exact hpipe
        · rw [process, happly]
          exact hprocess
      · refine Or.inr ⟨p :: before, q, after, w, cause, rfl, ?_, hq, ?_⟩
        · rw [pipe_cons, happly]
          exact hpipe
        · rw [process, happly]
          exact hprocess

end Pipe

section Schema

variable {strict : Bool} {row : Row} {r : Rule Record}

theorem Gives.takes {v : Value} (h : r.Gives row v) : r.Takes row := by
  obtain ⟨i, -, -, htakes, -⟩ := h
  exact takes_iff.mpr ⟨i, htakes⟩

theorem Gives.kind {v : Value} (h : r.Gives row v) :
    v = .null ∨ r.kind = .any ∨ v.kind = r.kind := by
  obtain ⟨i, raw, w, -, -, -, hcoerce⟩ := h
  exact kind_coerce hcoerce

theorem Fails.misses_or_takes {cause : BindingCause} (h : r.Fails strict row cause) :
    r.Misses row strict ∨ r.Takes row := by
  cases h with
  | missing misses => exact Or.inl misses
  | read takes | processor takes | conversion takes => exact Or.inr (takes_iff.mpr ⟨_, takes⟩)

/-- A rule that gives a value does not fail. -/
theorem Gives.not_fails {v : Value} (h : r.Gives row v) (cause : BindingCause) :
    ¬ r.Fails strict row cause := by
  obtain ⟨i, raw, w, htakes, hcell, hpipe, hcoerce⟩ := h
  intro hfails
  cases hfails with
  | missing misses => cases htakes.present.symm.trans misses.absent
  | read takes cell =>
    rw [takes.unique htakes, hcell] at cell
    cases cell
  | processor takes cell split reached fails =>
    rw [takes.unique htakes, hcell] at cell
    obtain rfl := Except.ok.inj cell
    rw [split, pipe_append, reached] at hpipe
    have hstop : pipe r.kind (_ :: _) _ = .ok w := hpipe
    rw [pipe_cons, fails] at hstop
    cases hstop
  | conversion takes cell processed fails =>
    rw [takes.unique htakes, hcell] at cell
    obtain rfl := Except.ok.inj cell
    rw [processed] at hpipe
    obtain rfl := Except.ok.inj hpipe
    rw [hcoerce] at fails
    cases fails

/-- Reading, processing and assigning a cell whose field is not assigned yet. -/
theorem assign_cases (hr : r.FillsField) {record : Record} (hfree : record.get? r.name = none)
    (strict : Bool) {i : Nat} (htakes : r.TakesAt row i) :
    (∃ cause, r.Fails strict row cause ∧ r.assign row i record = .error cause) ∨
    ∃ v, r.Gives row v ∧ r.assign row i record = .ok (record.set r.name v) := by
  have hprior : r.property.get record = .null := by
    rw [hr.get, hfree]
    rfl
  cases hcell : row.read i with
  | error e =>
    refine Or.inl ⟨.read e, .read htakes hcell, ?_⟩
    rw [assign, hcell]
  | ok raw =>
    rcases process_cases r.kind r.processors raw with
      ⟨w, hpipe, hprocess⟩ | ⟨before, p, after, w, cause, hsplit, hpipe, hp, hprocess⟩
    · cases hcoerce : coerce r.kind w with
      | error e =>
        refine Or.inl ⟨.conversion e, .conversion htakes hcell hpipe hcoerce, ?_⟩
        simp only [assign, hcell, hprior, hprocess, hr.set, hcoerce, Except.map]
      | ok v =>
        refine Or.inr ⟨v, ⟨i, raw, w, htakes, hcell, hpipe, hcoerce⟩, ?_⟩
        simp only [assign, hcell, hprior, hprocess, hr.set, hcoerce, Except.map]
    · refine Or.inl ⟨.processor p.key cause, .processor htakes hcell hsplit hpipe hp, ?_⟩
      simp only [assign, hcell, hprior, hprocess]

/-- What a rule does to a record that does not have its field: it fails, gives its value, or passes
the record by. -/
theorem fill_cases (hr : r.FillsField) {record : Record} (hfree : record.get? r.name = none)
    (strict : Bool) (row : Row) :
    (∃ cause, r.Fails strict row cause ∧
      r.fill strict row (row.ordinal? r.column) record = .failed cause) ∨
    (∃ v, r.Gives row v ∧
      r.fill strict row (row.ordinal? r.column) record = .assigned (record.set r.name v)) ∨
    (¬ r.Takes row ∧ (∀ cause, ¬ r.Fails strict row cause) ∧
      r.fill strict row (row.ordinal? r.column) record ∈ [.absent, .null, .declined]) := by
  by_cases hmisses : r.Misses row strict
  · exact Or.inl ⟨.missingColumn, .missing hmisses, fill_of_misses hmisses record⟩
  · by_cases htakes : r.Takes row
    · obtain ⟨i, hi⟩ := takes_iff.mp htakes
      rw [fill_of_takesAt hi]
      rcases assign_cases hr hfree strict hi with ⟨cause, hfails, h⟩ | ⟨v, hgives, h⟩
      · exact Or.inl ⟨cause, hfails, by rw [h]⟩
      · exact Or.inr (Or.inl ⟨v, hgives, by rw [h]⟩)
    · refine Or.inr (Or.inr ⟨htakes, ?_, fill_of_not_takes hmisses htakes record⟩)
      intro cause hfails
      rcases hfails.misses_or_takes with h | h
      · exact hmisses h
      · exact htakes h

end Schema

end Rule

/-! ### All rules on one row -/

namespace Projector

section Rules

variable {σ : Type} {targetType : String} {strict : Bool} {row : Row}

/-- Rules with the positions of their columns in a row. -/
def place (row : Row) (rules : List (Rule σ)) : List (Rule σ × Option Nat) :=
  rules.map fun r => (r, row.ordinal? r.column)

theorem fillAll_of_failed {r : Rule σ} {rest : List (Rule σ × Option Nat)} {target : σ}
    {ordinal : Option Nat} {cause : BindingCause}
    (h : r.fill strict row ordinal target = .failed cause) :
    (fillAll targetType strict row ((r, ordinal) :: rest) target).value =
      .error (failure targetType r cause) := by
  rw [fillAll, h]
  rfl

theorem fillAll_of_assigned {r : Rule σ} {rest : List (Rule σ × Option Nat)} {target next : σ}
    {ordinal : Option Nat} (h : r.fill strict row ordinal target = .assigned next) :
    (fillAll targetType strict row ((r, ordinal) :: rest) target).value =
      (fillAll targetType strict row rest next).value := by
  rw [fillAll, h]

theorem fillAll_of_passed {r : Rule σ} {rest : List (Rule σ × Option Nat)} {target : σ}
    {ordinal : Option Nat}
    (h : r.fill strict row ordinal target ∈ [.absent, .null, .declined]) :
    (fillAll targetType strict row ((r, ordinal) :: rest) target).value =
      (fillAll targetType strict row rest target).value := by
  rw [fillAll]
  simp only [List.mem_cons, List.not_mem_nil, or_false] at h
  rcases h with h | h | h <;> rw [h] <;> rfl

end Rules

/-- The fields that the rules which take their cell give, in order. -/
def Given (row : Row) (rules : List (Rule Record)) (fields : List (String × Value)) : Prop :=
  List.Forall₂ (fun r f => f.1 = r.name ∧ r.Gives row f.2)
    (rules.filter fun r => r.Takes row) fields

/-- `r` is the first rule that fails, for that cause. -/
def FirstFailure (strict : Bool) (row : Row) (rules : List (Rule Record)) (r : Rule Record)
    (cause : BindingCause) : Prop :=
  ∃ before after, rules = before ++ r :: after ∧ (∀ q ∈ before, ∀ c, ¬ q.Fails strict row c) ∧
    r.Fails strict row cause

section Schema

variable {targetType : String} {strict : Bool} {row : Row}

theorem Given.take {rules : List (Rule Record)} {fields : List (String × Value)} {r : Rule Record}
    {v : Value} (h : Given row rules fields) (hr : r.Gives row v) :
    Given row (r :: rules) ((r.name, v) :: fields) := by
  unfold Given
  rw [List.filter_cons, if_pos (decide_eq_true hr.takes)]
  exact List.Forall₂.cons ⟨rfl, hr⟩ h

theorem Given.pass {rules : List (Rule Record)} {fields : List (String × Value)} {r : Rule Record}
    (h : Given row rules fields) (hr : ¬ r.Takes row) : Given row (r :: rules) fields := by
  unfold Given
  rw [List.filter_cons, if_neg fun ht => hr (of_decide_eq_true ht)]
  exact h

theorem Given.names {rules : List (Rule Record)} {fields : List (String × Value)}
    (h : Given row rules fields) :
    fields.map Prod.fst = (rules.filter fun r => r.Takes row).map Rule.name := by
  unfold Given at h
  generalize rules.filter (fun r => r.Takes row) = taken at h
  induction h with
  | nil => rfl
  | cons hf _ ih => rw [List.map_cons, List.map_cons, ih, hf.1]

theorem Given.nodup {rules : List (Rule Record)} {fields : List (String × Value)}
    (h : Given row rules fields) (hnodup : (rules.map Rule.name).Nodup) :
    (fields.map Prod.fst).Nodup := by
  rw [h.names]
  exact hnodup.sublist (List.filter_sublist.map _)

theorem Given.exists_field {rules : List (Rule Record)} {fields : List (String × Value)}
    (h : Given row rules fields) {r : Rule Record} (hr : r ∈ rules) (htakes : r.Takes row) :
    ∃ v, r.Gives row v ∧ (r.name, v) ∈ fields := by
  have hmem : r ∈ rules.filter fun r => r.Takes row :=
    List.mem_filter.mpr ⟨hr, decide_eq_true htakes⟩
  unfold Given at h
  generalize rules.filter (fun r => r.Takes row) = taken at h hmem
  induction h with
  | nil => exact absurd hmem List.not_mem_nil
  | @cons q f _ _ hf _ ih =>
    rcases List.mem_cons.mp hmem with rfl | hlater
    · exact ⟨f.2, hf.2, hf.1 ▸ List.mem_cons_self⟩
    · obtain ⟨v, hgives, hv⟩ := ih hlater
      exact ⟨v, hgives, List.mem_cons_of_mem f hv⟩

section Fields

variable {rules : List (Rule Record)} {record : Record}

/-- A rule that takes its cell gives its field. -/
theorem Given.get?_of_takes (h : Given row rules record.fields)
    (hnodup : (rules.map Rule.name).Nodup) {r : Rule Record} (hr : r ∈ rules)
    (htakes : r.Takes row) : ∃ v, r.Gives row v ∧ record.get? r.name = some v := by
  obtain ⟨v, hgives, hmem⟩ := h.exists_field hr htakes
  exact ⟨v, hgives, Record.get?_of_mem (h.nodup hnodup) hmem⟩

/-- A rule that does not take its cell leaves its field out. -/
theorem Given.get?_of_not_takes (h : Given row rules record.fields)
    (hnodup : (rules.map Rule.name).Nodup) {r : Rule Record} (hr : r ∈ rules)
    (htakes : ¬ r.Takes row) : record.get? r.name = none := by
  rw [Record.get?_eq_none, h.names]
  intro hmem
  obtain ⟨q, hq, hname⟩ := List.mem_map.mp hmem
  obtain ⟨hrules, hqtakes⟩ := List.mem_filter.mp hq
  obtain rfl : q = r := List.inj_on_of_nodup_map hnodup hrules hr hname
  exact htakes (of_decide_eq_true hqtakes)

end Fields

theorem FirstFailure.cons {rules : List (Rule Record)} {q r : Rule Record} {cause : BindingCause}
    (h : FirstFailure strict row rules r cause) (hq : ∀ c, ¬ q.Fails strict row c) :
    FirstFailure strict row (q :: rules) r cause := by
  obtain ⟨before, after, rfl, hbefore, hr⟩ := h
  refine ⟨q :: before, after, rfl, ?_, hr⟩
  intro p hp
  rcases List.mem_cons.mp hp with rfl | hp
  · exact hq
  · exact hbefore p hp

theorem fillAll_cases (targetType : String) (strict : Bool) (row : Row)
    {rules : List (Rule Record)} (hrules : ∀ r ∈ rules, r.FillsField)
    (hnodup : (rules.map Rule.name).Nodup) {fields : List (String × Value)}
    (hfree : ∀ r ∈ rules, r.name ∉ fields.map Prod.fst) :
    (∃ r cause, FirstFailure strict row rules r cause ∧
      (fillAll targetType strict row (place row rules) ⟨fields⟩).value =
        .error (failure targetType r cause)) ∨
    ∃ more, Given row rules more ∧ (∀ r ∈ rules, ∀ c, ¬ r.Fails strict row c) ∧
      (fillAll targetType strict row (place row rules) ⟨fields⟩).value = .ok ⟨fields ++ more⟩ := by
  induction rules generalizing fields with
  | nil =>
    refine Or.inr ⟨[], List.Forall₂.nil, fun r hr => absurd hr List.not_mem_nil, ?_⟩
    rw [List.append_nil]
    rfl
  | cons r rest ih =>
    have hr : r.FillsField := hrules r List.mem_cons_self
    have hname : r.name ∉ fields.map Prod.fst := hfree r List.mem_cons_self
    obtain ⟨hfresh, hrest⟩ := List.nodup_cons.mp hnodup
    have ih {fields : List (String × Value)} :=
      @ih (fun q hq => hrules q (List.mem_cons_of_mem r hq)) hrest fields
    have hplace : place row (r :: rest) = (r, row.ordinal? r.column) :: place row rest := rfl
    rw [hplace]
    rcases Rule.fill_cases hr (Record.get?_eq_none.mpr hname) strict row with
      ⟨cause, hfails, hfill⟩ | ⟨v, hgives, hfill⟩ | ⟨htakes, hsound, hfill⟩
    · exact Or.inl ⟨r, cause, ⟨[], rest, rfl, fun q hq => absurd hq List.not_mem_nil, hfails⟩,
        fillAll_of_failed hfill⟩
    · -- the field of `r` is now assigned, and no rule after `r` has its name
      have hfree' : ∀ q ∈ rest, q.name ∉ (fields ++ [(r.name, v)]).map Prod.fst := by
        intro q hq hmem
        rw [List.map_append, List.mem_append] at hmem
        rcases hmem with hmem | hmem
        · exact hfree q (List.mem_cons_of_mem r hq) hmem
        · have hsame : q.name = r.name := List.mem_singleton.mp hmem
          exact hfresh (hsame ▸ List.mem_map_of_mem hq)
      rw [fillAll_of_assigned hfill, Record.set_of_not_mem hname]
      have hsound : ∀ c, ¬ r.Fails strict row c := hgives.not_fails
      rcases ih hfree' with ⟨q, cause, hfirst, hvalue⟩ | ⟨more, hgiven, hnone, hvalue⟩
      · exact Or.inl ⟨q, cause, hfirst.cons hsound, hvalue⟩
      · refine Or.inr ⟨(r.name, v) :: more, hgiven.take hgives,
          List.forall_mem_cons.mpr ⟨hsound, hnone⟩, ?_⟩
        rw [hvalue, List.append_assoc]
        rfl
    · rw [fillAll_of_passed hfill]
      rcases ih fun q hq => hfree q (List.mem_cons_of_mem r hq) with
        ⟨q, cause, hfirst, hvalue⟩ | ⟨more, hgiven, hnone, hvalue⟩
      · exact Or.inl ⟨q, cause, hfirst.cons hsound, hvalue⟩
      · exact Or.inr ⟨more, hgiven.pass htakes, List.forall_mem_cons.mpr ⟨hsound, hnone⟩, hvalue⟩

end Schema

/-! ### Compiled projectors -/

/-- A fingerprint of the target's own type is all that compiling needs. -/
theorem compile_of_target {τ σ : Type} [DecidableEq τ] (serial : Nat) {target : τ} (s : RuleSet σ)
    {f : Fingerprint τ} (h : f.target = target) :
    (compile serial target s f).value =
      .ok ⟨f, s.typeName, ⟨serial, s.rules.map Rule.column⟩, s.rules, s.strict⟩ := by
  unfold compile
  rw [if_pos h]
  rfl

theorem compile_ok {τ σ : Type} [DecidableEq τ] {serial : Nat} {target : τ} {s : RuleSet σ}
    {f : Fingerprint τ} {p : Projector τ σ} (h : (compile serial target s f).value = .ok p) :
    p = ⟨f, s.typeName, ⟨serial, s.rules.map Rule.column⟩, s.rules, s.strict⟩ := by
  by_cases htarget : f.target = target
  · rw [compile_of_target serial s htarget] at h
    exact (Except.ok.inj h).symm
  · rw [compile, if_neg htarget] at h
    cases h

/-- A compiled projector looks its rules up by their own columns. -/
theorem bindings_of_columns {τ σ : Type} {p : Projector τ σ}
    (h : p.columns = p.rules.map Rule.column) (row : Row) : p.bindings row = place row p.rules := by
  unfold bindings place
  rw [h, List.map_map, ← List.zip_map', List.map_id']
  rfl

/-- A projector that is compiled from a rule set takes its rules in turn, each at the place of its
column in the row. -/
theorem result_compile {τ σ : Type} [DecidableEq τ] [Target σ] {serial : Nat} {target : τ}
    {s : RuleSet σ} {f : Fingerprint τ} {p : Projector τ σ} {index : PresenceIndex}
    (hcompile : (compile serial target s f).value = .ok p) (hindex : index.Faithful) (row : Row) :
    (p.project row index).value.1 =
      (fillAll s.typeName s.strict row (place row s.rules) Target.initial).value := by
  obtain rfl := compile_ok hcompile
  rw [result_project _ row hindex, bindings_of_columns rfl]

/-- A row on its own fails as the first rule that fails, or gives the record of the given values. -/
theorem projectOne_cases {τ : Type} [DecidableEq τ] {schema : Schema} {strict : Bool}
    {s : RuleSet Record} (hs : s.OfSchema schema strict) {serial : Nat} {target : τ}
    {f : Fingerprint τ} {p : Projector τ Record}
    (hcompile : (compile serial target s f).value = .ok p) (row : Row) :
    (∃ r cause, FirstFailure s.strict row s.rules r cause ∧
      (p.projectOne row).value = .error (failure s.typeName r cause)) ∨
    ∃ record, Given row s.rules record.fields ∧
      (∀ r ∈ s.rules, ∀ c, ¬ r.Fails s.strict row c) ∧ (p.projectOne row).value = .ok record := by
  have hindex := PresenceIndex.faithful_empty p.table
  rw [← p.project_eq_projectOne row hindex, result_compile hcompile hindex row]
  rcases @fillAll_cases s.typeName s.strict row s.rules hs.fills hs.nodup []
      fun r _ => List.not_mem_nil with ⟨r, cause, hfirst, hvalue⟩ | ⟨fields, hgiven, hnone, hvalue⟩
  · exact Or.inl ⟨r, cause, hfirst, hvalue⟩
  · exact Or.inr ⟨⟨fields⟩, hgiven, hnone, hvalue⟩

/-- A row that is not projected fails one of the rules. -/
theorem fails_of_projectOne {τ : Type} [DecidableEq τ] {schema : Schema} {strict : Bool}
    {s : RuleSet Record} (hs : s.OfSchema schema strict) {serial : Nat} {target : τ}
    {f : Fingerprint τ} {p : Projector τ Record}
    (hcompile : (compile serial target s f).value = .ok p) {row : Row} {b : BindingFailure}
    (h : (p.projectOne row).value = .error b) :
    ∃ r ∈ s.rules, ∃ cause, r.Fails s.strict row cause ∧ b = failure s.typeName r cause := by
  rcases projectOne_cases hs hcompile row with ⟨r, cause, hfirst, hvalue⟩ | ⟨record, -, -, hvalue⟩
  · obtain ⟨before, after, hrules, -, hfails⟩ := hfirst
    have hr : r ∈ s.rules := hrules ▸ List.mem_append_right before List.mem_cons_self
    exact ⟨r, hr, cause, hfails, Except.error.inj (h.symm.trans hvalue)⟩
  · cases h.symm.trans hvalue

/-- A projection fails exactly if some rule fails, and then as the first one that does.  Otherwise
it gives the record of the rules that take their cell, in their order, each with the value that its
processors and its kind make of the cell. -/
theorem project_rule_by_rule {τ : Type} [DecidableEq τ] {schema : Schema}
    {overrides : List Override} {strict : Bool} {s : RuleSet Record} {serial : Nat} {target : τ}
    {f : Fingerprint τ} {p : Projector τ Record} {index : PresenceIndex}
    (hbuild : (RuleSet.build schema.describe overrides strict).value = .ok s)
    (hcompile : (compile serial target s f).value = .ok p) (hindex : index.Reachable) (row : Row) :
    s.rules.map Rule.name =
      (schema.properties.filter fun q => !q.readOnly).map SchemaProperty.name ∧
    ((∃ failure, (p.project row index).value.1 = .error failure) ↔
      ∃ r ∈ s.rules, ∃ cause, r.Fails strict row cause) ∧
    (∀ failure, (p.project row index).value.1 = .error failure →
      ∃ r cause, FirstFailure strict row s.rules r cause ∧
        failure = ⟨r.name, r.column, schema.typeName, r.kind, none, cause⟩) ∧
    ∀ record, (p.project row index).value.1 = .ok record →
      record.fields.map Prod.fst = (s.rules.filter fun r => r.Takes row).map Rule.name ∧
      (record.fields.map Prod.fst).Nodup ∧
      List.Forall₂ (fun r f => f.1 = r.name ∧ r.Gives row f.2 ∧
        (f.2 = .null ∨ r.kind = .any ∨ f.2.kind = r.kind))
        (s.rules.filter fun r => r.Takes row) record.fields := by
  have hs : s.OfSchema schema strict := RuleSet.ofSchema_build hbuild
  rw [result_compile hcompile hindex.faithful row, hs.typeName, hs.strict]
  have hcases := @fillAll_cases schema.typeName strict row s.rules hs.fills hs.nodup []
    fun r _ => List.not_mem_nil
  have hinitial : (Target.initial : Record) = ⟨[]⟩ := rfl
  rw [hinitial]
  refine ⟨hs.names, ?_⟩
  rcases hcases with ⟨r, cause, hfirst, hvalue⟩ | ⟨fields, hgiven, hnone, hvalue⟩
  · rw [hvalue]
    refine ⟨⟨?_, ?_⟩, ?_, ?_⟩
    · intro _
      obtain ⟨before, after, hsplit, -, hfails⟩ := hfirst
      have hmem : r ∈ s.rules := by
        rw [hsplit]
        exact List.mem_append_right before List.mem_cons_self
      exact ⟨r, hmem, cause, hfails⟩
    · intro _
      exact ⟨_, rfl⟩
    · intro failure h
      exact ⟨r, cause, hfirst, (Except.error.inj h).symm⟩
    · intro record h
      cases h
  · rw [hvalue, List.nil_append]
    refine ⟨⟨?_, ?_⟩, ?_, ?_⟩
    · rintro ⟨failure, h⟩
      cases h
    · rintro ⟨r, hr, cause, hfails⟩
      exact absurd hfails (hnone r hr cause)
    · intro failure h
      cases h
    · intro record h
      obtain rfl := Except.ok.inj h
      have hnames : fields.map Prod.fst = (s.rules.filter fun r => r.Takes row).map Rule.name :=
        hgiven.names
      refine ⟨hnames, ?_, ?_⟩
      · show (fields.map Prod.fst).Nodup
        rw [hnames]
        exact hs.nodup.sublist (List.filter_sublist.map _)
      · refine hgiven.imp ?_
        rintro r f ⟨hname, hgives⟩
        exact ⟨hname, hgives, hgives.kind⟩

/-- An order with a number in blanks, which is trimmed, and without a customer. -/
theorem project_rule_by_rule_order : ∃ (s : RuleSet Record) (p : Projector Unit Record) (row : Row),
    (RuleSet.build (Schema.describe ⟨"Order", [⟨"Id", .int, none, false⟩,
      ⟨"Customer", .text, some "customer_name", false⟩]⟩) [⟨"Id", [.process .trim]⟩] true).value =
        .ok s ∧
    (compile 0 () s (.ofRuleSet () s "orders")).value = .ok p ∧ p.presenceIndex.Reachable ∧
    (p.project row p.presenceIndex).value.1 = .ok ⟨[("Id", .int 7)]⟩ ∧
    ¬ ∃ r ∈ s.rules, ∃ cause, r.Fails true row cause := by
  let s : RuleSet Record := ⟨"Order",
    [⟨SchemaProperty.toProperty ⟨"Id", .int, none, false⟩, "Id", none, [.trim]⟩,
      .ofProperty (SchemaProperty.toProperty ⟨"Customer", .text, some "customer_name", false⟩)],
    true⟩
  let p : Projector Unit Record :=
    ⟨.ofRuleSet () s "orders", "Order", ⟨0, ["Id", "customer_name"]⟩, s.rules, true⟩
  let row : Row := ⟨⟨["id", "Customer_Name"]⟩, fun i => i == 1,
    fun i => .ok (if i = 0 then .text " 7 " else .null)⟩
  have hbuild : (RuleSet.build (Schema.describe ⟨"Order", [⟨"Id", .int, none, false⟩,
      ⟨"Customer", .text, some "customer_name", false⟩]⟩) [⟨"Id", [.process .trim]⟩] true).value =
        .ok s := rfl
  have hcompile : (compile 0 () s (.ofRuleSet () s "orders")).value = .ok p := rfl
  have hindex : p.presenceIndex.Reachable := .new p.table
  have hvalue : (p.project row p.presenceIndex).value.1 = .ok ⟨[("Id", .int 7)]⟩ := rfl
  refine ⟨s, p, row, hbuild, hcompile, hindex, hvalue, ?_⟩
  intro hfails
  obtain ⟨-, hiff, -⟩ := project_rule_by_rule hbuild hcompile hindex row
  obtain ⟨failure, hfailure⟩ := hiff.mpr hfails
  cases hfailure.symm.trans hvalue

end Projector

end RecordMapping
