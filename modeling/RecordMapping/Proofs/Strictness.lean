import RecordMapping.Proofs.Projection
import RecordMapping.Proofs.ResumedStreams

/-!
# RecordMapping.Proofs.Strictness — what a strict rule set adds

A rule set can be built strict or not; nothing else of it changes.  A strict rule differs from a
lenient one only where it `Lacks` its column, that is where the column is not there and no condition
declines the row.  There the lenient rule passes the row by and the strict one fails it.

A projection is a run through the rules (`takeRule`), so the first lacking rule decides: unless the
lenient run fails before it, the strict run fails there, and in every other case the two runs are one.
What a strict traversal gives without a failure, the lenient one gives as well.
-/

namespace RecordMapping

/-! ### Single rules -/

namespace Rule

variable {σ : Type} (r : Rule σ) (row : Row)

/-- The column is not there, and the row is not declined. -/
def Lacks : Prop := row.ordinal? r.column = none ∧ r.Willing row

instance : Decidable (r.Lacks row) := inferInstanceAs (Decidable (_ ∧ _))

variable {r row}

theorem lacks_iff_misses : r.Lacks row ↔ r.Misses row true :=
  ⟨fun h => ⟨h.1, rfl, h.2⟩, fun h => ⟨h.absent, h.willing⟩⟩

/-- Strictness matters to no other rule. -/
theorem fill_of_not_lacks (h : ¬ r.Lacks row) (target : σ) :
    r.fill true row (row.ordinal? r.column) target =
      r.fill false row (row.ordinal? r.column) target := by
  unfold fill
  cases hordinal : row.ordinal? r.column with
  | some i => rfl
  | none =>
    have hdeclined : r.accepts row = false := by
      rw [Bool.eq_false_iff]
      intro haccepts
      exact h ⟨hordinal, accepts_eq_true.mp haccepts⟩
    simp [hdeclined]

end Rule

/-! ### Runs through the rules -/

/-- A fold that can fail fails at one of the items, on what the items before it give. -/
theorem foldlM_eq_error_iff {α β ε : Type} {f : β → α → Except ε β} {xs : List α} {b : β} {e : ε} :
    xs.foldlM f b = .error e ↔
      ∃ j x left, xs[j]? = some x ∧ (xs.take j).foldlM f b = .ok left ∧ f left x = .error e := by
  induction xs generalizing b with
  | nil =>
    constructor
    · intro h
      cases h
    · rintro ⟨j, x, left, hx, -⟩
      simp at hx
  | cons y rest ih =>
    rw [List.foldlM_cons]
    cases hstep : f b y with
    | error e' =>
      constructor
      · intro h
        obtain rfl : e' = e := Except.error.inj h
        exact ⟨0, y, b, rfl, rfl, hstep⟩
      · rintro ⟨j, x, left, hx, hleft, hfails⟩
        cases j with
        | zero =>
          obtain rfl : y = x := by simpa using hx
          obtain rfl : b = left := Except.ok.inj hleft
          exact hstep.symm.trans hfails
        | succ j =>
          rw [List.take_succ_cons, List.foldlM_cons, hstep] at hleft
          cases hleft
    | ok next =>
      have hnext : (Except.ok next >>= fun b => rest.foldlM f b) = rest.foldlM f next := rfl
      rw [hnext, ih]
      constructor
      · rintro ⟨j, x, left, hx, hleft, hfails⟩
        refine ⟨j + 1, x, left, by simpa using hx, ?_, hfails⟩
        rw [List.take_succ_cons, List.foldlM_cons, hstep]
        exact hleft
      · rintro ⟨j, x, left, hx, hleft, hfails⟩
        cases j with
        | zero =>
          obtain rfl : y = x := by simpa using hx
          obtain rfl : b = left := Except.ok.inj hleft
          cases hstep.symm.trans hfails
        | succ j =>
          rw [List.take_succ_cons, List.foldlM_cons, hstep] at hleft
          exact ⟨j, x, left, by simpa using hx, hleft, hfails⟩

namespace Projector

section Runs

variable {σ : Type} (targetType : String) (strict : Bool) (row : Row)

/-- The target after one rule. -/
def takeRule (target : σ) (r : Rule σ) : Except BindingFailure σ :=
  match r.fill strict row (row.ordinal? r.column) target with
  | .assigned next => .ok next
  | .failed cause => .error (failure targetType r cause)
  | .absent | .null | .declined => .ok target

theorem fillAll_eq_foldlM (rules : List (Rule σ)) (target : σ) :
    (fillAll targetType strict row (place row rules) target).value =
      rules.foldlM (takeRule targetType strict row) target := by
  induction rules generalizing target with
  | nil => rfl
  | cons r rest ih =>
    have hplace : place row (r :: rest) = (r, row.ordinal? r.column) :: place row rest := rfl
    rw [hplace, List.foldlM_cons]
    unfold takeRule
    cases hfill : r.fill strict row (row.ordinal? r.column) target with
    | assigned next =>
      rw [fillAll_of_assigned hfill]
      exact ih next
    | failed cause =>
      rw [fillAll_of_failed hfill]
      rfl
    | absent | null | declined =>
      rw [fillAll_of_passed (by simp [hfill])]
      exact ih target

/-- The rule at position `j` fails, on what the rules before it leave of the target. -/
def FailsAt (rules : List (Rule σ)) (target : σ) (j : Nat) (r : Rule σ) (cause : BindingCause) :
    Prop :=
  rules[j]? = some r ∧ ∃ left, (rules.take j).foldlM (takeRule targetType strict row) target =
    .ok left ∧ r.fill strict row (row.ordinal? r.column) left = .failed cause

variable {targetType strict row} {rules : List (Rule σ)} {target : σ}

/-- Two runs are one if every rule takes every target alike in both. -/
theorem run_congr {strict' : Bool} {row' : Row}
    (h : ∀ r ∈ rules, ∀ left, takeRule targetType strict row left r =
      takeRule targetType strict' row' left r) :
    rules.foldlM (takeRule targetType strict row) target =
      rules.foldlM (takeRule targetType strict' row') target := by
  induction rules generalizing target with
  | nil => rfl
  | cons r rest ih =>
    obtain ⟨hr, hrest⟩ := List.forall_mem_cons.mp h
    rw [List.foldlM_cons, List.foldlM_cons, hr target]
    cases takeRule targetType strict' row' target r with
    | error f => rfl
    | ok next => exact ih hrest

theorem takeRule_eq_error {r : Rule σ} {f : BindingFailure} :
    takeRule targetType strict row target r = .error f ↔
      ∃ cause, r.fill strict row (row.ordinal? r.column) target = .failed cause ∧
        failure targetType r cause = f := by
  unfold takeRule
  cases r.fill strict row (row.ordinal? r.column) target <;> simp

theorem run_eq_error_iff {f : BindingFailure} :
    rules.foldlM (takeRule targetType strict row) target = .error f ↔
      ∃ j r cause, FailsAt targetType strict row rules target j r cause ∧
        failure targetType r cause = f := by
  rw [foldlM_eq_error_iff]
  constructor
  · rintro ⟨j, r, left, hr, hleft, herror⟩
    obtain ⟨cause, hfill, hf⟩ := takeRule_eq_error.mp herror
    exact ⟨j, r, cause, ⟨hr, left, hleft, hfill⟩, hf⟩
  · rintro ⟨j, r, cause, ⟨hr, left, hleft, hfill⟩, hf⟩
    exact ⟨j, r, left, hr, hleft, takeRule_eq_error.mpr ⟨cause, hfill, hf⟩⟩

/-- The first rules fail where all of them do. -/
theorem FailsAt.of_take {j i : Nat} {r : Rule σ} {cause : BindingCause}
    (h : FailsAt targetType strict row (rules.take i) target j r cause) :
    j < i ∧ FailsAt targetType strict row rules target j r cause := by
  obtain ⟨hr, left, hleft, hfill⟩ := h
  rw [List.getElem?_take] at hr
  split at hr
  · rename_i hj
    rw [List.take_take, Nat.min_eq_left (Nat.le_of_lt hj)] at hleft
    exact ⟨hj, hr, left, hleft, hfill⟩
  · cases hr

end Runs

/-! ### The strict run beside the lenient one -/

section Strict

variable {σ : Type} {targetType : String} {row : Row} {rules : List (Rule σ)} {target : σ}

theorem run_of_not_lacks (h : ∀ r ∈ rules, ¬ r.Lacks row) :
    rules.foldlM (takeRule targetType true row) target =
      rules.foldlM (takeRule targetType false row) target := by
  refine run_congr ?_
  intro r hr left
  unfold takeRule
  rw [Rule.fill_of_not_lacks (h r hr)]

/-- The position of the first rule that lacks its column. -/
def firstLacking (row : Row) (rules : List (Rule σ)) : Option Nat :=
  rules.findIdx? fun r => decide (r.Lacks row)

theorem split_of_firstLacking {i : Nat} (h : firstLacking row rules = some i) :
    ∃ r, rules[i]? = some r ∧ r.Lacks row ∧ (∀ q ∈ rules.take i, ¬ q.Lacks row) ∧
      rules = rules.take i ++ r :: rules.drop (i + 1) := by
  obtain ⟨hi, hlacks, hbefore⟩ := List.findIdx?_eq_some_iff_getElem.mp h
  refine ⟨rules[i], List.getElem?_eq_getElem hi, of_decide_eq_true hlacks, ?_, ?_⟩
  · intro q hq
    obtain ⟨j, hj, rfl⟩ := List.mem_take_iff_getElem.mp hq
    exact of_decide_eq_false (Bool.eq_false_iff.mpr (hbefore j (by omega)))
  · rw [List.getElem_cons_drop, List.take_append_drop]

/-- Unless the lenient run fails before it, the first lacking rule fails the strict run. -/
theorem strict_run_of_firstLacking {i : Nat} (h : firstLacking row rules = some i)
    (hlenient : ∀ j < i, ∀ r cause, ¬ FailsAt targetType false row rules target j r cause) :
    ∃ r, rules[i]? = some r ∧ rules.foldlM (takeRule targetType true row) target =
      .error (failure targetType r .missingColumn) := by
  obtain ⟨r, hr, hlacks, hbefore, hsplit⟩ := split_of_firstLacking h
  refine ⟨r, hr, ?_⟩
  cases hleft : (rules.take i).foldlM (takeRule targetType false row) target with
  | error f =>
    obtain ⟨j, q, cause, hfails, -⟩ := run_eq_error_iff.mp hleft
    obtain ⟨hj, hfails⟩ := hfails.of_take
    exact absurd hfails (hlenient j hj q cause)
  | ok left =>
    have hfill := Rule.fill_of_misses (Rule.lacks_iff_misses.mp hlacks) left
    rw [run_eq_error_iff]
    exact ⟨i, r, .missingColumn, ⟨hr, left, (run_of_not_lacks hbefore).trans hleft, hfill⟩, rfl⟩

/-- Before any rule lacks its column the strict run fails where the lenient one does. -/
theorem FailsAt.strict {i j : Nat} (hbefore : ∀ q ∈ rules.take i, ¬ q.Lacks row) (hj : j < i)
    {r : Rule σ} {cause : BindingCause}
    (h : FailsAt targetType false row rules target j r cause) :
    FailsAt targetType true row rules target j r cause := by
  obtain ⟨hr, left, hleft, hfill⟩ := h
  have hmem : r ∈ rules.take i := by
    refine List.mem_of_getElem? (i := j) ?_
    rw [List.getElem?_take_of_lt hj, hr]
  have hprefix : ∀ q ∈ rules.take j, ¬ q.Lacks row := by
    intro q hq
    refine hbefore q ?_
    rw [← Nat.min_eq_left (Nat.le_of_lt hj), ← List.take_take] at hq
    exact List.mem_of_mem_take hq
  exact ⟨hr, left, (run_of_not_lacks hprefix).trans hleft,
    (Rule.fill_of_not_lacks (hbefore r hmem) left).trans hfill⟩

/-- In every other case the two runs are one. -/
theorem strict_run_of_not_lacking
    (h : ∀ i, firstLacking row rules = some i →
      ∃ j < i, ∃ r cause, FailsAt targetType false row rules target j r cause) :
    rules.foldlM (takeRule targetType true row) target =
      rules.foldlM (takeRule targetType false row) target := by
  cases hfirst : firstLacking row rules with
  | none =>
    refine run_of_not_lacks ?_
    intro r hr
    simpa using List.findIdx?_eq_none_iff.mp hfirst r hr
  | some i =>
    obtain ⟨j, hj, r, cause, hfails⟩ := h i hfirst
    obtain ⟨-, -, -, hbefore, -⟩ := split_of_firstLacking hfirst
    rw [run_eq_error_iff.mpr ⟨j, r, cause, hfails, rfl⟩]
    exact run_eq_error_iff.mpr ⟨j, r, cause, hfails.strict hbefore hj, rfl⟩

end Strict

/-! ### Compiled projectors -/

section Compiled

variable {τ σ : Type} [DecidableEq τ] [Target σ] {serial : Nat} {target : τ} {s : RuleSet σ}
  {f : Fingerprint τ} {p : Projector τ σ}

/-- A compiled projector runs through its rules. -/
theorem project_eq_run (hcompile : (compile serial target s f).value = .ok p) {index : PresenceIndex}
    (hindex : index.Faithful) (row : Row) :
    (p.project row index).value.1 =
      s.rules.foldlM (takeRule s.typeName s.strict row) Target.initial := by
  rw [result_compile hcompile hindex, fillAll_eq_foldlM]

theorem projectOne_eq_run (hcompile : (compile serial target s f).value = .ok p) (row : Row) :
    (p.projectOne row).value =
      s.rules.foldlM (takeRule s.typeName s.strict row) Target.initial := by
  have hindex := PresenceIndex.faithful_empty p.table
  rw [← p.project_eq_projectOne row hindex, project_eq_run hcompile hindex]

end Compiled

end Projector

/-! ### Rule sets built both ways -/

section Built

variable {σ : Type} {described : Except ConfigurationError (Descriptor σ)}
  {overrides : List Override}

/-- The rule set does not depend on strictness but for the mark. -/
theorem RuleSet.build_strict (described : Except ConfigurationError (Descriptor σ))
    (overrides : List Override) (strict : Bool) :
    (build described overrides strict).value =
      (build described overrides false).value.map fun s => { s with strict } := by
  unfold build
  cases described with
  | error e => rfl
  | ok d =>
    dsimp only
    unfold ofDescriptor
    cases configureAll d.typeName [] overrides (d.eligible.map Rule.ofProperty) with
    | error e => rfl
    | ok rules =>
      dsimp only
      cases firstBlankColumn rules <;> rfl

end Built

namespace Stream

variable {γ τ σ : Type} [Cursor γ] [Target σ]

/-- A traversal that is cancelled from the start gives nothing. -/
theorem collect_cancelled (p : Projector τ σ) (c : γ) :
    (collect true c p).value = .error (.cancelled 0) := by
  rw [collect, drain_succ, next_of_cancelled rfl]
  rfl

/-- A projector that gives every record which another one gives takes all records where the other
one does. -/
theorem collect_ok_of_projectOne {p p' : Projector τ σ}
    (h : ∀ row r, (p.projectOne row).value = .ok r → (p'.projectOne row).value = .ok r) {flag : Bool}
    {c : γ} {rs : List σ} (hrs : (collect flag c p).value = .ok rs) :
    (collect flag c p').value = .ok rs := by
  cases flag with
  | true =>
    rw [collect_cancelled] at hrs
    cases hrs
  | false =>
    obtain ⟨hbegins, hends⟩ := collect_eq_ok_iff.mp hrs
    refine collect_eq_ok_iff.mpr ⟨?_, hends⟩
    intro j r hr
    obtain ⟨going, moves, gives⟩ := hbegins j r hr
    exact ⟨going, moves, h _ r gives⟩

end Stream

/-! ### Both rule sets on a row and on a cursor -/

section Both

open Projector (FailsAt firstLacking failure)

/-- A rule set built lenient and strict, and the projectors of both.  The lenient projection fails
as the rule that fails its run.  Let `i` be the first rule that lacks its column.  If there is one and
no rule before it fails the lenient run, then the strict projection fails for want of that column; in
every other case the projections are equal.  So the lenient traversal of a cursor gives whatever
records the strict one gives. -/
theorem strict_adds_missing_columns {τ σ : Type} [DecidableEq τ] [Target σ]
    {described : Except ConfigurationError (Descriptor σ)} {overrides : List Override}
    {s s' : RuleSet σ} {target : τ} {n n' : Nat} {f f' : Fingerprint τ}
    {lenient strict : Projector τ σ}
    (hs : (RuleSet.build described overrides false).value = .ok s)
    (hs' : (RuleSet.build described overrides true).value = .ok s')
    (hlenient : (Projector.compile n target s f).value = .ok lenient)
    (hstrict : (Projector.compile n' target s' f').value = .ok strict) :
    (∀ (row : Row) (index index' : PresenceIndex), index.Reachable → index'.Reachable →
      (∀ e, (lenient.project row index).value.1 = .error e ↔
        ∃ j r cause, FailsAt s.typeName false row s.rules Target.initial j r cause ∧
          failure s.typeName r cause = e) ∧
      (∀ i, firstLacking row s.rules = some i →
        (∀ j < i, ∀ r cause, ¬ FailsAt s.typeName false row s.rules Target.initial j r cause) →
          ∃ r, s.rules[i]? = some r ∧
            (strict.project row index').value.1 = .error (failure s.typeName r .missingColumn)) ∧
      ((∀ i, firstLacking row s.rules = some i →
        ∃ j < i, ∃ r cause, FailsAt s.typeName false row s.rules Target.initial j r cause) →
          (strict.project row index').value.1 = (lenient.project row index).value.1)) ∧
    ∀ {γ : Type} [Cursor γ] (flag : Bool) (c : γ) (rs : List σ),
      (Stream.collect flag c strict).value = .ok rs →
        (Stream.collect flag c lenient).value = .ok rs := by
  have hlenientMark : s.strict = false := by
    obtain ⟨d, -, hd⟩ := RuleSet.build_ok hs
    exact (RuleSet.ofDescriptor_ok hd).2.1
  have hstrictSet : s' = { s with strict := true } := by
    rw [RuleSet.build_strict, hs] at hs'
    exact (Except.ok.inj hs').symm
  subst hstrictSet
  constructor
  · intro row index index' hindex hindex'
    rw [Projector.project_eq_run hlenient hindex.faithful,
      Projector.project_eq_run hstrict hindex'.faithful, hlenientMark]
    exact ⟨fun e => Projector.run_eq_error_iff,
      fun i hi hbefore => Projector.strict_run_of_firstLacking hi hbefore,
      Projector.strict_run_of_not_lacking⟩
  · intro γ _ flag c rs hrs
    refine Stream.collect_ok_of_projectOne ?_ hrs
    intro row r hr
    rw [Projector.projectOne_eq_run hstrict] at hr
    rw [Projector.projectOne_eq_run hlenient, hlenientMark, ← hr]
    -- a strict run that goes through has no lacking rule that it reaches
    refine (Projector.strict_run_of_not_lacking ?_).symm
    intro i hi
    by_contra hnone
    push Not at hnone
    obtain ⟨q, -, hfails⟩ := Projector.strict_run_of_firstLacking hi hnone
    cases hr.symm.trans hfails

/-- An order without its customer: the lenient projection passes the property by. -/
theorem strict_adds_missing_columns_customer :
    ∃ (s s' : RuleSet Record) (lenient strict : Projector Unit Record) (row : Row) (r : Rule Record),
      (RuleSet.build (Schema.describe ⟨"Order", [⟨"Id", .int, none, false⟩,
        ⟨"Customer", .text, some "customer_name", false⟩]⟩) [] false).value = .ok s ∧
      (RuleSet.build (Schema.describe ⟨"Order", [⟨"Id", .int, none, false⟩,
        ⟨"Customer", .text, some "customer_name", false⟩]⟩) [] true).value = .ok s' ∧
      (Projector.compile 0 () s (.ofRuleSet () s "orders")).value = .ok lenient ∧
      (Projector.compile 1 () s' (.ofRuleSet () s' "orders")).value = .ok strict ∧
      lenient.presenceIndex.Reachable ∧ strict.presenceIndex.Reachable ∧
      r.name = "Customer" ∧
      (lenient.project row lenient.presenceIndex).value.1 = .ok ⟨[("Id", .int 7)]⟩ ∧
      (strict.project row strict.presenceIndex).value.1 =
        .error (failure "Order" r .missingColumn) := by
  let s : RuleSet Record := ⟨"Order",
    [.ofProperty (SchemaProperty.toProperty ⟨"Id", .int, none, false⟩),
      .ofProperty (SchemaProperty.toProperty ⟨"Customer", .text, some "customer_name", false⟩)],
    false⟩
  let s' : RuleSet Record := { s with strict := true }
  let lenient : Projector Unit Record :=
    ⟨.ofRuleSet () s "orders", "Order", ⟨0, ["Id", "customer_name"]⟩, s.rules, false⟩
  let strict : Projector Unit Record :=
    ⟨.ofRuleSet () s' "orders", "Order", ⟨1, ["Id", "customer_name"]⟩, s.rules, true⟩
  let row : Row := ⟨⟨["Id"]⟩, fun _ => false, fun _ => .ok (.text "7")⟩
  have hindex : lenient.presenceIndex.Reachable := .new lenient.table
  have hindex' : strict.presenceIndex.Reachable := .new strict.table
  have hvalue : (lenient.project row lenient.presenceIndex).value.1 = .ok ⟨[("Id", .int 7)]⟩ := rfl
  obtain ⟨hfails, hmissing, -⟩ := (@strict_adds_missing_columns Unit Record _ _
    (Schema.describe ⟨"Order", [⟨"Id", .int, none, false⟩,
      ⟨"Customer", .text, some "customer_name", false⟩]⟩) [] s s' () 0 1 (.ofRuleSet () s "orders")
      (.ofRuleSet () s' "orders") lenient strict rfl rfl rfl rfl).1 row lenient.presenceIndex
        strict.presenceIndex hindex hindex'
  have hfirst : firstLacking row s.rules = some 1 := by decide
  obtain ⟨r, hr, hstrict⟩ := hmissing 1 hfirst <| by
    intro j _ q cause hfail
    cases hvalue.symm.trans ((hfails _).mpr ⟨j, q, cause, hfail, rfl⟩)
  have hname : r.name = "Customer" := by
    obtain rfl := Option.some.inj hr
    rfl
  exact ⟨s, s', lenient, strict, row, r, rfl, rfl, rfl, rfl, hindex, hindex', hname, hvalue, hstrict⟩

end Both

end RecordMapping
