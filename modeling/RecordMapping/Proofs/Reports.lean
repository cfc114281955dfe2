import RecordMapping.Command.Session
import RecordMapping.Proofs.Projection
import RecordMapping.Proofs.ResumedStreams
import RecordMapping.Row.Memory

/-!
# RecordMapping.Proofs.Reports — no report depends on what a cell holds

Two rows agree at a rule if its cell is null in both or in neither, the condition gives the same
verdict, and reading, processing and assigning succeed in both or in neither (`Rule.Agrees`).  Then
the rule reports the same on both, and so does a projection of rows that agree at every rule they
reach.  Two cursors whose calls are alike in this way, and end alike, are mapped with the same events,
though the records and the failures may differ in every value.
-/

namespace RecordMapping

open RowSource (moved)

/-! ### One rule -/

/-- Results that succeed alike. -/
theorem ok_or_error_of_isOk_eq {ε ε' α α' : Type} {a : Except ε α} {b : Except ε' α'}
    (h : a.isOk = b.isOk) :
    (∃ x y, a = .ok x ∧ b = .ok y) ∨ ∃ e e', a = .error e ∧ b = .error e' := by
  cases a with
  | ok x =>
    cases b with
    | ok y => exact Or.inl ⟨x, y, rfl, rfl⟩
    | error e' => cases h
  | error e =>
    cases b with
    | ok y => cases h
    | error e' => exact Or.inr ⟨e, e', rfl, rfl⟩

namespace Rule

variable {σ : Type}

/-- The same becomes of a property, whatever values are assigned or found at fault. -/
inductive Outcome.Same : Outcome σ → Outcome σ → Prop
  | passed {outcome : Outcome σ} (pass : outcome ∈ [.absent, .null, .declined]) :
    Same outcome outcome
  | assigned (next next' : σ) : Same (.assigned next) (.assigned next')
  | failed (cause cause' : BindingCause) : Same (.failed cause) (.failed cause')

/-- Two rows agree at a rule that finds these targets. -/
structure Agrees (r : Rule σ) (ordinal : Option Nat) (row row' : Row) (target target' : σ) : Prop where
  verdict : r.accepts row = r.accepts row'
  null (i : Nat) : ordinal = some i → row.isNull i = row'.isNull i
  success (i : Nat) : ordinal = some i → row.isNull i = false → r.accepts row = true →
    (r.assign row i target).isOk = (r.assign row' i target').isOk

theorem Agrees.same_fill {r : Rule σ} {ordinal : Option Nat} {row row' : Row} {target target' : σ}
    (h : r.Agrees ordinal row row' target target') (strict : Bool) :
    (r.fill strict row ordinal target).Same (r.fill strict row' ordinal target') := by
  unfold fill
  rw [← h.verdict]
  cases ordinal with
  | none =>
    dsimp only
    split
    · exact .failed _ _
    · exact .passed (by simp)
  | some i =>
    dsimp only
    rw [← h.null i rfl]
    cases hcell : row.isNull i with
    | true => exact .passed (by simp)
    | false =>
      cases haccepts : r.accepts row with
      | false => exact .passed (by simp)
      | true =>
        simp only [Bool.false_eq_true, if_false, if_true]
        rcases ok_or_error_of_isOk_eq (h.success i rfl hcell haccepts) with
          ⟨next, next', hassign, hassign'⟩ | ⟨cause, cause', hassign, hassign'⟩
        · rw [hassign, hassign']
          exact .assigned next next'
        · rw [hassign, hassign']
          exact .failed cause cause'

/-- What a rule reports when it leaves its property alone. -/
def reports (r : Rule σ) : Outcome σ → List Event
  | .absent => [.columnAbsent r.name r.column]
  | .null => [.nullSkipped r.name r.column]
  | .declined => [.fieldDeclined r.name]
  | _ => []

end Rule

/-! ### Rows -/

namespace Projector

section Rules

variable {σ : Type} {targetType : String} {strict : Bool} {row row' : Row}

variable (targetType strict row row') in
/-- Two rows agree at each of the rules that both get to, with what the rules before have made of the
targets. -/
def RulesAgree (placed : List (Rule σ × Option Nat)) (target target' : σ) : Prop :=
  ∀ before r ordinal after next next', placed = before ++ (r, ordinal) :: after →
    (fillAll targetType strict row before target).value = .ok next →
    (fillAll targetType strict row' before target').value = .ok next' →
    r.Agrees ordinal row row' next next'

variable {placed : List (Rule σ × Option Nat)} {target target' : σ}

/-- The rules after the first one agree with the targets that it leaves. -/
theorem RulesAgree.tail {first : Rule σ × Option Nat} {next next' : σ}
    (h : RulesAgree targetType strict row row' (first :: placed) target target')
    (hnext : ∀ rest, (fillAll targetType strict row (first :: rest) target).value =
      (fillAll targetType strict row rest next).value)
    (hnext' : ∀ rest, (fillAll targetType strict row' (first :: rest) target').value =
      (fillAll targetType strict row' rest next').value) :
    RulesAgree targetType strict row row' placed next next' := by
  intro before r ordinal after u u' hplaced hu hu'
  refine h (first :: before) r ordinal after u u' (by rw [hplaced]; rfl) ?_ ?_
  · rw [hnext, hu]
  · rw [hnext', hu']

theorem events_fillAll_of_passed {r : Rule σ} {ordinal : Option Nat}
    (h : r.fill strict row ordinal target ∈ [.absent, .null, .declined]) :
    (fillAll targetType strict row ((r, ordinal) :: placed) target).events =
      r.reports (r.fill strict row ordinal target) ++
        (fillAll targetType strict row placed target).events := by
  rw [fillAll]
  simp only [List.mem_cons, List.not_mem_nil, or_false] at h
  rcases h with h | h | h <;> rw [h] <;> rfl

/-- Rows that agree are reported alike, and both can be filled or neither. -/
theorem RulesAgree.fillAll (h : RulesAgree targetType strict row row' placed target target') :
    (fillAll targetType strict row placed target).events =
        (fillAll targetType strict row' placed target').events ∧
      (fillAll targetType strict row placed target).value.isOk =
        (fillAll targetType strict row' placed target').value.isOk := by
  induction placed generalizing target target' with
  | nil => exact ⟨rfl, rfl⟩
  | cons first rest ih =>
    obtain ⟨r, ordinal⟩ := first
    have hsame := (h [] r ordinal rest target target' rfl rfl rfl).same_fill strict
    generalize hfill : r.fill strict row ordinal target = outcome at hsame
    generalize hfill' : r.fill strict row' ordinal target' = outcome' at hsame
    cases hsame with
    | passed pass =>
      have hpass := hfill ▸ pass
      have hpass' := hfill' ▸ pass
      obtain ⟨hevents, hok⟩ :=
        ih (h.tail (fun _ => fillAll_of_passed hpass) fun _ => fillAll_of_passed hpass')
      constructor
      · rw [events_fillAll_of_passed hpass, events_fillAll_of_passed hpass', hfill, hfill', hevents]
      · rw [fillAll_of_passed hpass, fillAll_of_passed hpass', hok]
    | assigned next next' =>
      rw [Projector.fillAll, Projector.fillAll, hfill, hfill']
      exact ih (h.tail (fun _ => fillAll_of_assigned hfill) fun _ => fillAll_of_assigned hfill')
    | failed cause cause' =>
      rw [Projector.fillAll, Projector.fillAll, hfill, hfill']
      exact ⟨rfl, rfl⟩

end Rules

end Projector

theorem Row.ordinal?_congr {row row' : Row} (h : row.shape = row'.shape) :
    row.ordinal? = row'.ordinal? := by
  funext column
  rw [ordinal?, h, ordinal?]

/-- An index asks nothing of a row but its shape. -/
theorem PresenceIndex.resolve_congr {row row' : Row} (h : row.shape = row'.shape)
    (index : PresenceIndex) : index.resolve row = index.resolve row' := by
  have hlookUp : lookUp index.table row = lookUp index.table row' := by
    rw [lookUp, h, Row.ordinal?_congr h, lookUp]
  unfold resolve visit visitEvents
  rw [hlookUp, h]

namespace Projector

variable {τ σ : Type} [Target σ] {p : Projector τ σ} {row row' : Row}

/-- Two rows have the same columns and agree at each of the projector's rules that both get to. -/
structure RowsAgree (p : Projector τ σ) (row row' : Row) : Prop where
  shape : row.shape = row'.shape
  rules : RulesAgree p.targetType p.strict row row' (p.bindings row) Target.initial Target.initial

theorem events_project (p : Projector τ σ) (row : Row) {index : PresenceIndex}
    (h : index.Faithful) : (p.project row index).events =
      ((index.forTable p.table).resolve row).events ++
        (fillAll p.targetType p.strict row (p.bindings row) Target.initial).events := by
  rw [← p.zip_ordinals row h, project, Logged.events_bind, Logged.events_bind, Logged.events_pure,
    List.append_nil]
  rfl

/-- Projections of rows that agree report the same, succeed alike and leave the same index. -/
theorem RowsAgree.project (h : p.RowsAgree row row') {index : PresenceIndex}
    (hindex : index.Faithful) :
    (p.project row index).events = (p.project row' index).events ∧
      (p.project row index).value.1.isOk = (p.project row' index).value.1.isOk ∧
      (p.project row index).value.2 = (p.project row' index).value.2 := by
  have hresolve := (index.forTable p.table).resolve_congr h.shape
  have hbindings : p.bindings row = p.bindings row' := by
    rw [bindings, Row.ordinal?_congr h.shape, bindings]
  obtain ⟨hevents, hok⟩ := h.rules.fillAll
  refine ⟨?_, ?_, congrArg Logged.value hresolve⟩
  · rw [p.events_project row hindex, p.events_project row' hindex, hresolve, hevents, hbindings]
  · rw [p.result_project row hindex, p.result_project row' hindex, hok, hbindings]

end Projector

/-! ### One call -/

namespace Stream

/-- What a stream reports when it ends. -/
def total {γ τ σ : Type} (s : Stream γ τ σ) : Event :=
  .rowsMaterialized s.projector.targetType s.rows s.index.shapesSeen

section Events

variable {γ τ σ : Type} [RowSource γ] [Target σ] {s : Stream γ τ σ}

theorem events_next_of_finished (h : s.finished = true) (flag : Bool) : (s.next flag).events = [] := by
  rw [next, if_pos h]
  rfl

theorem events_next_of_cancelled (h : s.finished = false) : (s.next true).events = [s.total] := by
  rw [next, h]
  rfl

/-- A move that delivers no row, whether the rows have ended or the source fails. -/
theorem events_next_of_no_row (h : s.finished = false)
    (hmove : (RowSource.advance s.cursor).1 ≠ .ok true) : (s.next false).events = [s.total] := by
  rw [next, h]
  cases hanswer : (RowSource.advance s.cursor).1 with
  | error e =>
    simp only [hanswer]
    rfl
  | ok more =>
    cases more with
    | true => exact absurd hanswer hmove
    | false =>
      simp only [hanswer]
      rfl

theorem events_next_of_row (h : s.finished = false)
    (hmove : (RowSource.advance s.cursor).1 = .ok true) :
    (s.next false).events =
      (s.projector.project (RowSource.row (RowSource.advance s.cursor).2) s.index).events ++
        if s.answer.1.isOk then [] else [total { s with index := s.answer.2 }] := by
  unfold answer
  rw [next, h]
  simp only [hmove, Bool.false_eq_true, if_false, Logged.events_bind]
  congr 1
  generalize (s.projector.project (RowSource.row (RowSource.advance s.cursor).2) s.index).value =
    answered
  obtain ⟨result, index⟩ := answered
  cases result <;> rfl

theorem events_drain_succ (flag : Bool) (fuel : Nat) :
    (drain flag (fuel + 1) s).events =
      (s.next flag).events ++
        match (s.next flag).value.1 with
        | .record _ => (drain flag fuel (s.next flag).value.2).events
        | _ => [] := by
  rw [drain, Logged.events_bind]
  congr 1
  generalize (s.next flag).value = called
  obtain ⟨i, rest⟩ := called
  cases i with
  | done => rfl
  | failed e => rfl
  | record r =>
    dsimp only
    rw [Logged.events_bind]
    cases (drain flag fuel rest).value <;> exact List.append_nil _

end Events

section Runs

variable {γ δ τ σ : Type} [RowSource γ] [RowSource δ]

/-- Two streams that have mapped `k` rows each and have met the same shapes. -/
structure Paired (p : Projector τ σ) (c : γ) (d : δ) (k : Nat) (s : Stream γ τ σ)
    (s' : Stream δ τ σ) : Prop where
  running : Running p c k s
  running' : Running p d k s'
  index : s.index = s'.index

theorem Paired.total {p : Projector τ σ} {c : γ} {d : δ} {k : Nat} {s : Stream γ τ σ}
    {s' : Stream δ τ σ} (h : Paired p c d k s s') : s.total = s'.total := by
  unfold Stream.total
  rw [h.running.projector, h.running.rows, h.index, h.running'.projector, h.running'.rows]

variable [Target σ]

section Meaning

variable (p : Projector τ σ) (c : γ) (d : δ) (flags flags' : Nat → Bool)

/-- The calls of number `k` on two cursors are alike: both are cancelled, meet the end, fail, or
deliver rows that agree. -/
inductive CallsAlike (k : Nat) : Prop
  | cancelled (isSet : flags k = true) (isSet' : flags' k = true)
  | exhausted (going : flags k = false) (going' : flags' k = false)
    (ends : (RowSource.advance (moved c k)).1 = .ok false)
    (ends' : (RowSource.advance (moved d k)).1 = .ok false)
  | failed {e e' : CursorError} (going : flags k = false) (going' : flags' k = false)
    (fails : (RowSource.advance (moved c k)).1 = .error e)
    (fails' : (RowSource.advance (moved d k)).1 = .error e')
  | row (going : flags k = false) (going' : flags' k = false)
    (moves : (RowSource.advance (moved c k)).1 = .ok true)
    (moves' : (RowSource.advance (moved d k)).1 = .ok true)
    (agree : p.RowsAgree (RowSource.row (moved c (k + 1))) (RowSource.row (moved d (k + 1))))

/-- Two cursors are alike in every call up to the one that ends the stream. -/
def RunsAlike : Prop :=
  ∀ k, (∀ j < k, ∃ r, Maps p c flags j r) → CallsAlike p c d flags flags' k

end Meaning

variable {p : Projector τ σ} {c : γ} {d : δ} {flags flags' : Nat → Bool} {k : Nat}
  {s : Stream γ τ σ} {s' : Stream δ τ σ}

/-- Calls on a pair that deliver no row. -/
theorem Paired.events_of_no_row (h : Paired p c d k s s')
    (hmove : (RowSource.advance (moved c k)).1 ≠ .ok true)
    (hmove' : (RowSource.advance (moved d k)).1 ≠ .ok true) :
    (s.next false).events = (s'.next false).events := by
  rw [events_next_of_no_row h.running.unfinished (h.running.cursor ▸ hmove),
    events_next_of_no_row h.running'.unfinished (h.running'.cursor ▸ hmove'), h.total]

/-- The projections of the next rows, where both cursors deliver one. -/
theorem Paired.project (h : Paired p c d k s s')
    (hagree : p.RowsAgree (RowSource.row (moved c (k + 1))) (RowSource.row (moved d (k + 1)))) :
    (s.projector.project (RowSource.row (RowSource.advance s.cursor).2) s.index).events =
        (s'.projector.project (RowSource.row (RowSource.advance s'.cursor).2) s'.index).events ∧
      s.answer.1.isOk = s'.answer.1.isOk ∧ s.answer.2 = s'.answer.2 := by
  unfold answer
  rw [h.running.projector, h.running.cursor_succ, h.running'.projector, h.running'.cursor_succ,
    ← h.index]
  exact hagree.project h.running.faithful

/-- Calls on a pair that deliver rows which agree: both rows are mapped, or both streams end. -/
theorem Paired.next_of_row (h : Paired p c d k s s')
    (hmove : (RowSource.advance (moved c k)).1 = .ok true)
    (hmove' : (RowSource.advance (moved d k)).1 = .ok true)
    (hagree : p.RowsAgree (RowSource.row (moved c (k + 1))) (RowSource.row (moved d (k + 1)))) :
    (s.next false).events = (s'.next false).events ∧
      ((∃ r r', (p.projectOne (RowSource.row (moved c (k + 1)))).value = .ok r ∧
          (p.projectOne (RowSource.row (moved d (k + 1)))).value = .ok r' ∧
          (s.next false).value.2.index = (s'.next false).value.2.index) ∨
        ∃ f f', (p.projectOne (RowSource.row (moved c (k + 1)))).value = .error f ∧
          (p.projectOne (RowSource.row (moved d (k + 1)))).value = .error f') := by
  obtain ⟨hevents, hok, hindex⟩ := h.project hagree
  have hunfinished := h.running.unfinished
  have hunfinished' := h.running'.unfinished
  have hmoves := h.running.moves hmove
  have hmoves' := h.running'.moves hmove'
  have htotal : Stream.total { s with index := s.answer.2 } =
      Stream.total { s' with index := s'.answer.2 } := by
    unfold Stream.total
    rw [hindex, h.running.projector, h.running.rows, h.running'.projector, h.running'.rows]
  constructor
  · rw [events_next_of_row hunfinished hmoves, events_next_of_row hunfinished' hmoves', hevents, hok,
      htotal]
  · rw [← h.running.answer_fst, ← h.running'.answer_fst]
    rcases ok_or_error_of_isOk_eq hok with ⟨r, r', hrow, hrow'⟩ | ⟨f, f', hrow, hrow'⟩
    · refine Or.inl ⟨r, r', hrow, hrow', ?_⟩
      rw [next_of_record hunfinished hmoves hrow, next_of_record hunfinished' hmoves' hrow']
      exact hindex
    · exact Or.inr ⟨f, f', hrow, hrow'⟩

/-- Alike calls report the same; either both map a row and leave a pair, or both end their stream. -/
theorem Paired.next (h : Paired p c d k s s') (halike : CallsAlike p c d flags flags' k) :
    (s.next (flags k)).events = (s'.next (flags' k)).events ∧
      ((∃ r r', Maps p c flags k r ∧ Maps p d flags' k r' ∧
          Paired p c d (k + 1) (s.next (flags k)).value.2 (s'.next (flags' k)).value.2) ∨
        ∃ i i' m m', Stops p c flags k i m ∧ Stops p d flags' k i' m') := by
  cases halike with
  | cancelled isSet isSet' =>
    refine ⟨?_, Or.inr ⟨_, _, _, _, .cancelled isSet, .cancelled isSet'⟩⟩
    rw [isSet, isSet', events_next_of_cancelled h.running.unfinished,
      events_next_of_cancelled h.running'.unfinished, h.total]
  | exhausted going going' ends ends' =>
    refine ⟨?_, Or.inr ⟨_, _, _, _, .exhausted going ends, .exhausted going' ends'⟩⟩
    rw [going, going']
    exact h.events_of_no_row (ends ▸ nofun) (ends' ▸ nofun)
  | failed going going' fails fails' =>
    refine ⟨?_, Or.inr ⟨_, _, _, _, .cursor going fails, .cursor going' fails'⟩⟩
    rw [going, going']
    exact h.events_of_no_row (fails ▸ nofun) (fails' ▸ nofun)
  | row going going' moves moves' agree =>
    obtain ⟨hevents, ⟨r, r', hgives, hgives', hindex⟩ | ⟨f, f', hfails, hfails'⟩⟩ :=
      h.next_of_row moves moves' agree
    · have hmaps : Maps p c flags k r := ⟨going, moves, hgives⟩
      have hmaps' : Maps p d flags' k r' := ⟨going', moves', hgives'⟩
      have hrunning := (h.running.next_of_maps hmaps).2
      have hrunning' := (h.running'.next_of_maps hmaps').2
      rw [going] at hrunning ⊢
      rw [going'] at hrunning' ⊢
      exact ⟨hevents, Or.inl ⟨r, r', hmaps, hmaps', hrunning, hrunning', hindex⟩⟩
    · rw [going, going']
      exact ⟨hevents, Or.inr ⟨_, _, _, _, .binding going moves hfails, .binding going' moves' hfails'⟩⟩

/-! ### Streams -/

/-- Alike cursors stay paired as long as the calls map rows. -/
theorem RunsAlike.paired (h : RunsAlike p c d flags flags')
    (hmaps : ∀ j < k, ∃ r, Maps p c flags j r) :
    Paired p c d k ((start c p).after flags k) ((start d p).after flags' k) := by
  induction k with
  | zero => exact ⟨running_start p c, running_start p d, rfl⟩
  | succ k ih =>
    have hbefore : ∀ j < k, ∃ r, Maps p c flags j r := fun j hj => hmaps j (Nat.lt_succ_of_lt hj)
    rcases ((ih hbefore).next (h k hbefore)).2 with ⟨-, -, -, -, hpaired⟩ | ⟨i, -, m, -, hstops, -⟩
    · exact hpaired
    · obtain ⟨r, hr⟩ := hmaps k (Nat.lt_succ_self k)
      exact absurd hr (hstops.not_maps r)

/-- The calls on alike cursors report the same, also after the streams have ended. -/
theorem RunsAlike.events_call (h : RunsAlike p c d flags flags') (k : Nat) :
    (((start c p).after flags k).next (flags k)).events =
      (((start d p).after flags' k).next (flags' k)).events := by
  rcases maps_until p c flags k with hmaps | ⟨j, hj, hmaps, hstops⟩
  · exact ((h.paired hmaps).next (h k hmaps)).1
  · have hpaired := h.paired hmaps
    rcases (hpaired.next (h j hmaps)).2 with ⟨r, -, hr, -, -⟩ | ⟨i, i', m, m', hi, hi'⟩
    · obtain ⟨i, m, hi⟩ := hstops
      exact absurd hr (hi.not_maps r)
    · have hended : Ended c j m ((start c p).after flags (j + 1)) :=
        (hpaired.running.next_of_stops hi).2
      have hended' : Ended d j m' ((start d p).after flags' (j + 1)) :=
        (hpaired.running'.next_of_stops hi').2
      rw [events_next_of_finished (hended.after hj).1.finished,
        events_next_of_finished (hended'.after hj).1.finished]

end Runs

/-- The first calls of a stream, one after the other. -/
def callAll {γ τ σ : Type} [RowSource γ] [Target σ] (s : Stream γ τ σ) (flags : Nat → Bool) :
    Nat → Logged (List (Item σ) × Stream γ τ σ)
  | 0 => return ([], s)
  | n + 1 => do
    let (items, rest) ← callAll s flags n
    let (item, rest) ← rest.next (flags n)
    return (items ++ [item], rest)

theorem value_callAll {γ τ σ : Type} [RowSource γ] [Target σ] (s : Stream γ τ σ)
    (flags : Nat → Bool) (n : Nat) :
    (s.callAll flags n).value = ((List.range n).map (s.item flags), s.after flags n) := by
  induction n with
  | zero => rfl
  | succ n ih =>
    rw [callAll, Logged.value_bind, ih, List.range_succ, List.map_append]
    rfl

theorem events_callAll_succ {γ τ σ : Type} [RowSource γ] [Target σ] (s : Stream γ τ σ)
    (flags : Nat → Bool) (n : Nat) :
    (s.callAll flags (n + 1)).events =
      (s.callAll flags n).events ++ ((s.after flags n).next (flags n)).events := by
  rw [callAll, Logged.events_bind, value_callAll]
  dsimp only
  rw [Logged.events_bind, Logged.events_pure, List.append_nil]

theorem RunsAlike.events_callAll {γ δ τ σ : Type} [RowSource γ] [RowSource δ] [Target σ]
    {p : Projector τ σ} {c : γ} {d : δ} {flags flags' : Nat → Bool}
    (h : RunsAlike p c d flags flags') (n : Nat) :
    ((start c p).callAll flags n).events = ((start d p).callAll flags' n).events := by
  induction n with
  | zero => rfl
  | succ n ih => rw [events_callAll_succ, events_callAll_succ, ih, h.events_call n]

/-- Taking all records of alike cursors reports the same.  The bounds on their rows may differ, but
neither is reached. -/
theorem RunsAlike.events_drain {γ δ τ σ : Type} [Cursor γ] [Cursor δ] [Target σ] {p : Projector τ σ}
    {c : γ} {d : δ} {flag flag' : Bool} (h : RunsAlike p c d (fun _ => flag) fun _ => flag')
    {k : Nat} (hmaps : ∀ j < k, ∃ r, Maps p c (fun _ => flag) j r) {s : Stream γ τ σ}
    {s' : Stream δ τ σ} (hpaired : Paired p c d k s s') {fuel fuel' : Nat}
    (hfuel : Cursor.remaining (moved c k) < fuel) (hfuel' : Cursor.remaining (moved d k) < fuel') :
    (drain flag fuel s).events = (drain flag' fuel' s').events := by
  induction fuel generalizing k s s' fuel' with
  | zero => exact absurd hfuel (Nat.not_lt_zero _)
  | succ fuel ih =>
    cases fuel' with
    | zero => exact absurd hfuel' (Nat.not_lt_zero _)
    | succ fuel' =>
      obtain ⟨hevents, hnext⟩ := hpaired.next (h k hmaps)
      rw [events_drain_succ, events_drain_succ, hevents]
      rcases hnext with ⟨r, r', hr, hr', hpaired'⟩ | ⟨i, i', m, m', hstops, hstops'⟩
      · have hless : Cursor.remaining (moved c (k + 1)) < Cursor.remaining (moved c k) :=
          Cursor.remaining_advance _ hr.moves
        have hless' : Cursor.remaining (moved d (k + 1)) < Cursor.remaining (moved d k) :=
          Cursor.remaining_advance _ hr'.moves
        have hmaps' : ∀ j < k + 1, ∃ r, Maps p c (fun _ => flag) j r := by
          intro j hj
          rcases Nat.lt_succ_iff_lt_or_eq.mp hj with hlt | rfl
          · exact hmaps j hlt
          · exact ⟨r, hr⟩
        rw [(hpaired.running.next_of_maps hr).1, (hpaired.running'.next_of_maps hr').1]
        exact congrArg _ (ih hmaps' hpaired' (by omega) (by omega))
      · rw [(hpaired.running.next_of_stops hstops).1, (hpaired.running'.next_of_stops hstops').1]
        cases hstops <;> cases hstops' <;> rfl

end Stream

/-! ### Projectors from a cache -/

namespace Cache

variable {τ ρ : Type} [DecidableEq τ] [DecidableEq ρ] [TargetFamily τ] {Other : ρ → Type}

section Programs

variable (cache : Cache τ (@EntryType.Carrier τ ρ _ Other)) (t : τ)
  (s : RuleSet (TargetFamily.State t)) (command : String)

/-- Fetches the projector of a rule set and makes calls of a stream over a cursor. -/
def streamCalls {γ : Type} [RowSource γ] (c : γ) (flags : Nat → Bool) (n : Nat) :
    Logged (Except MappingError (List (Item (TargetFamily.State t)))) := do
  let fetched ← cache.fetch t s command
  match fetched.answer with
  | .error e => return .error e
  | .ok shared => return .ok (← (Stream.start c shared.value).callAll flags n).1

/-- Fetches the projector of a rule set and takes all records of a cursor. -/
def collectRecords {γ : Type} [Cursor γ] (c : γ) (flag : Bool) :
    Logged (Except MappingError (List (TargetFamily.State t))) := do
  let fetched ← cache.fetch t s command
  match fetched.answer with
  | .error e => return .error e
  | .ok shared => Stream.collect flag c shared.value

variable {cache t s command} in
theorem value_collectRecords {γ : Type} [Cursor γ] {c : γ} {flag : Bool}
    {shared : Shared (Projector τ (TargetFamily.State t))}
    (h : (cache.fetch t s command).value.answer = .ok shared) :
    (cache.collectRecords t s command c flag).value =
      (Stream.collect flag c shared.value).value := by
  rw [collectRecords, Logged.value_bind, h]

end Programs

/-- Whatever a cache holds, and whichever of its projectors a rule set is mapped with: two cursors
that are alike in every call, though they may differ in each cell that is not null, are mapped with
the same events, both call by call and all at once. -/
theorem events_tell_no_cells (cache : Cache τ (@EntryType.Carrier τ ρ _ Other)) (t : τ)
    (s : RuleSet (TargetFamily.State t)) (command : String) :
    (∀ {γ δ : Type} [RowSource γ] [RowSource δ] (c : γ) (d : δ) (flags flags' : Nat → Bool),
      (∀ shared, (cache.fetch t s command).value.answer = .ok shared →
        Stream.RunsAlike shared.value c d flags flags') →
      ∀ n, (cache.streamCalls t s command c flags n).events =
        (cache.streamCalls t s command d flags' n).events) ∧
    ∀ {γ δ : Type} [Cursor γ] [Cursor δ] (c : γ) (d : δ) (flag flag' : Bool),
      (∀ shared, (cache.fetch t s command).value.answer = .ok shared →
        Stream.RunsAlike shared.value c d (fun _ => flag) fun _ => flag') →
      (cache.collectRecords t s command c flag).events =
        (cache.collectRecords t s command d flag').events := by
  constructor
  · intro γ δ _ _ c d flags flags' halike n
    rw [streamCalls, streamCalls, Logged.events_bind, Logged.events_bind]
    cases hanswer : (cache.fetch t s command).value.answer with
    | error e => rfl
    | ok shared =>
      dsimp only
      rw [Logged.events_bind, Logged.events_bind, (halike shared hanswer).events_callAll n]
      rfl
  · intro γ δ _ _ c d flag flag' halike
    rw [collectRecords, collectRecords, Logged.events_bind, Logged.events_bind]
    cases hanswer : (cache.fetch t s command).value.answer with
    | error e => rfl
    | ok shared =>
      have hpaired : Stream.Paired shared.value c d 0 (Stream.start c shared.value)
          (Stream.start d shared.value) :=
        ⟨Stream.running_start _ c, Stream.running_start _ d, rfl⟩
      have hnone : ∀ j < 0, ∃ r, Stream.Maps shared.value c (fun _ => flag) j r :=
        fun j hj => absurd hj (Nat.not_lt_zero j)
      exact congrArg _ ((halike shared hanswer).events_drain hnone hpaired (Nat.lt_succ_self _)
        (Nat.lt_succ_self _))

/-- Orders with different numbers, a null among them, and at the end a text that is no number. -/
theorem events_tell_no_cells_orders :
    ∃ (rules : RuleSet Record) (c d : MemoryCursor),
      let cache : Command.RecordCache := .empty
      let run (c : MemoryCursor) := cache.collectRecords .record rules "orders" c false
      let calls (c : MemoryCursor) := cache.streamCalls .record rules "orders" c fun _ => false
      (run c).events = (run d).events ∧ (run c).value ≠ (run d).value ∧
        ∀ n, (calls c n).events = (calls d n).events := by
  let rule : Rule Record := .ofProperty (SchemaProperty.toProperty ⟨"Id", .int, none, false⟩)
  let rules : RuleSet Record := ⟨"Order", [rule], false⟩
  let rows (id : Int64) (text : String) : MemoryCursor :=
    .ofResultSets [⟨⟨["Id"]⟩, [[.int id], [.null], [.text text]]⟩] none
  let c := rows 7 "seven"
  let d := rows 8 "eight"
  let p : Command.RecordProjector :=
    ⟨.ofRuleSet .record rules "orders", "Order", ⟨0, ["Id"]⟩, [rule], false⟩
  have hanswer : (Cache.fetch (Cache.empty : Command.RecordCache) .record rules "orders").value.answer =
      .ok ⟨0, p⟩ := rfl
  have hagree {row row' : Row} (hshape : row.shape = row'.shape)
      (hplaced : p.bindings row = [(rule, some 0)])
      (hrule : rule.Agrees (some 0) row row' Target.initial Target.initial) :
      p.RowsAgree row row' := by
    refine ⟨hshape, ?_⟩
    intro before r ordinal after next next' hsplit hnext hnext'
    rw [hplaced] at hsplit
    cases before with
    | nil =>
      obtain ⟨hfirst, -⟩ := List.cons.inj hsplit
      cases hfirst
      cases hnext
      cases hnext'
      exact hrule
    | cons first before => simp at hsplit
  have hseven : ∃ f, (p.projectOne (RowSource.row (moved c 3))).value = .error f := ⟨_, rfl⟩
  have halike : Stream.RunsAlike p c d (fun _ => false) fun _ => false := by
    intro k hmaps
    have hcell {row row' : Row} (hnull : row.isNull 0 = row'.isNull 0)
        (hassign : (rule.assign row 0 Target.initial).isOk = (rule.assign row' 0 Target.initial).isOk) :
        rule.Agrees (some 0) row row' Target.initial Target.initial := by
      refine ⟨rfl, ?_, ?_⟩
      · rintro i ⟨⟩
        exact hnull
      · rintro i ⟨⟩ - -
        exact hassign
    match k with
    | 0 => exact .row rfl rfl rfl rfl (hagree rfl rfl (hcell rfl rfl))
    | 1 => exact .row rfl rfl rfl rfl (hagree rfl rfl (hcell rfl rfl))
    | 2 => exact .row rfl rfl rfl rfl (hagree rfl rfl (hcell rfl rfl))
    | k + 3 =>
      obtain ⟨r, hr⟩ := hmaps 2 (by omega)
      obtain ⟨f, hf⟩ := hseven
      cases hf.symm.trans hr.gives
  obtain ⟨hstream, hcollect⟩ :=
    events_tell_no_cells (Cache.empty : Command.RecordCache) .record rules "orders"
  have hshared : ∀ shared,
      (Cache.fetch (Cache.empty : Command.RecordCache) .record rules "orders").value.answer =
        .ok shared → Stream.RunsAlike shared.value c d (fun _ => false) fun _ => false := by
    intro shared hshared
    obtain rfl := Except.ok.inj (hanswer.symm.trans hshared)
    exact halike
  refine ⟨rules, c, d, hcollect c d false false hshared, ?_, hstream c d _ _ hshared⟩
  have hdiffer : (Stream.collect false c p).value ≠ (Stream.collect false d p).value := by
    decide +kernel
  rw [value_collectRecords hanswer, value_collectRecords hanswer]
  exact hdiffer

end Cache

end RecordMapping
