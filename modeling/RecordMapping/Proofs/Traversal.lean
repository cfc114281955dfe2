import RecordMapping.Proofs.Presence
import RecordMapping.Stream
import Mathlib.Data.Nat.Init

/-!
# RecordMapping.Proofs.Traversal — what a stream gives, call by call

The rows of a source are the ones that it stands on after one move, two moves and so on.  As long as
no call is cancelled and every row maps, the call of number `k` gives the record of row `k` taken on
its own (`Maps`).  The first call for which this does not hold ends the stream (`Stops`), and from
then on neither the source nor the count of rows changes.  Taking all records at once is the same
walk under a flag that stays as it is.  Projectors that no row tells apart give streams that no
caller tells apart (`Twins`).
-/

namespace RecordMapping

/-- The source after that many moves. -/
def RowSource.moved {γ : Type} [RowSource γ] (c : γ) : Nat → γ
  | 0 => c
  | n + 1 => (RowSource.advance (moved c n)).2

namespace Stream

open RowSource (moved)

variable {γ τ σ : Type} [RowSource γ]

/-! ### Calls under a schedule -/

section Schedule

variable [Target σ] (s : Stream γ τ σ) (flags : Nat → Bool)

/-- The stream after that many calls; `flags n` is the flag that the call of number `n` finds. -/
def after : Nat → Stream γ τ σ
  | 0 => s
  | n + 1 => ((after n).next (flags n)).value.2

/-- What the call of number `n` gives. -/
def item (n : Nat) : Item σ := ((s.after flags n).next (flags n)).value.1

end Schedule

section Meaning

variable [Target σ] (p : Projector τ σ) (c : γ) (flags : Nat → Bool) (k : Nat)

/-- The call of number `k` maps a row. -/
structure Maps (r : σ) : Prop where
  going : flags k = false
  moves : (RowSource.advance (moved c k)).1 = .ok true
  gives : (p.projectOne (RowSource.row (moved c (k + 1)))).value = .ok r

/-- The call of number `k` ends the stream with an item; the source has then made so many moves. -/
inductive Stops : Item σ → Nat → Prop
  | cancelled (isSet : flags k = true) : Stops (.failed (.cancelled k)) k
  | exhausted (going : flags k = false) (ends : (RowSource.advance (moved c k)).1 = .ok false) :
    Stops .done (k + 1)
  | cursor {e : CursorError} (going : flags k = false)
    (fails : (RowSource.advance (moved c k)).1 = .error e) :
    Stops (.failed (.cursor (some k) e)) (k + 1)
  | binding {f : BindingFailure} (going : flags k = false)
    (moves : (RowSource.advance (moved c k)).1 = .ok true)
    (fails : (p.projectOne (RowSource.row (moved c (k + 1)))).value = .error f) :
    Stops (.failed (.binding (f.atRow k))) (k + 1)

theorem maps_or_stops : (∃ r, Maps p c flags k r) ∨ ∃ i n, Stops p c flags k i n := by
  cases hflag : flags k with
  | true => exact Or.inr ⟨_, _, .cancelled hflag⟩
  | false =>
    cases hmove : (RowSource.advance (moved c k)).1 with
    | error e => exact Or.inr ⟨_, _, .cursor hflag hmove⟩
    | ok more =>
      cases more with
      | false => exact Or.inr ⟨_, _, .exhausted hflag hmove⟩
      | true =>
        cases hrow : (p.projectOne (RowSource.row (moved c (k + 1)))).value with
        | error f => exact Or.inr ⟨_, _, .binding hflag hmove hrow⟩
        | ok r => exact Or.inl ⟨r, hflag, hmove, hrow⟩

end Meaning

/-! ### One call -/

section Step

variable [Target σ] {s : Stream γ τ σ}

theorem next_of_finished (h : s.finished = true) (flag : Bool) :
    (s.next flag).value = (.done, s) := by
  rw [next, if_pos h]
  rfl

theorem next_of_cancelled (h : s.finished = false) :
    (s.next true).value = (.failed (.cancelled s.rows), { s with finished := true }) := by
  rw [next, h]
  rfl

theorem next_of_exhausted (h : s.finished = false)
    (hmove : (RowSource.advance s.cursor).1 = .ok false) :
    (s.next false).value =
      (.done, { s with cursor := (RowSource.advance s.cursor).2, finished := true }) := by
  rw [next, h]
  simp only [hmove]
  rfl

theorem next_of_cursor (h : s.finished = false) {e : CursorError}
    (hmove : (RowSource.advance s.cursor).1 = .error e) :
    (s.next false).value = (.failed (.cursor (some s.rows) e),
      { s with cursor := (RowSource.advance s.cursor).2, finished := true }) := by
  rw [next, h]
  simp only [hmove]
  rfl

/-- The answer of the projector for the row after the next move. -/
def answer (s : Stream γ τ σ) : Except BindingFailure σ × PresenceIndex :=
  (s.projector.project (RowSource.row (RowSource.advance s.cursor).2) s.index).value

theorem next_of_record (h : s.finished = false)
    (hmove : (RowSource.advance s.cursor).1 = .ok true) {r : σ} (hrow : s.answer.1 = .ok r) :
    (s.next false).value = (.record r, { s with
      cursor := (RowSource.advance s.cursor).2
      index := s.answer.2
      rows := s.rows + 1 }) := by
  unfold answer at hrow
  rw [next, h]
  simp only [hmove, Bool.false_eq_true, if_false, Logged.value_bind, hrow]
  rfl

theorem next_of_binding (h : s.finished = false)
    (hmove : (RowSource.advance s.cursor).1 = .ok true) {f : BindingFailure}
    (hrow : s.answer.1 = .error f) :
    (s.next false).value = (.failed (.binding (f.atRow s.rows)), { s with
      cursor := (RowSource.advance s.cursor).2
      index := s.answer.2
      finished := true }) := by
  unfold answer at hrow
  rw [next, h]
  simp only [hmove, Bool.false_eq_true, if_false, Logged.value_bind, hrow]
  rfl

theorem drain_succ (flag : Bool) (fuel : Nat) (s : Stream γ τ σ) :
    (drain flag (fuel + 1) s).value =
      match (s.next flag).value.1 with
      | .done => .ok []
      | .failed e => .error e
      | .record r => (drain flag fuel (s.next flag).value.2).value.map (r :: ·) := by
  rw [drain, Logged.value_bind]
  generalize (s.next flag).value = called
  obtain ⟨i, rest⟩ := called
  cases i with
  | done => rfl
  | failed e => rfl
  | record r =>
    dsimp only
    rw [Logged.value_bind]
    cases (drain flag fuel rest).value <;> rfl

end Step

/-! ### Whole runs -/

section Run

variable {p : Projector τ σ} {c : γ} {flags : Nat → Bool} {k : Nat} {s : Stream γ τ σ}

/-- A stream that has mapped `k` rows and goes on. -/
structure Running (p : Projector τ σ) (c : γ) (k : Nat) (s : Stream γ τ σ) : Prop where
  projector : s.projector = p
  cursor : s.cursor = moved c k
  faithful : s.index.Faithful
  rows : s.rows = k
  unfinished : s.finished = false

/-- A stream that has ended after `k` rows and so many moves. -/
structure Ended (c : γ) (k n : Nat) (s : Stream γ τ σ) : Prop where
  cursor : s.cursor = moved c n
  rows : s.rows = k
  finished : s.finished = true

theorem running_start (p : Projector τ σ) (c : γ) : Running p c 0 (start c p) :=
  ⟨rfl, rfl, PresenceIndex.faithful_empty p.table, rfl, rfl⟩

theorem Running.moves (h : Running p c k s) {m : Except CursorError Bool}
    (hm : (RowSource.advance (moved c k)).1 = m) : (RowSource.advance s.cursor).1 = m := by
  rw [h.cursor, hm]

theorem Running.cursor_succ (h : Running p c k s) :
    (RowSource.advance s.cursor).2 = moved c (k + 1) := by
  rw [h.cursor]
  rfl

variable [Target σ]

theorem Running.answer_fst (h : Running p c k s) :
    s.answer.1 = (p.projectOne (RowSource.row (moved c (k + 1)))).value := by
  unfold answer
  rw [h.projector, h.cursor, p.project_eq_projectOne _ h.faithful]
  rfl

theorem Running.answer_snd (h : Running p c k s) : s.answer.2.Faithful :=
  s.projector.faithful_project _ h.faithful

theorem Running.next_of_maps (h : Running p c k s) {r : σ} (hmaps : Maps p c flags k r) :
    (s.next (flags k)).value.1 = .record r ∧
      Running p c (k + 1) (s.next (flags k)).value.2 := by
  rw [hmaps.going, next_of_record h.unfinished (h.moves hmaps.moves)
    (h.answer_fst.trans hmaps.gives)]
  exact ⟨rfl, h.projector, h.cursor_succ, h.answer_snd, congrArg (· + 1) h.rows, h.unfinished⟩

theorem Running.next_of_stops (h : Running p c k s) {i : Item σ} {n : Nat}
    (hstops : Stops p c flags k i n) :
    (s.next (flags k)).value.1 = i ∧ Ended c k n (s.next (flags k)).value.2 := by
  cases hstops with
  | cancelled isSet =>
    rw [isSet, next_of_cancelled h.unfinished, h.rows]
    exact ⟨rfl, h.cursor, rfl, rfl⟩
  | exhausted going ends =>
    rw [going, next_of_exhausted h.unfinished (h.moves ends)]
    exact ⟨rfl, h.cursor_succ, h.rows, rfl⟩
  | cursor going fails =>
    rw [going, next_of_cursor h.unfinished (h.moves fails), h.rows]
    exact ⟨rfl, h.cursor_succ, rfl, rfl⟩
  | binding going moves fails =>
    rw [going, next_of_binding h.unfinished (h.moves moves) (h.answer_fst.trans fails), h.rows]
    exact ⟨rfl, h.cursor_succ, rfl, rfl⟩

theorem running_after (hmaps : ∀ j < k, ∃ r, Maps p c flags j r) :
    Running p c k ((start c p).after flags k) := by
  induction k with
  | zero => exact running_start p c
  | succ k ih =>
    obtain ⟨r, hr⟩ := hmaps k (Nat.lt_succ_self k)
    exact ((ih fun j hj => hmaps j (Nat.lt_succ_of_lt hj)).next_of_maps hr).2

/-- A stream that has ended stays as it is. -/
theorem Ended.after {s : Stream γ τ σ} {n m : Nat} (h : Ended c k n (s.after flags m)) {j : Nat}
    (hj : m ≤ j) : Ended c k n (s.after flags j) ∧ s.item flags j = .done := by
  induction j, hj using Nat.le_induction with
  | base =>
    refine ⟨h, ?_⟩
    rw [item, next_of_finished h.finished]
  | succ j _ ih =>
    have hnext : s.after flags (j + 1) = s.after flags j := by
      rw [Stream.after, next_of_finished ih.1.finished]
    rw [item, hnext, next_of_finished ih.1.finished]
    exact ⟨ih.1, rfl⟩

/-- Taking all records under a flag that stays as it is: the rows that map, and then the end or the
failure of the first call that maps none. -/
theorem Running.drain {γ : Type} [Cursor γ] {c : γ} {s : Stream γ τ σ} (h : Running p c k s)
    (flag : Bool) {fuel : Nat} (hfuel : Cursor.remaining (moved c k) < fuel) :
    ∃ rs i n, (∀ j r, rs[j]? = some r → Maps p c (fun _ => flag) (k + j) r) ∧
      Stops p c (fun _ => flag) (k + rs.length) i n ∧
      ((i = .done ∧ (Stream.drain flag fuel s).value = .ok rs) ∨
        ∃ e, i = .failed e ∧ (Stream.drain flag fuel s).value = .error e) := by
  induction fuel generalizing k s with
  | zero => exact absurd hfuel (Nat.not_lt_zero _)
  | succ fuel ih =>
    rcases maps_or_stops p c (fun _ => flag) k with ⟨r, hmaps⟩ | ⟨i, n, hstops⟩
    · obtain ⟨hitem, hrunning⟩ := h.next_of_maps hmaps
      have hless : Cursor.remaining (moved c (k + 1)) < Cursor.remaining (moved c k) :=
        Cursor.remaining_advance _ hmaps.moves
      obtain ⟨rs, i, n, hrs, hstops, hdrain⟩ := ih hrunning (by omega)
      refine ⟨r :: rs, i, n, ?_, ?_, ?_⟩
      · intro j q hq
        cases j with
        | zero =>
          obtain rfl := Option.some.inj hq
          exact hmaps
        | succ j =>
          have hj : k + 1 + j = k + (j + 1) := by omega
          exact hj ▸ hrs j q hq
      · have hlength : k + 1 + rs.length = k + (r :: rs).length := by
          rw [List.length_cons]
          omega
        exact hlength ▸ hstops
      · rw [drain_succ, hitem]
        rcases hdrain with ⟨rfl, hvalue⟩ | ⟨e, rfl, hvalue⟩
        · exact Or.inl ⟨rfl, congrArg (Except.map (r :: ·)) hvalue⟩
        · exact Or.inr ⟨e, rfl, congrArg (Except.map (r :: ·)) hvalue⟩
    · obtain ⟨hitem, -⟩ := h.next_of_stops hstops
      refine ⟨[], i, n, ?_, hstops, ?_⟩
      · intro j r hr
        simp at hr
      · rw [drain_succ, hitem]
        cases hstops with
        | exhausted => exact Or.inl ⟨rfl, rfl⟩
        | cancelled => exact Or.inr ⟨_, rfl, rfl⟩
        | cursor => exact Or.inr ⟨_, rfl, rfl⟩
        | binding => exact Or.inr ⟨_, rfl, rfl⟩

end Run

/-! ### Items -/

section Items

variable [Target σ] {p : Projector τ σ} {c : γ} {flags : Nat → Bool}

variable (p c flags) in
/-- So many calls map a row each, or one of them is the first that does not. -/
theorem maps_until (n : Nat) : (∀ j < n, ∃ r, Maps p c flags j r) ∨
    ∃ k < n, (∀ j < k, ∃ r, Maps p c flags j r) ∧ ∃ i m, Stops p c flags k i m := by
  induction n with
  | zero => exact Or.inl nofun
  | succ n ih =>
    rcases ih with hmaps | ⟨k, hk, hstops⟩
    · rcases maps_or_stops p c flags n with hn | hn
      · refine Or.inl ?_
        intro j hj
        rcases Nat.lt_succ_iff_lt_or_eq.mp hj with hlt | rfl
        · exact hmaps j hlt
        · exact hn
      · exact Or.inr ⟨n, Nat.lt_succ_self n, hmaps, hn⟩
    · exact Or.inr ⟨k, Nat.lt_succ_of_lt hk, hstops⟩

theorem item_of_maps {k : Nat} {r : σ} (hmaps : ∀ j < k, ∃ r, Maps p c flags j r)
    (h : Maps p c flags k r) : (start c p).item flags k = .record r :=
  ((running_after hmaps).next_of_maps h).1

theorem item_of_stops {k m : Nat} {i : Item σ} (hmaps : ∀ j < k, ∃ r, Maps p c flags j r)
    (h : Stops p c flags k i m) :
    (start c p).item flags k = i ∧ ∀ j, k < j → (start c p).item flags j = .done := by
  obtain ⟨hitem, hended⟩ := (running_after hmaps).next_of_stops h
  have hafter : Ended c k m ((start c p).after flags (k + 1)) := hended
  exact ⟨hitem, fun j hj => (hafter.after (Nat.succ_le_of_lt hj)).2⟩

theorem Stops.ne_record {k m : Nat} {i : Item σ} (h : Stops p c flags k i m) (r : σ) :
    i ≠ .record r := by
  cases h <;> nofun

/-- Records in the first calls are rows that they map. -/
theorem maps_of_records {n : Nat} (h : ∀ j < n, ∃ r, (start c p).item flags j = .record r) :
    ∀ j < n, ∃ r, Maps p c flags j r := by
  rcases maps_until p c flags n with hmaps | ⟨k, hk, hmaps, i, m, hstops⟩
  · exact hmaps
  · obtain ⟨r, hr⟩ := h k hk
    exact absurd ((item_of_stops hmaps hstops).1.symm.trans hr) (hstops.ne_record r)

theorem stops_of_failed {n : Nat} {e : MappingError}
    (h : (start c p).item flags n = .failed e) : ∃ m, Stops p c flags n (.failed e) m := by
  rcases maps_until p c flags n with hmaps | ⟨k, hk, hmaps, i, m, hstops⟩
  · rcases maps_or_stops p c flags n with ⟨r, hr⟩ | ⟨i, m, hstops⟩
    · cases h.symm.trans (item_of_maps hmaps hr)
    · obtain rfl := h.symm.trans (item_of_stops hmaps hstops).1
      exact ⟨m, hstops⟩
  · cases h.symm.trans ((item_of_stops hmaps hstops).2 n hk)

theorem stops_of_collect_error {γ : Type} [Cursor γ] {c : γ} {flag : Bool} {e : MappingError}
    (h : (collect flag c p).value = .error e) :
    ∃ n m, Stops p c (fun _ => flag) n (.failed e) m := by
  obtain ⟨rs, i, m, -, hstops, hdrain⟩ :=
    (running_start p c).drain flag (Nat.lt_succ_self (Cursor.remaining c))
  rcases hdrain with ⟨-, hok⟩ | ⟨e', rfl, herror⟩
  · cases h.symm.trans hok
  · obtain rfl : e = e' := Except.error.inj (h.symm.trans herror)
    exact ⟨_, m, hstops⟩

end Items

/-! ### Projectors that no row tells apart -/

section Twins

variable [Target σ] {s s' : Stream γ τ σ}

/-- Two streams that differ in nothing that a caller can see. -/
structure Twins (s s' : Stream γ τ σ) : Prop where
  cursor : s.cursor = s'.cursor
  rows : s.rows = s'.rows
  finished : s.finished = s'.finished
  projector (row : Row) : (s.projector.projectOne row).value = (s'.projector.projectOne row).value
  faithful : s.index.Faithful
  faithful' : s'.index.Faithful

theorem Twins.answer (h : Twins s s') : s.answer.1 = s'.answer.1 := by
  unfold Stream.answer
  rw [h.cursor, s.projector.project_eq_projectOne _ h.faithful,
    s'.projector.project_eq_projectOne _ h.faithful', h.projector]

theorem Twins.next (h : Twins s s') (flag : Bool) :
    (s.next flag).value.1 = (s'.next flag).value.1 ∧
      Twins (s.next flag).value.2 (s'.next flag).value.2 := by
  cases hfinished : s.finished with
  | true =>
    rw [next_of_finished hfinished, next_of_finished (h.finished ▸ hfinished)]
    exact ⟨rfl, h⟩
  | false =>
    have hfinished' : s'.finished = false := h.finished ▸ hfinished
    have hcursor : (RowSource.advance s.cursor).2 = (RowSource.advance s'.cursor).2 := by
      rw [h.cursor]
    have hindex : s.answer.2.Faithful := s.projector.faithful_project _ h.faithful
    have hindex' : s'.answer.2.Faithful := s'.projector.faithful_project _ h.faithful'
    cases flag with
    | true =>
      rw [next_of_cancelled hfinished, next_of_cancelled hfinished', h.rows]
      exact ⟨rfl, h.cursor, rfl, rfl, h.projector, h.faithful, h.faithful'⟩
    | false =>
      cases hmove : (RowSource.advance s.cursor).1 with
      | error e =>
        rw [next_of_cursor hfinished hmove, next_of_cursor hfinished' (h.cursor ▸ hmove), h.rows]
        exact ⟨rfl, hcursor, rfl, rfl, h.projector, h.faithful, h.faithful'⟩
      | ok more =>
        cases more with
        | false =>
          rw [next_of_exhausted hfinished hmove, next_of_exhausted hfinished' (h.cursor ▸ hmove)]
          exact ⟨rfl, hcursor, h.rows, rfl, h.projector, h.faithful, h.faithful'⟩
        | true =>
          cases hrow : s.answer.1 with
          | error f =>
            rw [next_of_binding hfinished hmove hrow,
              next_of_binding hfinished' (h.cursor ▸ hmove) (h.answer ▸ hrow), h.rows]
            exact ⟨rfl, hcursor, rfl, rfl, h.projector, hindex, hindex'⟩
          | ok r =>
            rw [next_of_record hfinished hmove hrow,
              next_of_record hfinished' (h.cursor ▸ hmove) (h.answer ▸ hrow)]
            exact ⟨rfl, hcursor, congrArg (· + 1) h.rows, hfinished.trans hfinished'.symm,
              h.projector, hindex, hindex'⟩

theorem Twins.drain (h : Twins s s') (flag : Bool) (fuel : Nat) :
    (Stream.drain flag fuel s).value = (Stream.drain flag fuel s').value := by
  induction fuel generalizing s s' with
  | zero => rfl
  | succ fuel ih =>
    obtain ⟨hitem, hrest⟩ := h.next flag
    rw [drain_succ, drain_succ, hitem, ih hrest]

/-- Projectors that give the same for every row take the same records out of a cursor. -/
theorem collect_congr {γ : Type} [Cursor γ] {p p' : Projector τ σ}
    (h : ∀ row, (p.projectOne row).value = (p'.projectOne row).value) (flag : Bool) (c : γ) :
    (collect flag c p).value = (collect flag c p').value := by
  have htwins : Twins (start c p) (start c p') :=
    ⟨rfl, rfl, rfl, h, PresenceIndex.faithful_empty p.table, PresenceIndex.faithful_empty p'.table⟩
  exact htwins.drain flag _

end Twins

/-! ### The whole of a stream -/

/-- Call by call: while every call maps a row, the call of number `k` gives the record of row `k`
alone; the first call that maps none ends the stream with its own item, and later ones give nothing
and move nothing.  All records at once are the stream's records if it ends without a failure, and
otherwise its failure. -/
theorem stream_call_by_call [Target σ] (p : Projector τ σ) :
    (∀ {γ : Type} [RowSource γ] (c : γ) (flags : Nat → Bool) (k : Nat),
      (∀ j < k, ∃ r, Maps p c flags j r) →
        ((start c p).after flags k).rows = k ∧
        ((start c p).after flags k).cursor = moved c k ∧
        ((∃ r, Maps p c flags k r) ∨ ∃ i n, Stops p c flags k i n) ∧
        (∀ r, Maps p c flags k r → (start c p).item flags k = .record r) ∧
        ∀ i n, Stops p c flags k i n → (start c p).item flags k = i ∧
          ∀ m, k < m → ((start c p).after flags m).cursor = moved c n ∧
            ((start c p).after flags m).rows = k ∧ (start c p).item flags m = .done) ∧
    ∀ {γ : Type} [Cursor γ] (c : γ) (flag : Bool), ∃ rs,
      (∀ (j : Nat) r, rs[j]? = some r → (start c p).item (fun _ => flag) j = .record r) ∧
      (((start c p).item (fun _ => flag) rs.length = .done ∧ (collect flag c p).value = .ok rs) ∨
        ∃ e, (start c p).item (fun _ => flag) rs.length = .failed e ∧
          (collect flag c p).value = .error e) := by
  constructor
  · intro γ _ c flags k hmaps
    have hrunning : Running p c k ((start c p).after flags k) := running_after hmaps
    refine ⟨hrunning.rows, hrunning.cursor, maps_or_stops p c flags k, ?_, ?_⟩
    · intro r hr
      exact (hrunning.next_of_maps hr).1
    · intro i n hstops
      obtain ⟨hitem, hended⟩ := hrunning.next_of_stops hstops
      refine ⟨hitem, ?_⟩
      intro m hm
      have hafter : Ended c k n ((start c p).after flags (k + 1)) := hended
      obtain ⟨hm, hdone⟩ := hafter.after (Nat.succ_le_of_lt hm)
      exact ⟨hm.cursor, hm.rows, hdone⟩
  · intro γ _ c flag
    obtain ⟨rs, i, n, hrs, hstops, hdrain⟩ :=
      (running_start p c).drain flag (Nat.lt_succ_self (Cursor.remaining c))
    simp only [Nat.zero_add] at hrs hstops
    have hrunning : ∀ k ≤ rs.length, Running p c k ((start c p).after (fun _ => flag) k) := by
      intro k hk
      refine running_after ?_
      intro j hj
      have hlt : j < rs.length := by omega
      exact ⟨rs[j], hrs j rs[j] (List.getElem?_eq_getElem hlt)⟩
    have hlast : (start c p).item (fun _ => flag) rs.length = i :=
      ((hrunning rs.length (Nat.le_refl _)).next_of_stops hstops).1
    refine ⟨rs, ?_, ?_⟩
    · intro j r hr
      have hlt : j < rs.length := (List.getElem?_eq_some_iff.mp hr).1
      exact ((hrunning j (by omega)).next_of_maps (hrs j r hr)).1
    · rcases hdrain with ⟨rfl, hvalue⟩ | ⟨e, rfl, hvalue⟩
      · exact Or.inl ⟨hlast, hvalue⟩
      · exact Or.inr ⟨e, hlast, hvalue⟩

end Stream

end RecordMapping
