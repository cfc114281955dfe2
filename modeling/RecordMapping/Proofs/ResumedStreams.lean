import RecordMapping.Proofs.Traversal
import RecordMapping.Row.Memory

/-!
# RecordMapping.Proofs.ResumedStreams — streams one after another over one source

A source may be lent to one stream after another, each asked for as many items as its caller likes
and cancelled whenever the caller likes.  A source that writes down its moves (`Watched`) tells for
each call of a stream which rows the call took (`Accounts`): one for a record or a failed row, none
for anything else.  Over all the streams, the rows taken are then the rows projected, in their order,
and where no row fails they are what one undisturbed traversal gives.
-/

namespace RecordMapping

/-! ### Sources that write down their moves -/

section Watched

variable {γ : Type}

/-- The answer of a source that was asked to move, with the row on which it then stands. -/
inductive Move
  | row (row : Row)
  | ended
  | failed (e : CursorError)

namespace Move

def ofAnswer (answer : Except CursorError Bool) (row : Row) : Move :=
  match answer with
  | .ok true => .row row
  | .ok false => .ended
  | .error e => .failed e

def row? : Move → Option Row
  | row r => some r
  | _ => none

theorem ofAnswer_eq_row {answer : Except CursorError Bool} {r r' : Row}
    (h : ofAnswer answer r = .row r') : answer = .ok true ∧ r = r' := by
  cases answer with
  | error e => cases h
  | ok more =>
    cases more with
    | false => cases h
    | true => exact ⟨rfl, Move.row.inj h⟩

theorem ofAnswer_eq_ended {answer : Except CursorError Bool} {r : Row}
    (h : ofAnswer answer r = .ended) : answer = .ok false := by
  cases answer with
  | error e => cases h
  | ok more =>
    cases more with
    | false => rfl
    | true => cases h

end Move

/-- A source and its answers so far. -/
structure Watched (γ : Type) where
  source : γ
  moves : List Move

instance [RowSource γ] : RowSource (Watched γ) where
  row w := RowSource.row w.source
  advance w :=
    let (answer, source) := RowSource.advance w.source
    (answer, ⟨source, w.moves ++ [.ofAnswer answer (RowSource.row source)]⟩)

/-- A source that nobody has asked yet. -/
def Watched.fresh (c : γ) : Watched γ := ⟨c, []⟩

def Watched.withEarlier (earlier : List Move) (w : Watched γ) : Watched γ :=
  { w with moves := earlier ++ w.moves }

end Watched

section Moved

variable {γ : Type} [RowSource γ]

open RowSource (moved)

theorem RowSource.moved_moved (c : γ) (m n : Nat) : moved (moved c m) n = moved c (m + n) := by
  induction n with
  | zero => rfl
  | succ n ih =>
    rw [moved, ih]
    rfl

/-- The answer of a source to the move after so many. -/
def RowSource.answerAt (c : γ) (k : Nat) : Move :=
  .ofAnswer (RowSource.advance (moved c k)).1 (RowSource.row (moved c (k + 1)))

theorem Watched.moved_fresh (c : γ) (k : Nat) :
    moved (fresh c) k = ⟨moved c k, (List.range k).map (RowSource.answerAt c)⟩ := by
  induction k with
  | zero => rfl
  | succ k ih =>
    rw [moved, ih, List.range_succ, List.map_append]
    rfl

end Moved

/-- The image of a source has its rows and moves as it does. -/
structure RowSource.Follows {γ δ : Type} [RowSource γ] [RowSource δ] (f : γ → δ) : Prop where
  row : ∀ c, RowSource.row (f c) = RowSource.row c
  advance : ∀ c, RowSource.advance (f c) = ((RowSource.advance c).1, f (RowSource.advance c).2)

section Follows

variable {γ δ : Type} [RowSource γ] [RowSource δ]

open RowSource (Follows)

theorem Watched.follows_source : Follows (Watched.source (γ := γ)) := ⟨fun _ => rfl, fun _ => rfl⟩

theorem Watched.follows_withEarlier (earlier : List Move) :
    Follows (Watched.withEarlier (γ := γ) earlier) where
  row _ := rfl
  advance w := by
    have hmoves (answer : Except CursorError Bool) (c : γ) :
        earlier ++ w.moves ++ [.ofAnswer answer (RowSource.row c)] =
          earlier ++ (w.moves ++ [.ofAnswer answer (RowSource.row c)]) := List.append_assoc _ _ _
    exact congrArg (fun moves => (_, Watched.mk _ moves)) (hmoves _ _)

end Follows

/-- A projector does not know the number of a row. -/
theorem Projector.rowIndex_of_projectOne {τ σ : Type} [Target σ] (p : Projector τ σ) {row : Row}
    {f : BindingFailure} (h : (p.projectOne row).value = .error f) : f.rowIndex = none := by
  have hfill (target : String) (strict : Bool) (rules : List (Rule σ × Option Nat)) (t : σ) :
      (fillAll target strict row rules t).value = .error f → f.rowIndex = none := by
    induction rules generalizing t with
    | nil => exact nofun
    | cons first rest ih =>
      obtain ⟨r, ordinal⟩ := first
      intro hrest
      rw [fillAll] at hrest
      cases hfilled : r.fill strict row ordinal t with
      | failed cause =>
        rw [hfilled] at hrest
        obtain rfl := Except.error.inj hrest
        rfl
      | assigned next =>
        rw [hfilled] at hrest
        exact ih next hrest
      | absent | null | declined =>
        rw [hfilled] at hrest
        exact ih t hrest
  exact hfill _ _ _ _ h

namespace Item

variable {σ : Type}

/-- The row as it was projected: the record, or the failure without the number of the row. -/
def projection? : Item σ → Option (Except BindingFailure σ)
  | record r => some (.ok r)
  | failed (.binding f) => some (.error { f with rowIndex := none })
  | _ => none

def record? : Item σ → Option σ
  | record r => some r
  | _ => none

theorem record?_eq (i : Item σ) : i.record? = i.projection?.bind Except.toOption := by
  cases i with
  | record r => rfl
  | done => rfl
  | failed e => cases e <;> rfl

theorem records_eq (items : List (Item σ)) :
    items.filterMap record? = (items.filterMap projection?).filterMap Except.toOption := by
  rw [List.filterMap_filterMap, funext record?_eq]

end Item

namespace Stream

variable {γ δ τ σ : Type}

open RowSource (Follows moved)

/-! ### Streams over the image of a source -/

section Through

variable [RowSource γ] [RowSource δ] [Target σ] {f : γ → δ}

def through (f : γ → δ) (s : Stream γ τ σ) : Stream δ τ σ := { s with cursor := f s.cursor }

theorem next_through (hf : Follows f) (s : Stream γ τ σ) (flag : Bool) :
    ((s.through f).next flag).value = ((s.next flag).value.1, (s.next flag).value.2.through f) := by
  cases hfinished : s.finished with
  | true =>
    rw [next_of_finished hfinished, next_of_finished (s := s.through f) hfinished]
  | false =>
    have hmove : (RowSource.advance (s.through f).cursor) =
        ((RowSource.advance s.cursor).1, f (RowSource.advance s.cursor).2) := hf.advance s.cursor
    have hanswer : (s.through f).answer = s.answer := by
      unfold answer
      rw [hmove, hf.row]
      rfl
    cases flag with
    | true =>
      rw [next_of_cancelled hfinished, next_of_cancelled (s := s.through f) hfinished]
      rfl
    | false =>
      cases hm : (RowSource.advance s.cursor).1 with
      | error e =>
        have hm' : (RowSource.advance (s.through f).cursor).1 = .error e := by rw [hmove, hm]
        rw [next_of_cursor hfinished hm, next_of_cursor (s := s.through f) hfinished hm', hmove]
        rfl
      | ok more =>
        have hm' : (RowSource.advance (s.through f).cursor).1 = .ok more := by rw [hmove, hm]
        cases more with
        | false =>
          rw [next_of_exhausted hfinished hm, next_of_exhausted (s := s.through f) hfinished hm',
            hmove]
          rfl
        | true =>
          cases hrow : s.answer.1 with
          | error e =>
            have hrow' : (s.through f).answer.1 = .error e := by rw [hanswer, hrow]
            rw [next_of_binding hfinished hm hrow,
              next_of_binding (s := s.through f) hfinished hm' hrow', hmove, hanswer]
            rfl
          | ok r =>
            have hrow' : (s.through f).answer.1 = .ok r := by rw [hanswer, hrow]
            rw [next_of_record hfinished hm hrow,
              next_of_record (s := s.through f) hfinished hm' hrow', hmove, hanswer]
            rfl

theorem after_through (hf : Follows f) (s : Stream γ τ σ) (flags : Nat → Bool) (n : Nat) :
    (s.through f).after flags n = (s.after flags n).through f := by
  induction n with
  | zero => rfl
  | succ n ih => rw [after, ih, next_through hf, after]

theorem item_through (hf : Follows f) (s : Stream γ τ σ) (flags : Nat → Bool) (n : Nat) :
    (s.through f).item flags n = s.item flags n := by
  rw [item, after_through hf, next_through hf, item]

end Through

/-! ### One call -/

section Call

variable [RowSource γ] [Target σ] {p : Projector τ σ}

/-- What a call gives in a stream that has mapped so many rows, and the moves that it makes. -/
inductive Accounts (p : Projector τ σ) (rows : Nat) : Item σ → List Move → Prop
  | record {row : Row} {r : σ} (gives : (p.projectOne row).value = .ok r) :
    Accounts p rows (.record r) [.row row]
  | binding {row : Row} {f : BindingFailure} (fails : (p.projectOne row).value = .error f) :
    Accounts p rows (.failed (.binding (f.atRow rows))) [.row row]
  | cancelled : Accounts p rows (.failed (.cancelled rows)) []
  | cursor {e : CursorError} : Accounts p rows (.failed (.cursor (some rows) e)) [.failed e]
  | ended : Accounts p rows .done [.ended]
  | spent : Accounts p rows .done []

/-- The rows taken are the rows projected. -/
theorem Accounts.projections {rows : Nat} {i : Item σ} {moves : List Move}
    (h : Accounts p rows i moves) :
    [i].filterMap Item.projection? =
      (moves.filterMap Move.row?).map fun row => (p.projectOne row).value := by
  cases h with
  | record gives => simp [Item.projection?, Move.row?, gives]
  | @binding row f fails =>
    have hindex : f.rowIndex = none := p.rowIndex_of_projectOne fails
    have hf : ({ f with rowIndex := none } : BindingFailure) = f := by rw [← hindex]
    simp [Item.projection?, Move.row?, fails, BindingFailure.atRow, hf]
  | cancelled | cursor | ended | spent => rfl

/-- A stream of a projector, whatever it has done. -/
structure Honest (p : Projector τ σ) (s : Stream γ τ σ) : Prop where
  projector : s.projector = p
  faithful : s.index.Faithful

/-- What the source says to the next move. -/
def nextMove (s : Stream γ τ σ) : Move :=
  .ofAnswer (RowSource.advance s.cursor).1 (RowSource.row (RowSource.advance s.cursor).2)

/-- A call leaves the source alone or moves it once, and accounts for the move. -/
theorem Honest.next {s : Stream γ τ σ} (h : Honest p s) (flag : Bool) :
    Honest p (s.next flag).value.2 ∧
      ((s.next flag).value.2.cursor = s.cursor ∧ Accounts p s.rows (s.next flag).value.1 [] ∨
        (s.next flag).value.2.cursor = (RowSource.advance s.cursor).2 ∧
          Accounts p s.rows (s.next flag).value.1 [s.nextMove]) := by
  cases hfinished : s.finished with
  | true =>
    rw [next_of_finished hfinished]
    exact ⟨h, Or.inl ⟨rfl, .spent⟩⟩
  | false =>
    cases flag with
    | true =>
      rw [next_of_cancelled hfinished]
      exact ⟨⟨h.projector, h.faithful⟩, Or.inl ⟨rfl, .cancelled⟩⟩
    | false =>
      have hindex : s.answer.2.Faithful := s.projector.faithful_project _ h.faithful
      have hanswer : (p.projectOne (RowSource.row (RowSource.advance s.cursor).2)).value =
          s.answer.1 := by
        rw [answer, h.projector, p.project_eq_projectOne _ h.faithful]
      unfold nextMove
      cases hmove : (RowSource.advance s.cursor).1 with
      | error e =>
        rw [next_of_cursor hfinished hmove]
        exact ⟨⟨h.projector, h.faithful⟩, Or.inr ⟨rfl, .cursor⟩⟩
      | ok more =>
        cases more with
        | false =>
          rw [next_of_exhausted hfinished hmove]
          exact ⟨⟨h.projector, h.faithful⟩, Or.inr ⟨rfl, .ended⟩⟩
        | true =>
          cases hrow : s.answer.1 with
          | error f =>
            rw [next_of_binding hfinished hmove hrow]
            exact ⟨⟨h.projector, hindex⟩, Or.inr ⟨rfl, .binding (hanswer.trans hrow)⟩⟩
          | ok r =>
            rw [next_of_record hfinished hmove hrow]
            exact ⟨⟨h.projector, hindex⟩, Or.inr ⟨rfl, .record (hanswer.trans hrow)⟩⟩

theorem honest_after (p : Projector τ σ) (c : γ) (flags : Nat → Bool) (n : Nat) :
    Honest p ((start c p).after flags n) := by
  induction n with
  | zero => exact ⟨rfl, PresenceIndex.faithful_empty p.table⟩
  | succ n ih => exact (ih.next (flags n)).1

/-- The call of number `n` writes down the moves for which it accounts. -/
theorem accounts_call (p : Projector τ σ) (w : Watched γ) (flags : Nat → Bool) (n : Nat) :
    ∃ made, ((start w p).after flags (n + 1)).cursor.moves =
        ((start w p).after flags n).cursor.moves ++ made ∧
      Accounts p ((start w p).after flags n).rows ((start w p).item flags n) made := by
  rcases ((honest_after p w flags n).next (flags n)).2 with ⟨hcursor, haccounts⟩ | ⟨hcursor, haccounts⟩
  · refine ⟨[], ?_, haccounts⟩
    rw [List.append_nil]
    exact congrArg Watched.moves hcursor
  · exact ⟨_, congrArg Watched.moves hcursor, haccounts⟩

theorem after_eq_moved (p : Projector τ σ) (c : γ) (flags : Nat → Bool) (n : Nat) :
    ∃ k, ((start c p).after flags n).cursor = moved c k := by
  induction n with
  | zero => exact ⟨0, rfl⟩
  | succ n ih =>
    obtain ⟨k, hk⟩ := ih
    rcases ((honest_after p c flags n).next (flags n)).2 with ⟨hcursor, -⟩ | ⟨hcursor, -⟩
    · exact ⟨k, hcursor.trans hk⟩
    · refine ⟨k + 1, hcursor.trans ?_⟩
      rw [hk]
      rfl

end Call

/-! ### Segments -/

/-- A stream over a source that is handed back after so many calls; `flags n` is the flag that the
call of number `n` finds. -/
structure Segment (τ σ : Type) where
  projector : Projector τ σ
  calls : Nat
  flags : Nat → Bool

namespace Segment

variable [RowSource γ] [RowSource δ] [Target σ]

def items (g : Segment τ σ) (c : γ) : List (Item σ) :=
  (List.range g.calls).map ((start c g.projector).item g.flags)

/-- The source as it is handed back. -/
def rest (g : Segment τ σ) (c : γ) : γ := ((start c g.projector).after g.flags g.calls).cursor

/-- The answers that the source gives while it is lent. -/
def moves (g : Segment τ σ) (c : γ) : List Move := (g.rest (Watched.fresh c)).moves

/-- The rows that are delivered while the source is lent. -/
def rows (g : Segment τ σ) (c : γ) : List Row := (g.moves c).filterMap Move.row?

/-- Each segment with the source that is lent to it. -/
def lent : List (Segment τ σ) → γ → List (Segment τ σ × γ)
  | [], _ => []
  | g :: gs, c => (g, c) :: lent gs (g.rest c)

/-- The source as the last segment hands it back. -/
def restAll : List (Segment τ σ) → γ → γ
  | [], c => c
  | g :: gs, c => restAll gs (g.rest c)

/-- What all segments give, in order. -/
def itemsAll (gs : List (Segment τ σ)) (c : γ) : List (Item σ) :=
  (lent gs c).flatMap fun x => x.1.items x.2

variable {f : γ → δ}

theorem items_through (hf : Follows f) (g : Segment τ σ) (c : γ) : g.items (f c) = g.items c := by
  unfold items
  exact List.map_congr_left fun n _ => item_through hf (start c g.projector) g.flags n

theorem rest_through (hf : Follows f) (g : Segment τ σ) (c : γ) : g.rest (f c) = f (g.rest c) :=
  congrArg Stream.cursor (after_through hf (start c g.projector) g.flags g.calls)

theorem restAll_through (hf : Follows f) (gs : List (Segment τ σ)) (c : γ) :
    restAll gs (f c) = f (restAll gs c) := by
  induction gs generalizing c with
  | nil => rfl
  | cons g gs ih => rw [restAll, restAll, rest_through hf, ih]

/-- The rows that a segment takes are the rows that it projects. -/
theorem projections_items (g : Segment τ σ) (c : γ) :
    (g.items c).filterMap Item.projection? =
      (g.rows c).map fun row => (g.projector.projectOne row).value := by
  have hitems : g.items c = g.items (Watched.fresh c) :=
    items_through Watched.follows_source g (Watched.fresh c)
  rw [hitems, items, rows, moves, rest]
  induction g.calls with
  | zero => rfl
  | succ n ih =>
    obtain ⟨made, hmoves, haccounts⟩ := accounts_call g.projector (Watched.fresh c) g.flags n
    rw [List.range_succ, List.map_append, List.filterMap_append, ih, hmoves, List.filterMap_append,
      List.map_append]
    exact congrArg _ haccounts.projections

/-- A source writes down the answers of one segment after another. -/
theorem moves_restAll (gs : List (Segment τ σ)) (c : γ) :
    (restAll gs (Watched.fresh c)).moves = (lent gs c).flatMap fun x => x.1.moves x.2 := by
  induction gs generalizing c with
  | nil => rfl
  | cons g gs ih =>
    -- what the next segment is lent is a fresh source but for the moves of this one
    have hrest : g.rest (Watched.fresh c) =
        (Watched.fresh (g.rest c)).withEarlier (g.moves c) := by
      have hsource := rest_through Watched.follows_source g (Watched.fresh c)
      unfold Watched.withEarlier Watched.fresh
      rw [List.append_nil]
      exact congrArg (fun source => Watched.mk source (g.moves c)) hsource.symm
    rw [restAll, hrest, restAll_through (Watched.follows_withEarlier _), lent, List.flatMap_cons, ← ih]
    rfl

theorem restAll_eq_moved (gs : List (Segment τ σ)) (c : γ) : ∃ k, restAll gs c = moved c k := by
  induction gs generalizing c with
  | nil => exact ⟨0, rfl⟩
  | cons g gs ih =>
    obtain ⟨m, hm⟩ := after_eq_moved g.projector c g.flags g.calls
    obtain ⟨n, hn⟩ := ih (g.rest c)
    refine ⟨m + n, ?_⟩
    rw [restAll, hn, rest, hm, RowSource.moved_moved]

end Segment

/-! ### Undisturbed traversals -/

section Traversal

variable [RowSource γ] [Target σ] {p : Projector τ σ} {c : γ} {rs rest all : List σ}

theorem Stops.not_maps {flags : Nat → Bool} {k n : Nat} {i : Item σ} (hstops : Stops p c flags k i n)
    (r : σ) : ¬Maps p c flags k r := by
  intro hmaps
  cases hstops with
  | cancelled isSet => cases hmaps.going.symm.trans isSet
  | exhausted _ ends => cases hmaps.moves.symm.trans ends
  | cursor _ fails => cases hmaps.moves.symm.trans fails
  | binding _ _ fails => cases hmaps.gives.symm.trans fails

/-- The first rows of a source map to these records. -/
def Begins (p : Projector τ σ) (c : γ) (rs : List σ) : Prop :=
  ∀ (j : Nat) (r : σ), rs[j]? = some r → Maps p c (fun _ => false) j r

/-- All rows of a source map to these records. -/
structure Traverses (p : Projector τ σ) (c : γ) (rs : List σ) : Prop where
  begins : Begins p c rs
  ends : (RowSource.advance (moved c rs.length)).1 = .ok false

theorem Traverses.stops (h : Traverses p c rs) :
    Stops p c (fun _ => false) rs.length .done (rs.length + 1) := .exhausted rfl h.ends

/-- Records of the first rows, and all records up to the first call that maps none. -/
theorem Begins.prefix_of_stops (hrs : Begins p c rs) (hall : Begins p c all) {i : Item σ} {n : Nat}
    (hstops : Stops p c (fun _ => false) all.length i n) : rs <+: all := by
  have hlength : rs.length ≤ all.length := by
    refine Nat.le_of_not_lt ?_
    intro hlt
    exact hstops.not_maps _ (hrs all.length rs[all.length] (List.getElem?_eq_getElem hlt))
  rw [List.prefix_iff_getElem?]
  intro j hj
  have hj' : j < all.length := Nat.lt_of_lt_of_le hj hlength
  have hr := hrs j rs[j] (List.getElem?_eq_getElem hj)
  have hr' := hall j all[j] (List.getElem?_eq_getElem hj')
  rw [List.getElem?_eq_getElem hj', Except.ok.inj (hr'.gives.symm.trans hr.gives)]

theorem collect_eq_ok_iff {γ : Type} [Cursor γ] {c : γ} :
    (collect false c p).value = .ok rs ↔ Traverses p c rs := by
  obtain ⟨all, i, n, hall, hstops, hdrain⟩ :=
    (running_start p c).drain false (Nat.lt_succ_self (Cursor.remaining c))
  simp only [Nat.zero_add] at hall hstops
  have hvalue : i = .done ∧ (collect false c p).value = .ok all ∨
      ∃ e, i = .failed e ∧ (collect false c p).value = .error e := hdrain
  constructor
  · intro hrs
    rcases hvalue with ⟨rfl, hok⟩ | ⟨e, -, herror⟩
    · obtain rfl : all = rs := Except.ok.inj (hok.symm.trans hrs)
      cases hstops with
      | exhausted _ ends => exact ⟨hall, ends⟩
    · cases herror.symm.trans hrs
  · intro hrs
    have hprefix : rs <+: all := hrs.begins.prefix_of_stops hall hstops
    have hprefix' : all <+: rs := Begins.prefix_of_stops hall hrs.begins hrs.stops
    obtain rfl : rs = all := hprefix.eq_of_length_le hprefix'.length_le
    cases hstops with
    | exhausted =>
      rcases hvalue with ⟨-, hok⟩ | ⟨e, he, -⟩
      · exact hok
      · cases he
    | cancelled isSet => cases isSet
    | cursor _ fails => cases hrs.ends.symm.trans fails
    | binding _ moves _ => cases hrs.ends.symm.trans moves

/-- Taking all records fails as the first call does that maps none. -/
theorem Begins.collect_of_stops {γ : Type} [Cursor γ] {c : γ} (hrs : Begins p c rs) {e : MappingError}
    {m : Nat} (hstops : Stops p c (fun _ => false) rs.length (.failed e) m) :
    (collect false c p).value = .error e := by
  obtain ⟨all, i, n, hall, hlast, hdrain⟩ :=
    (running_start p c).drain false (Nat.lt_succ_self (Cursor.remaining c))
  simp only [Nat.zero_add] at hall hlast
  have hprefix : rs <+: all := hrs.prefix_of_stops hall hlast
  have hprefix' : all <+: rs := Begins.prefix_of_stops hall hrs hstops
  obtain rfl : rs = all := hprefix.eq_of_length_le hprefix'.length_le
  have hmaps : ∀ j < rs.length, ∃ r, Maps p c (fun _ => false) j r :=
    fun j hj => ⟨rs[j], hall j rs[j] (List.getElem?_eq_getElem hj)⟩
  obtain rfl : Item.failed e = i :=
    (item_of_stops hmaps hstops).1.symm.trans (item_of_stops hmaps hlast).1
  rcases hdrain with ⟨hdone, -⟩ | ⟨e', he, herror⟩
  · cases hdone
  · cases he
    exact herror

theorem maps_moved {m j : Nat} {r : σ} :
    Maps p (moved c m) (fun _ => false) j r ↔ Maps p c (fun _ => false) (m + j) r := by
  constructor
  · rintro ⟨going, moves, gives⟩
    rw [RowSource.moved_moved] at moves gives
    exact ⟨going, moves, gives⟩
  · rintro ⟨going, moves, gives⟩
    constructor
    · exact going
    · rwa [RowSource.moved_moved]
    · rwa [RowSource.moved_moved]

/-- After the first rows of a source, the rest is a source of its own. -/
theorem Begins.traverses_append (hrs : Begins p c rs) :
    Traverses p c (rs ++ rest) ↔ Traverses p (moved c rs.length) rest := by
  constructor
  · rintro ⟨begins, ends⟩
    constructor
    · intro j r hr
      refine maps_moved.mpr (begins (rs.length + j) r ?_)
      rw [List.getElem?_append_right (Nat.le_add_right _ _), Nat.add_sub_cancel_left, hr]
    · rwa [RowSource.moved_moved, ← List.length_append]
  · rintro ⟨begins, ends⟩
    constructor
    · intro j r hr
      rcases Nat.lt_or_ge j rs.length with hj | hj
      · rw [List.getElem?_append_left hj] at hr
        exact hrs j r hr
      · rw [List.getElem?_append_right hj] at hr
        have hmaps := maps_moved.mp (begins (j - rs.length) r hr)
        rwa [Nat.add_sub_cancel' hj] at hmaps
    · rwa [RowSource.moved_moved, ← List.length_append] at ends

theorem Begins.traverses_iff (hrs : Begins p c rs) :
    Traverses p c all ↔ ∃ rest, Traverses p (moved c rs.length) rest ∧ all = rs ++ rest := by
  constructor
  · intro hall
    obtain ⟨rest, rfl⟩ := hrs.prefix_of_stops hall.begins hall.stops
    exact ⟨rest, hrs.traverses_append.mp hall, rfl⟩
  · rintro ⟨rest, hrest, rfl⟩
    exact hrs.traverses_append.mpr hrest

end Traversal

/-! ### All segments -/

section Whole

open Segment (lent restAll itemsAll)

variable [Target σ]

theorem Segment.itemsAll_through [RowSource γ] [RowSource δ] {f : γ → δ} (hf : Follows f)
    (gs : List (Segment τ σ)) (c : γ) : itemsAll gs (f c) = itemsAll gs c := by
  unfold itemsAll
  induction gs generalizing c with
  | nil => rfl
  | cons g gs ih =>
    rw [lent, lent, List.flatMap_cons, List.flatMap_cons, Segment.items_through hf,
      Segment.rest_through hf, ih]

theorem Segment.projections_itemsAll [RowSource γ] (gs : List (Segment τ σ)) (c : γ) :
    (itemsAll gs c).filterMap Item.projection? =
      (lent gs c).flatMap fun x => (x.1.rows x.2).map fun row =>
        (x.1.projector.projectOne row).value := by
  rw [itemsAll, List.filterMap_flatMap]
  exact congrArg (fun f => (lent gs c).flatMap f) (funext fun x => x.1.projections_items x.2)

/-- One projector in all segments: the rows delivered are the rows projected. -/
theorem Segment.projections_of_projector [RowSource γ] {gs : List (Segment τ σ)}
    {p : Projector τ σ} (hgs : ∀ g ∈ gs, g.projector = p) (c : γ) :
    (itemsAll gs c).filterMap Item.projection? =
      ((restAll gs (Watched.fresh c)).moves.filterMap Move.row?).map fun row =>
        (p.projectOne row).value := by
  rw [Segment.projections_itemsAll, Segment.moves_restAll]
  induction gs generalizing c with
  | nil => rfl
  | cons g gs ih =>
    have hgs' : ∀ g' ∈ gs, g'.projector = p := fun g' hg' => hgs g' (List.mem_cons_of_mem _ hg')
    rw [lent, List.flatMap_cons, List.flatMap_cons, List.filterMap_append, List.map_append,
      ih hgs', hgs g List.mem_cons_self]
    rfl

/-- The source has made the moves that are written down, and no others. -/
theorem Segment.restAll_eq [RowSource γ] (gs : List (Segment τ σ)) (c : γ) :
    restAll gs c = moved c (restAll gs (Watched.fresh c)).moves.length ∧
      (restAll gs (Watched.fresh c)).moves =
        (List.range (restAll gs (Watched.fresh c)).moves.length).map (RowSource.answerAt c) := by
  obtain ⟨k, hk⟩ := Segment.restAll_eq_moved gs (Watched.fresh c)
  have hsource : restAll gs c = (restAll gs (Watched.fresh c)).source :=
    Segment.restAll_through Watched.follows_source gs (Watched.fresh c)
  rw [hsource, hk, Watched.moved_fresh, List.length_map, List.length_range]
  exact ⟨rfl, rfl⟩

theorem Segment.answerAt_of_moves [RowSource γ] {gs : List (Segment τ σ)} {c : γ} {j : Nat} {m : Move}
    (hm : (restAll gs (Watched.fresh c)).moves[j]? = some m) : RowSource.answerAt c j = m := by
  rw [(Segment.restAll_eq gs c).2, List.getElem?_map] at hm
  obtain ⟨k, hk, rfl⟩ := Option.map_eq_some_iff.mp hm
  obtain ⟨_, rfl⟩ := List.getElem?_eq_some_iff.mp hk
  rw [List.getElem_range]

theorem exists_records {p : Projector τ σ} {rows : List Row}
    (hrows : ∀ row ∈ rows, ∃ r, (p.projectOne row).value = .ok r) :
    ∃ rs : List σ, (rows.map fun row => (p.projectOne row).value) = rs.map .ok := by
  induction rows with
  | nil => exact ⟨[], rfl⟩
  | cons row rows ih =>
    obtain ⟨r, hr⟩ := hrows row List.mem_cons_self
    obtain ⟨rs, hrs⟩ := ih fun row' hrow' => hrows row' (List.mem_cons_of_mem _ hrow')
    exact ⟨r :: rs, by rw [List.map_cons, List.map_cons, hr, hrs]⟩

/-- Segments that were given rows and then only ends, no row failing, have the records of the first
rows of the source. -/
theorem Segment.begins_records [RowSource γ] {gs : List (Segment τ σ)} {p : Projector τ σ}
    (hgs : ∀ g ∈ gs, g.projector = p) {c : γ} {rows : List Row} {ends : Nat}
    (hrows : ∀ row ∈ rows, ∃ r, (p.projectOne row).value = .ok r)
    (hmoves : (restAll gs (Watched.fresh c)).moves = rows.map .row ++ List.replicate ends .ended) :
    ((itemsAll gs c).filterMap Item.record?).length = rows.length ∧
      Begins p c ((itemsAll gs c).filterMap Item.record?) := by
  have hdelivered : (restAll gs (Watched.fresh c)).moves.filterMap Move.row? = rows := by
    have hends : (List.replicate ends Move.ended).filterMap Move.row? = [] := by
      rw [List.filterMap_eq_nil_iff]
      intro m hm
      rw [List.eq_of_mem_replicate hm]
      rfl
    rw [hmoves, List.filterMap_append, hends, List.append_nil, List.filterMap_map]
    exact List.filterMap_some
  obtain ⟨rs, hrs⟩ := exists_records hrows
  have hrecords : (itemsAll gs c).filterMap Item.record? = rs := by
    rw [Item.records_eq, Segment.projections_of_projector hgs, hdelivered, hrs, List.filterMap_map]
    exact List.filterMap_some
  rw [hrecords]
  refine ⟨by simpa using (congrArg List.length hrs).symm, ?_⟩
  intro j r hr
  obtain ⟨row, hrow, hgives⟩ : ∃ row, rows[j]? = some row ∧ (p.projectOne row).value = .ok r := by
    have hj := congrArg (fun l => l[j]?) hrs
    simpa [hr] using hj
  have hmove : (restAll gs (Watched.fresh c)).moves[j]? = some (.row row) := by
    have hj : j < (rows.map Move.row).length := by
      rw [List.length_map]
      exact (List.getElem?_eq_some_iff.mp hrow).1
    rw [hmoves, List.getElem?_append_left hj, List.getElem?_map, hrow]
    rfl
  have ⟨hok, hstands⟩ := Move.ofAnswer_eq_row (Segment.answerAt_of_moves hmove)
  exact ⟨rfl, hok, by rw [hstands, hgives]⟩

/-- Cut at any points, a traversal gives the records of an undisturbed one: all of them if the end
was met, and otherwise those before what an undisturbed traversal of the source left gives. -/
theorem Segment.collect_of_moves {γ : Type} [Cursor γ] {gs : List (Segment τ σ)} {p : Projector τ σ}
    (hgs : ∀ g ∈ gs, g.projector = p) {c : γ} {rows : List Row} {ends : Nat}
    (hrows : ∀ row ∈ rows, ∃ r, (p.projectOne row).value = .ok r)
    (hmoves : (restAll gs (Watched.fresh c)).moves = rows.map .row ++ List.replicate ends .ended) :
    (0 < ends → (collect false c p).value = .ok ((itemsAll gs c).filterMap Item.record?)) ∧
      (ends = 0 → ∀ all, (collect false c p).value = .ok all ↔
        ∃ rest, (collect false (restAll gs c) p).value = .ok rest ∧
          all = (itemsAll gs c).filterMap Item.record? ++ rest) := by
  obtain ⟨hlength, hbegins⟩ := Segment.begins_records hgs hrows hmoves
  constructor
  · intro hends
    have hend : (restAll gs (Watched.fresh c)).moves[rows.length]? = some .ended := by
      have hrowsLength : (rows.map Move.row).length = rows.length := List.length_map _
      rw [hmoves, List.getElem?_append_right (Nat.le_of_eq hrowsLength), hrowsLength, Nat.sub_self,
        List.getElem?_replicate, if_pos hends]
    have hadvance := Move.ofAnswer_eq_ended (Segment.answerAt_of_moves hend)
    exact collect_eq_ok_iff.mpr ⟨hbegins, by rw [hlength, hadvance]⟩
  · rintro rfl all
    have hcount : (restAll gs (Watched.fresh c)).moves.length =
        ((itemsAll gs c).filterMap Item.record?).length := by
      rw [hmoves, hlength]
      simp
    rw [collect_eq_ok_iff, hbegins.traverses_iff, (Segment.restAll_eq gs c).1, hcount]
    simp only [collect_eq_ok_iff]

/-- Streams one after another over one source, each lent it for any number of calls under any
schedule of cancellation.  Writing down the moves of the source changes nothing; they are the moves
of the segments in turn.  Each call accounts for its own: a record or a failed row for one row
delivered, and no row for anything else.  So the records and the failed rows are, in order and one to
one, the rows delivered, each as its segment's projector gives it alone.  Where no row fails and none
follows the end, the records are those of an undisturbed traversal, or the first of them if the end
was not met. -/
theorem segments_take_each_row_once (gs : List (Segment τ σ)) :
    (∀ {γ : Type} [RowSource γ] (c : γ),
      itemsAll gs (Watched.fresh c) = itemsAll gs c ∧
      restAll gs (Watched.fresh c) =
        ⟨restAll gs c, (lent gs c).flatMap fun x => x.1.moves x.2⟩ ∧
      (∀ x ∈ lent gs c, ∀ n,
        let stream := (start (Watched.fresh x.2) x.1.projector).after x.1.flags
        ∃ made, (stream (n + 1)).cursor.moves = (stream n).cursor.moves ++ made ∧
          Accounts x.1.projector (stream n).rows
            ((start x.2 x.1.projector).item x.1.flags n) made) ∧
      ((itemsAll gs c).filterMap Item.projection? = (lent gs c).flatMap fun x =>
        (x.1.rows x.2).map fun row => (x.1.projector.projectOne row).value) ∧
      ∀ p : Projector τ σ, (∀ g ∈ gs, g.projector = p) →
        (itemsAll gs c).filterMap Item.projection? =
          ((restAll gs (Watched.fresh c)).moves.filterMap Move.row?).map fun row =>
            (p.projectOne row).value) ∧
    ∀ {γ : Type} [Cursor γ] (c : γ) (p : Projector τ σ) (rows : List Row) (ends : Nat),
      (∀ g ∈ gs, g.projector = p) → (∀ row ∈ rows, ∃ r, (p.projectOne row).value = .ok r) →
      (restAll gs (Watched.fresh c)).moves = rows.map .row ++ List.replicate ends .ended →
        (0 < ends → (collect false c p).value = .ok ((itemsAll gs c).filterMap Item.record?)) ∧
        (ends = 0 → ∀ all, (collect false c p).value = .ok all ↔
          ∃ rest, (collect false (restAll gs c) p).value = .ok rest ∧
            all = (itemsAll gs c).filterMap Item.record? ++ rest) := by
  constructor
  · intro γ _ c
    refine ⟨(Segment.itemsAll_through Watched.follows_source gs (Watched.fresh c)).symm, ?_, ?_,
      Segment.projections_itemsAll gs c, fun p hgs => Segment.projections_of_projector hgs c⟩
    · have hsource : restAll gs c = (restAll gs (Watched.fresh c)).source :=
        Segment.restAll_through Watched.follows_source gs (Watched.fresh c)
      rw [hsource, ← Segment.moves_restAll]
    · intro x _ n
      obtain ⟨made, hmoves, haccounts⟩ :=
        accounts_call x.1.projector (Watched.fresh x.2) x.1.flags n
      refine ⟨made, hmoves, ?_⟩
      have hitem := item_through Watched.follows_source
        (start (Watched.fresh x.2) x.1.projector) x.1.flags n
      exact hitem ▸ haccounts
  · intro γ _ c p rows ends hgs hrows hmoves
    exact Segment.collect_of_moves hgs hrows hmoves

/-- Three rows in three segments: the first is left after a record, the second is cancelled after
one, and the third meets the end. -/
theorem segments_take_each_row_once_cut :
    ∃ (p : Projector Unit Record) (c : MemoryCursor) (gs : List (Segment Unit Record))
      (rows : List Row), (∀ g ∈ gs, g.projector = p) ∧
      (∀ row ∈ rows, ∃ r, (p.projectOne row).value = .ok r) ∧
      (restAll gs (Watched.fresh c)).moves = rows.map .row ++ List.replicate 1 .ended ∧
      (gs.map fun g => g.calls) = [1, 3, 4] ∧
      ((itemsAll gs c).map fun i => i.record?.map Record.fields) =
        [some [("Id", .int 1)], some [("Id", .int 2)], none, none, some [("Id", .int 3)], none, none,
          none] ∧
      (collect false c p).value =
        .ok [⟨[("Id", .int 1)]⟩, ⟨[("Id", .int 2)]⟩, ⟨[("Id", .int 3)]⟩] := by
  let s : RuleSet Record :=
    ⟨"Order", [.ofProperty (SchemaProperty.toProperty ⟨"Id", .int, none, false⟩)], false⟩
  let p : Projector Unit Record := ⟨.ofRuleSet () s "orders", "Order", ⟨0, ["Id"]⟩, s.rules, false⟩
  let c : MemoryCursor := .ofResultSets [⟨⟨["Id"]⟩, [[.int 1], [.int 2], [.int 3]]⟩] none
  let gs : List (Segment Unit Record) :=
    [⟨p, 1, fun _ => false⟩, ⟨p, 3, fun n => n == 1⟩, ⟨p, 4, fun _ => false⟩]
  let rows : List Row := [1, 2, 3].map fun n =>
    MemoryCursor.row ⟨⟨["Id"]⟩, some [.int n], [], [], 0, none⟩
  have hgs : ∀ g ∈ gs, g.projector = p := by simp [gs]
  have hrows : ∀ row ∈ rows, ∃ r, (p.projectOne row).value = .ok r := by
    intro row hrow
    obtain ⟨n, -, rfl⟩ := List.mem_map.mp hrow
    exact ⟨⟨[("Id", .int n)]⟩, rfl⟩
  have hmoves : (restAll gs (Watched.fresh c)).moves =
      rows.map .row ++ List.replicate 1 .ended := by
    have hlength : (restAll gs (Watched.fresh c)).moves.length = 4 := by decide +kernel
    rw [(Segment.restAll_eq gs c).2, hlength]
    rfl
  have hitems : ((itemsAll gs c).map fun i => i.record?.map Record.fields) =
      [some [("Id", .int 1)], some [("Id", .int 2)], none, none, some [("Id", .int 3)], none, none,
        none] := by
    decide +kernel
  have hcollect := ((segments_take_each_row_once gs).2 c p rows 1 hgs hrows hmoves).1 Nat.one_pos
  have hrecords : (itemsAll gs c).filterMap Item.record? =
      [⟨[("Id", .int 1)]⟩, ⟨[("Id", .int 2)]⟩, ⟨[("Id", .int 3)]⟩] := by
    decide +kernel
  rw [hrecords] at hcollect
  exact ⟨p, c, gs, rows, hgs, hrows, hmoves, rfl, hitems, hcollect⟩

end Whole

end Stream

end RecordMapping
