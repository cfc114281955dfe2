import RecordMapping.Proofs.SingleFlight
import Mathlib.Tactic.ByContra

/-!
# RecordMapping.Proofs.EmptySlots — when a slot without a value stays in the table

A caller whose run has failed looks whether anyone else holds a handle to its slot, and takes the
slot out of the table if nobody does.  A caller that still wants the value will look in its turn if
it fails as well.  But a caller that has looked gives its lock back before its handle.  The next one
to fail may look in between: it finds the handle of a caller that is done, leaves the slot where it
is, and nobody looks again.  Such a look is `premature`.

Of the slots that are empty when no call is under way, the table has just those at which the last
look was premature.  Without premature looks every slot of the table holds a value.
-/

namespace RecordMapping.Interleaving

variable {K κ : Type}

/-! ### Looks -/

/-- A caller that failed looks whether its slot can go. -/
structure Look where
  slot : Nat
  /-- Another caller that failed has given the lock back, but not yet its handle. -/
  premature : Bool
  deriving DecidableEq, Repr

/-- The last of the looks at slot `n`. -/
def lastLook? (looks : List Look) (n : Nat) : Option Look :=
  (looks.filter fun look => decide (look.slot = n)).getLast?

theorem lastLook?_concat (looks : List Look) (look : Look) (n : Nat) :
    lastLook? (looks ++ [look]) n = if look.slot = n then some look else lastLook? looks n := by
  unfold lastLook?
  rw [List.filter_append]
  by_cases hn : look.slot = n
  · rw [if_pos hn, List.filter_cons_of_pos (by simpa using hn)]
    exact List.getLast?_concat
  · rw [if_neg hn, List.filter_cons_of_neg (by simpa using hn)]
    simp

namespace State

section Look

variable [DecidableEq κ] {s : State K κ} {i n : Nat} {c : Caller K κ}

/-- Does a caller that failed still hold a handle to slot `n` after it has given back its lock? -/
def lingers (s : State K κ) (n : Nat) : Bool :=
  s.callers.any fun c => decide (c.phase = .leaving n .failed)

theorem lingers_iff : s.lingers n = true ↔
    ∃ (i : Nat) (c : Caller K κ), s.callers[i]? = some c ∧ c.phase = .leaving n .failed := by
  unfold lingers
  rw [List.any_eq_true]
  constructor
  · rintro ⟨c, hc, hphase⟩
    obtain ⟨i, hi⟩ := List.mem_iff_getElem?.mp hc
    exact ⟨i, c, hi, of_decide_eq_true hphase⟩
  · rintro ⟨i, c, hc, hphase⟩
    exact ⟨c, List.mem_of_getElem? hc, decide_eq_true hphase⟩

/-- The look that caller `i` takes by its next step. -/
def look? (s : State K κ) (i : Nat) : Option Look :=
  (s.callers[i]?).bind fun c =>
    match c.phase with
    | .broken n => some ⟨n, s.lingers n⟩
    | _ => none

theorem lastLook?_of_broken (hc : s.callers[i]? = some c) (hphase : c.phase = .broken n)
    (looks : List Look) : lastLook? (looks ++ (s.look? i).toList) n = some ⟨n, s.lingers n⟩ := by
  have hlook : s.look? i = some ⟨n, s.lingers n⟩ := by rw [look?, hc, Option.bind_some, hphase]
  rw [hlook]
  exact (lastLook?_concat _ _ _).trans (if_pos rfl)

theorem lastLook?_of_not_broken (hc : s.callers[i]? = some c) (hphase : c.phase ≠ .broken n)
    (looks : List Look) : lastLook? (looks ++ (s.look? i).toList) n = lastLook? looks n := by
  rw [look?, hc, Option.bind_some]
  split
  · rename_i m hm
    have hne : m ≠ n := by
      rintro rfl
      exact hphase hm
    exact (lastLook?_concat _ _ _).trans (if_neg hne)
  · exact congrArg (lastLook? · n) (List.append_nil looks)

end Look

/-- The looks that are taken in the course of these moves. -/
def looks [DecidableEq K] [DecidableEq κ] : List (Nat × Bool) → State K κ → List Look
  | [], _ => []
  | (i, succeeds) :: rest, s =>
    (s.look? i).toList ++
      match s.advance i succeeds with
      | some t => looks rest t
      | none => []

end State

/-! ### Handles to one slot -/

section Handles

variable {s : State K κ} {i n : Nat} {c : Caller K κ}

/-- A caller that holds the only handle is counted as one. -/
theorem handles_eq_one (hc : s.callers[i]? = some c) (hcn : c.phase.handle? = some n)
    (honly : ∀ (j : Nat) (d : Caller K κ), s.callers[j]? = some d → d.phase.handle? = some n →
      j = i) :
    s.handles n = 1 := by
  unfold State.handles
  generalize s.callers = callers at hc honly
  induction callers generalizing i with
  | nil => simp at hc
  | cons a rest ih =>
    cases i with
    | zero =>
      obtain rfl : a = c := by simpa using hc
      have hrest : rest.countP (fun d => decide (d.phase.handle? = some n)) = 0 := by
        rw [List.countP_eq_zero]
        intro d hd hdn
        obtain ⟨j, hj⟩ := List.mem_iff_getElem?.mp hd
        have hzero : j + 1 = 0 := honly (j + 1) d (by simpa using hj) (of_decide_eq_true hdn)
        omega
      rw [List.countP_cons_of_pos (by simpa using hcn), hrest]
    | succ i =>
      have ha : ¬ a.phase.handle? = some n := by
        intro han
        have hzero : 0 = i + 1 := honly 0 a rfl han
        omega
      rw [List.countP_cons_of_neg (by simpa using ha)]
      refine ih (by simpa using hc) ?_
      intro j d hd hdn
      have hsucc : j + 1 = i + 1 := honly (j + 1) d (by simpa using hd) hdn
      omega

theorem exists_other_handle (hc : s.callers[i]? = some c) (hcn : c.phase.handle? = some n)
    (hone : s.handles n ≠ 1) :
    ∃ (j : Nat) (d : Caller K κ), j ≠ i ∧ s.callers[j]? = some d ∧ d.phase.handle? = some n := by
  by_contra hnone
  push Not at hnone
  refine hone (handles_eq_one hc hcn ?_)
  intro j d hd hdn
  by_contra hj
  exact hnone j d hj hd hdn

end Handles

/-! ### What a step does to slots and callers -/

namespace Phase

/-- The slot and the answer of a caller that has its answer and still holds a handle. -/
def answered? : Phase κ → Option (Nat × Answer κ)
  | releasing n a | leaving n a => some (n, a)
  | _ => none

end Phase

section Step

variable [DecidableEq K] [DecidableEq κ] {s u : State K κ} {h : List (Note K)} {i n : Nat}
  {c : Caller K κ} {q : Phase κ} {succeeds : Bool}

open State (Effect)

/-- A slot that has a value keeps one. -/
theorem State.Effect.value_isSome (heffect : Effect s i c succeeds u q)
    (hvalue : (s.value? n).isSome = true) : (u.value? n).isSome = true := by
  cases heffect with
  | create => rw [value?_addSlot]; exact hvalue
  | acquire | release => rw [value?_setHolder]; exact hvalue
  | discard => rw [value?_discardUnused]; exact hvalue
  | @publish m v =>
    by_cases hm : n = m
    · subst hm
      have hn : n < s.slots.length := by
        by_contra hn
        rw [value?, List.getElem?_eq_none (by omega)] at hvalue
        cases hvalue
      rw [value?_setValue_self hn]
      rfl
    · rw [value?_setSlot_of_ne hm]
      exact hvalue
  | _ => exact hvalue

/-- Who gets another answer than a failure finds it in the slot. -/
theorem State.Effect.answered (heffect : Effect s i c succeeds u q) (htidy : s.Tidy)
    (hsound : c.Sound s h i) {a : Answer κ} (hq : q.answered? = some (n, a)) (ha : a ≠ .failed) :
    c.phase.answered? = some (n, a) ∨ (u.value? n).isSome = true := by
  cases heffect with
  | look _ hvalue | lookAgain _ hvalue =>
    obtain ⟨rfl, -⟩ := Prod.mk.inj (Option.some.inj hq)
    exact Or.inr (by rw [hvalue]; rfl)
  | publish hphase =>
    obtain ⟨rfl, -⟩ := Prod.mk.inj (Option.some.inj hq)
    have hslot := (hsound.stands hphase).1.slot
    rw [value?_setValue_self (htidy.exists_slot _ _ hslot)]
    exact Or.inr rfl
  | discard =>
    obtain ⟨-, rfl⟩ := Prod.mk.inj (Option.some.inj hq)
    exact absurd rfl ha
  | release hphase =>
    rw [hphase]
    exact Or.inl hq
  | _ => cases hq

/-- A caller that may still make a value goes on with its slot until that has one, or until it looks
whether the slot can go. -/
theorem State.Effect.active (heffect : Effect s i c succeeds u q) (htidy : s.Tidy)
    (hsound : c.Sound s h i) (hactive : c.phase.active? = some n) :
    q.active? = some n ∨ (u.value? n).isSome = true ∨ c.phase = .broken n := by
  cases heffect with
  | find hphase =>
    rcases hphase with hphase | hphase <;> rw [hphase] at hactive <;> cases hactive
  | miss hphase | create hphase | release hphase | leave hphase =>
    rw [hphase] at hactive
    cases hactive
  | look hphase hvalue | lookAgain hphase hvalue =>
    rw [hphase] at hactive
    obtain rfl := Option.some.inj hactive
    exact Or.inr (Or.inl (by rw [hvalue]; rfl))
  | publish hphase =>
    rw [hphase] at hactive
    obtain rfl := Option.some.inj hactive
    have hslot := (hsound.stands hphase).1.slot
    rw [value?_setValue_self (htidy.exists_slot _ _ hslot)]
    exact Or.inr (Or.inl rfl)
  | discard hphase =>
    rw [hphase] at hactive
    obtain rfl := Option.some.inj hactive
    exact Or.inr (Or.inr hphase)
  | queue hphase | acquire hphase | prepare hphase | begin hphase | succeed hphase | fail hphase =>
    rw [hphase] at hactive
    exact Or.inl hactive

/-- The slots in the table are old ones, but for the new slot of the mover. -/
theorem State.Effect.slot_old (heffect : Effect s i c succeeds u q) {k : K}
    (hslot : u.slot? k = some n) : s.slot? k = some n ∨ q.active? = some n := by
  cases heffect with
  | create _ hnone =>
    rw [slot?_addSlot hnone] at hslot
    split at hslot
    · exact Or.inr hslot
    · exact Or.inl hslot
  | @discard m =>
    by_cases hunused : s.Unused c.key m
    · rw [slot?_discardUnused hunused] at hslot
      split at hslot
      · cases hslot
      · exact Or.inl hslot
    · rw [discardUnused_of_used hunused] at hslot
      exact Or.inl hslot
  | _ => exact Or.inl hslot

/-- A slot that the mover finds unused leaves the table. -/
theorem State.Effect.slot_of_unused (heffect : Effect s i c succeeds u q)
    (hphase : c.phase = .broken n) (hunused : s.Unused c.key n) : u.slot? c.key = none := by
  cases heffect with
  | @discard m hphase' =>
    obtain rfl : m = n := by
      rw [hphase] at hphase'
      exact (Phase.broken.inj hphase').symm
    rw [slot?_discardUnused hunused, if_pos rfl]
  | find hphase' => rcases hphase' with hphase' | hphase' <;> cases hphase.symm.trans hphase'
  | miss hphase' | create hphase' | look hphase' | queue hphase' | acquire hphase'
  | lookAgain hphase' | prepare hphase' | begin hphase' | succeed hphase' | fail hphase'
  | publish hphase' | release hphase' | leave hphase' => cases hphase.symm.trans hphase'

/-- A slot leaves the table only if a caller looks at it and finds it unused. -/
theorem State.Effect.slot_kept (heffect : Effect s i c succeeds u q) {k : K}
    (hslot : s.slot? k = some n) (hlook : c.phase = .broken n → ¬ s.Unused c.key n) :
    u.slot? k = some n := by
  cases heffect with
  | create _ hnone =>
    have hk : k ≠ c.key := by
      rintro rfl
      cases hnone.symm.trans hslot
    rw [slot?_addSlot hnone, if_neg hk]
    exact hslot
  | @discard m hphase =>
    by_cases hunused : s.Unused c.key m
    · have hk : k ≠ c.key := by
        rintro rfl
        obtain rfl : m = n := Option.some.inj (hunused.1.symm.trans hslot)
        exact hlook hphase hunused
      rw [slot?_discardUnused hunused, if_neg hk]
      exact hslot
    · rw [discardUnused_of_used hunused]
      exact hslot
  | _ => exact hslot

end Step

/-! ### The slots that looks leave in the table -/

section Accounts

variable {s t u : State K κ} {h : List (Note K)} {looks : List Look} {i n : Nat} {c : Caller K κ}
  {q : Phase κ} {succeeds : Bool}

/-- When no call is under way, nobody will make a value any more. -/
theorem not_active_of_isQuiet (hquiet : s.isQuiet = true) (hc : s.callers[i]? = some c) :
    c.phase.active? ≠ some n := by
  have hidle : c.phase.isIdle = true := List.all_eq_true.mp hquiet c (List.mem_of_getElem? hc)
  cases hphase : c.phase with
  | start | missed | releasing | leaving | returned => nofun
  | found | waiting | locked | ready | running | succeeded | broken =>
    rw [hphase] at hidle
    cases hidle

variable [DecidableEq K]

/-- A state and the looks that led to it. -/
structure Accounted (looks : List Look) (s : State K κ) : Prop where
  /-- An answer that is no failure was found in the slot. -/
  answered : ∀ (i : Nat) (c : Caller K κ) (n : Nat) (a : Answer κ), s.callers[i]? = some c →
    c.phase.answered? = some (n, a) → a ≠ .failed → (s.value? n).isSome = true
  /-- An empty slot in the table waits for a caller, or the last look at it was premature. -/
  empty : ∀ k n, s.slot? k = some n → s.value? n = none →
    (∃ (i : Nat) (c : Caller K κ), s.callers[i]? = some c ∧ c.phase.active? = some n) ∨
      lastLook? looks n = some ⟨n, true⟩
  /-- A premature look leaves the slot in the table. -/
  left : ∀ n, lastLook? looks n = some ⟨n, true⟩ → ∃ k, s.slot? k = some n

theorem accounted_initial (calls : List (K × κ)) : Accounted [] (State.initial calls) where
  answered i c n a hc ha := by
    obtain ⟨call, -, rfl⟩ : ∃ call, calls[i]? = some call ∧
        (⟨call.1, call.2, .start, none⟩ : Caller K κ) = c := by
      simpa [State.initial] using hc
    cases ha
  empty := nofun
  left := nofun

/-- An empty slot that is still in the table after the last call was left there by a premature
look. -/
theorem Accounted.empty_iff (hl : Accounted looks s) (hquiet : s.isQuiet = true)
    (hempty : s.value? n = none) :
    (∃ k, s.slot? k = some n) ↔ lastLook? looks n = some ⟨n, true⟩ := by
  constructor
  · rintro ⟨k, hk⟩
    rcases hl.empty k n hk hempty with ⟨j, d, hd, hactive⟩ | hlast
    · exact absurd hactive (not_active_of_isQuiet hquiet hd)
    · exact hlast
  · exact hl.left n

variable [DecidableEq κ]

open State (Effect)

theorem Accounted.answered_step (hl : Accounted looks s) (hs : Coherent h s)
    (hc : s.callers[i]? = some c) (heffect : Effect s i c succeeds u q) {j : Nat} {d : Caller K κ}
    {a : Answer κ} (hd : (u.setPhase i q).callers[j]? = some d)
    (hanswer : d.phase.answered? = some (n, a)) (ha : a ≠ .failed) :
    ((u.setPhase i q).value? n).isSome = true := by
  by_cases hj : j = i
  · subst hj
    obtain ⟨e, he, -, -, hphase, -⟩ := heffect.caller_self hc
    obtain rfl : e = d := Option.some.inj (he.symm.trans hd)
    rw [hphase] at hanswer
    rcases heffect.answered hs.tidy (hs.sound j c hc) hanswer ha with hbefore | hvalue
    · exact heffect.value_isSome (hl.answered j c n a hc hbefore ha)
    · exact hvalue
  · rw [heffect.caller_of_ne hj] at hd
    exact heffect.value_isSome (hl.answered j d n a hd hanswer ha)

/-- If a caller finds its empty slot used, though no active caller has a handle to it, then another
one that failed still has. -/
theorem Accounted.lingers_of_used (hl : Accounted looks s) (hs : Coherent h s)
    (hc : s.callers[i]? = some c) (hphase : c.phase = .broken n) (hempty : s.value? n = none)
    (hused : ¬ s.Unused c.key n)
    (hidle : ∀ (j : Nat) (d : Caller K κ), j ≠ i → s.callers[j]? = some d →
      d.phase.active? ≠ some n) : s.lingers n = true := by
  have hown : c.Owns s i n := ((hs.sound i c hc).stands hphase).1
  have hhandle : c.phase.handle? = some n := by
    rw [hphase]
    rfl
  have hmany : s.handles n ≠ 1 := fun hone => hused ⟨hown.slot, hone, hempty⟩
  obtain ⟨j, d, hj, hd, hdn⟩ := exists_other_handle hc hhandle hmany
  have hactive := hidle j d hj hd
  have hsound := hs.sound j d hd
  have hanswered := hl.answered j d n
  cases hdphase : d.phase with
  | start | missed | returned => rw [hdphase] at hdn; cases hdn
  | found m | waiting m | locked m | ready m | running m | succeeded m | broken m =>
    rw [hdphase] at hdn hactive
    exact absurd hdn hactive
  | releasing m a =>
    rw [hdphase] at hdn
    obtain rfl := Option.some.inj hdn
    have hholder : s.holder? m = some j := (hsound.stands hdphase).1
    exact absurd (Option.some.inj (hholder.symm.trans hown.lock)) hj
  | leaving m a =>
    rw [hdphase] at hdn
    obtain rfl := Option.some.inj hdn
    have ha : a = .failed := by
      by_contra ha
      have hvalue := hanswered a hd (by rw [hdphase]; rfl) ha
      rw [hempty] at hvalue
      cases hvalue
    subst ha
    exact State.lingers_iff.mpr ⟨j, d, hd, hdphase⟩

theorem Accounted.empty_step (hl : Accounted looks s) (hs : Coherent h s)
    (hc : s.callers[i]? = some c) (heffect : Effect s i c succeeds u q) {k : K}
    (hslot : u.slot? k = some n) (hempty : u.value? n = none) :
    (∃ (j : Nat) (d : Caller K κ), (u.setPhase i q).callers[j]? = some d ∧
        d.phase.active? = some n) ∨
      lastLook? (looks ++ (s.look? i).toList) n = some ⟨n, true⟩ := by
  obtain ⟨d, hd, -, -, hdphase, -⟩ := heffect.caller_self hc
  have hmover (hactive : q.active? = some n) : ∃ (j : Nat) (d : Caller K κ),
      (u.setPhase i q).callers[j]? = some d ∧ d.phase.active? = some n :=
    ⟨i, d, hd, hdphase ▸ hactive⟩
  have hother {j : Nat} {e : Caller K κ} (hj : j ≠ i) (he : s.callers[j]? = some e)
      (hactive : e.phase.active? = some n) : ∃ (j : Nat) (d : Caller K κ),
      (u.setPhase i q).callers[j]? = some d ∧ d.phase.active? = some n :=
    ⟨j, e, (heffect.caller_of_ne hj).trans he, hactive⟩
  rcases heffect.slot_old hslot with hold | hnew
  · have hempty' : s.value? n = none := by
      by_contra hvalue
      have hsome := heffect.value_isSome (Option.isSome_iff_ne_none.mpr hvalue)
      rw [hempty] at hsome
      cases hsome
    by_cases hbroken : c.phase = .broken n
    · -- the mover looks at the slot, which stays in the table
      have hused : ¬ s.Unused c.key n := by
        intro hunused
        have hkey : k = c.key := hs.tidy.key _ _ _ hold hunused.1
        have hgone := heffect.slot_of_unused hbroken hunused
        rw [hkey, hgone] at hslot
        cases hslot
      by_cases hidle : ∃ (j : Nat) (e : Caller K κ), j ≠ i ∧ s.callers[j]? = some e ∧
          e.phase.active? = some n
      · obtain ⟨j, e, hj, he, hactive⟩ := hidle
        exact Or.inl (hother hj he hactive)
      · have hlingers : s.lingers n = true := by
          refine hl.lingers_of_used hs hc hbroken hempty' hused ?_
          intro j e hj he hactive
          exact hidle ⟨j, e, hj, he, hactive⟩
        rw [State.lastLook?_of_broken hc hbroken, hlingers]
        exact Or.inr rfl
    · rw [State.lastLook?_of_not_broken hc hbroken]
      refine (hl.empty k n hold hempty').imp_left ?_
      rintro ⟨j, e, he, hactive⟩
      by_cases hj : j = i
      · subst hj
        obtain rfl : c = e := Option.some.inj (hc.symm.trans he)
        rcases heffect.active hs.tidy (hs.sound j c hc) hactive with hstays | hvalue | hlooks
        · exact hmover hstays
        · rw [hempty] at hvalue
          cases hvalue
        · exact absurd hlooks hbroken
      · exact hother hj he hactive
  · exact Or.inl (hmover hnew)

theorem Accounted.left_step (hl : Accounted looks s) (hs : Coherent h s)
    (hc : s.callers[i]? = some c) (heffect : Effect s i c succeeds u q)
    (hlast : lastLook? (looks ++ (s.look? i).toList) n = some ⟨n, true⟩) :
    ∃ k, u.slot? k = some n := by
  by_cases hbroken : c.phase = .broken n
  · have hown : c.Owns s i n := ((hs.sound i c hc).stands hbroken).1
    rw [State.lastLook?_of_broken hc hbroken] at hlast
    have hlingers : s.lingers n = true := congrArg Look.premature (Option.some.inj hlast)
    obtain ⟨j, d, hd, hdphase⟩ := State.lingers_iff.mp hlingers
    refine ⟨c.key, heffect.slot_kept hown.slot ?_⟩
    intro _ hunused
    have hij : i = j :=
      State.eq_of_handles_eq_one hunused.2.1 hc hd (by rw [hbroken]; rfl) (by rw [hdphase]; rfl)
    subst hij
    obtain rfl : c = d := Option.some.inj (hc.symm.trans hd)
    cases hbroken.symm.trans hdphase
  · rw [State.lastLook?_of_not_broken hc hbroken] at hlast
    obtain ⟨k, hk⟩ := hl.left n hlast
    exact ⟨k, heffect.slot_kept hk fun hlooks => absurd hlooks hbroken⟩

theorem Accounted.step (hl : Accounted looks s) (hs : Coherent h s)
    (hstep : s.advance i succeeds = some t) : Accounted (looks ++ (s.look? i).toList) t := by
  obtain ⟨c, u, q, hc, heffect, rfl⟩ := State.effect_of_advance hstep
  exact {
    answered := fun _ _ _ _ hd => hl.answered_step hs hc heffect hd
    empty := fun _ _ hslot hempty => hl.empty_step hs hc heffect hslot hempty
    left := by
      intro n hlast
      show ∃ k, u.slot? k = some n
      exact hl.left_step hs hc heffect hlast }

theorem Accounted.perform {moves : List (Nat × Bool)} {h' : List (Note K)}
    (hl : Accounted looks s) (hs : Coherent h s) (hmoves : State.perform moves h s = some (h', t)) :
    Accounted (looks ++ State.looks moves s) t := by
  induction moves generalizing h s looks with
  | nil =>
    obtain ⟨-, rfl⟩ := Prod.mk.inj (Option.some.inj hmoves)
    rw [State.looks, List.append_nil]
    exact hl
  | cons move rest ih =>
    obtain ⟨u, hu, hrest⟩ := Option.bind_eq_some_iff.mp hmoves
    have hlater := ih (hl.step hs hu) (hs.step hu) hrest
    rw [State.looks, hu, ← List.append_assoc]
    exact hlater

end Accounts

/-! ### Premature looks -/

section Premature

variable [DecidableEq K] [DecidableEq κ]

/-- Moves to a state in which no call is under way.  An empty slot is in the table just if the last
look at it was premature.  So if no look was, every slot of the table holds a value, and a key for
which no run made one has no slot. -/
theorem empty_slot_iff_premature_look (calls : List (K × κ)) {moves : List (Nat × Bool)}
    {h : List (Note K)} {t : State K κ}
    (hmoves : State.perform moves [] (State.initial calls) = some (h, t))
    (hquiet : t.isQuiet = true) :
    (∀ n, t.value? n = none → ((∃ key, t.slot? key = some n) ↔
      lastLook? (State.looks moves (State.initial calls)) n = some ⟨n, true⟩)) ∧
    ((∀ look ∈ State.looks moves (State.initial calls), look.premature = false) →
      (∀ key n, t.slot? key = some n → ∃ v, t.value? n = some v) ∧
      ∀ key, (∀ i, .made i key ∉ h) → t.slot? key = none) := by
  have hcoherent : Coherent h t := (coherent_initial calls).perform hmoves
  have haccounted : Accounted (State.looks moves (State.initial calls)) t :=
    (accounted_initial calls).perform (coherent_initial calls) hmoves
  refine ⟨fun n hempty => haccounted.empty_iff hquiet hempty, ?_⟩
  intro hnone
  have hvalues : ∀ key n, t.slot? key = some n → ∃ v, t.value? n = some v := by
    intro key n hslot
    cases hvalue : t.value? n with
    | some v => exact ⟨v, rfl⟩
    | none =>
      have hlast := (haccounted.empty_iff hquiet hvalue).mp ⟨key, hslot⟩
      have hmem := (List.mem_filter.mp (List.mem_of_getLast? hlast)).1
      cases hnone _ hmem
  refine ⟨hvalues, ?_⟩
  intro key hmade
  cases hslot : t.slot? key with
  | none => rfl
  | some n =>
    obtain ⟨v, hvalue⟩ := hvalues key n hslot
    obtain ⟨i, -, hi⟩ := hcoherent.origin key v ((State.kept?_of_slot? hslot).trans hvalue)
    exact absurd hi (hmade i)

/-- The second caller waits for the lock while the first one looks.  The first one then leaves, and
the second one fails and finds the slot unused. -/
theorem empty_slot_iff_premature_look_one_after_the_other :
    let moves := List.replicate 7 (0, false) ++ List.replicate 2 (1, false) ++
      List.replicate 3 (0, false) ++ List.replicate 7 (1, false)
    ∃ h t, State.perform moves [] (State.initial [(5, ()), (5, ())]) = some (h, t) ∧
      t.isQuiet = true ∧
      State.looks moves (State.initial [(5, ()), (5, ())]) = [⟨0, false⟩, ⟨0, false⟩] ∧
      (∀ i, .made i 5 ∉ h) ∧ t.slot? 5 = none := by
  intro moves
  have hmoves : State.perform moves [] (State.initial [(5, ()), (5, ())]) =
      some ([.began 0 5, .broke 0 5, .began 1 5, .broke 1 5],
        ⟨[⟨5, (), .returned .failed, some 0⟩, ⟨5, (), .returned .failed, some 1⟩],
          [], [⟨none, none⟩], 2⟩) := by
    decide
  have hlooks : State.looks moves (State.initial [(5, ()), (5, ())]) =
      [⟨0, false⟩, ⟨0, false⟩] := by decide
  have hmade : ∀ i, .made i 5 ∉ [Note.began 0 5, .broke 0 5, .began 1 5, .broke 1 5] := by simp
  obtain ⟨-, hnone⟩ := empty_slot_iff_premature_look _ hmoves rfl
  have hgone := (hnone (by rw [hlooks]; decide)).2 5 hmade
  exact ⟨_, _, hmoves, rfl, hlooks, hmade, hgone⟩

/-- The second caller looks after the first one has given the lock back and before it has given up
its handle.  Both have failed, and the slot stays. -/
theorem slot_left_empty :
    let moves := List.replicate 7 (0, false) ++ List.replicate 2 (1, false) ++
      List.replicate 2 (0, false) ++ List.replicate 7 (1, false) ++ [(0, false)]
    ∃ h t, State.perform moves [] (State.initial [(5, ()), (5, ())]) = some (h, t) ∧
      State.Reachable [(5, ()), (5, ())] t ∧ t.isQuiet = true ∧
      h = [.began 0 5, .broke 0 5, .began 1 5, .broke 1 5] ∧
      State.looks moves (State.initial [(5, ()), (5, ())]) = [⟨0, false⟩, ⟨0, true⟩] ∧
      t.slot? 5 = some 0 ∧ t.value? 0 = none := by
  intro moves
  have hmoves : State.perform moves [] (State.initial [(5, ()), (5, ())]) =
      some ([.began 0 5, .broke 0 5, .began 1 5, .broke 1 5],
        ⟨[⟨5, (), .returned .failed, some 0⟩, ⟨5, (), .returned .failed, some 1⟩],
          [(5, 0)], [⟨none, none⟩], 2⟩) := by
    decide
  exact ⟨_, _, hmoves, State.Reachable.initial.perform hmoves, rfl, rfl, by decide, rfl, rfl⟩

end Premature

end RecordMapping.Interleaving
