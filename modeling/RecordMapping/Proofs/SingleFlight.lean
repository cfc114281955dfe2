import RecordMapping.Proofs.CallerSteps

/-!
# RecordMapping.Proofs.SingleFlight — one run at a time, and none after a success

Steps of callers in any order leave a history of notes: which runs began, which made a value and
which did not.  In every state that such steps lead to, a caller stands where its slot, its lock and
the history say it may stand (`Sound`): one that may still make a value has the slot that its key has
in the table, so two callers of one key have the same lock.  A slot that was taken out of the table is
therefore held by nobody who could still run.
-/

namespace RecordMapping.Interleaving

variable {K κ : Type}

/-- What a step shows of the run of a caller. -/
inductive Note (K : Type)
  | began (caller : Nat) (key : K)
  | made (caller : Nat) (key : K)
  | broke (caller : Nat) (key : K)
  deriving DecidableEq, Repr

def Note.isBegan : Note K → Bool
  | began .. => true
  | _ => false

/-- What a caller shows by coming to a phase. -/
def Phase.shows : Phase κ → Nat → K → List (Note K)
  | running _, i, key => [.began i key]
  | succeeded _, i, key => [.made i key]
  | broken _, i, key => [.broke i key]
  | _, _, _ => []

namespace Phase

variable {p : Phase κ} {i j : Nat} {k key : K}

theorem began_of_shows (h : .began j k ∈ p.shows i key) : j = i ∧ k = key ∧ ∃ n, p = running n := by
  cases p <;> simp_all [shows]

theorem made_of_shows (h : .made j k ∈ p.shows i key) : j = i ∧ k = key ∧ ∃ n, p = succeeded n := by
  cases p <;> simp_all [shows]

theorem pairwise_shows (r : Note K → Note K → Prop) : (p.shows i key).Pairwise r := by
  cases p <;> simp [shows]

end Phase

namespace State

/-- What caller `i` has shown by its last step. -/
def notes (s : State K κ) (i : Nat) : List (Note K) :=
  match s.callers[i]? with
  | none => []
  | some c => c.phase.shows i c.key

theorem notes_of_caller {s : State K κ} {i : Nat} {c : Caller K κ} (hc : s.callers[i]? = some c) :
    s.notes i = c.phase.shows i c.key := by
  rw [notes, hc]

section Perform

variable [DecidableEq K] [DecidableEq κ]

/-- Moves one after another, each by a caller, with what they show; none if a caller cannot move. -/
def perform : List (Nat × Bool) → List (Note K) → State K κ → Option (List (Note K) × State K κ)
  | [], h, s => some (h, s)
  | (i, succeeds) :: rest, h, s =>
    (s.advance i succeeds).bind fun t => perform rest (h ++ t.notes i) t

theorem perform_append (moves more : List (Nat × Bool)) (h : List (Note K)) (s : State K κ) :
    perform (moves ++ more) h s = (perform moves h s).bind fun r => perform more r.1 r.2 := by
  induction moves generalizing h s with
  | nil => rfl
  | cons move rest ih =>
    rw [List.cons_append, perform, perform]
    cases s.advance move.1 move.2 with
    | none => rfl
    | some t => exact ih _ t

theorem Reachable.perform {calls : List (K × κ)} {s t : State K κ} (hs : Reachable calls s)
    {moves : List (Nat × Bool)} {h h' : List (Note K)}
    (hmoves : State.perform moves h s = some (h', t)) : Reachable calls t := by
  induction moves generalizing s h with
  | nil =>
    obtain ⟨-, rfl⟩ := Prod.mk.inj (Option.some.inj hmoves)
    exact hs
  | cons move rest ih =>
    obtain ⟨u, hu, hrest⟩ := Option.bind_eq_some_iff.mp hmoves
    exact ih (.step move.1 move.2 hs hu) hrest

/-- The states that steps lead to are those that lists of moves lead to. -/
theorem reachable_iff_perform {calls : List (K × κ)} {s : State K κ} :
    Reachable calls s ↔ ∃ moves h, perform moves [] (initial calls) = some (h, s) := by
  constructor
  · intro hs
    induction hs with
    | initial => exact ⟨[], [], rfl⟩
    | @step s t i succeeds _ hstep ih =>
      obtain ⟨moves, h, hmoves⟩ := ih
      refine ⟨moves ++ [(i, succeeds)], h ++ t.notes i, ?_⟩
      rw [perform_append, hmoves, Option.bind_some, State.perform, hstep]
      rfl
  · rintro ⟨moves, h, hmoves⟩
    exact Reachable.initial.perform hmoves

end Perform

end State

/-! ### What is true of a caller in each phase -/

section Sound

variable [DecidableEq K]

/-- The slot is the one of the caller's key, and its lock is the caller's. -/
structure Caller.Owns (c : Caller K κ) (s : State K κ) (i n : Nat) : Prop where
  slot : s.slot? c.key = some n
  lock : s.holder? n = some i

/-- A value is the one that is kept under the key; a failure is that of the caller's own run. -/
def Caller.Supports (c : Caller K κ) (s : State K κ) (h : List (Note K)) (i : Nat) :
    Answer κ → Prop
  | .value v => s.kept? c.key = some v
  | .typeMismatch => True
  | .failed => .began i c.key ∈ h ∧ .broke i c.key ∈ h

/-- What is true of a caller in each phase. -/
def Caller.Stands (c : Caller K κ) (s : State K κ) (h : List (Note K)) (i : Nat) : Phase κ → Prop
  | .start | .missed => c.run = none
  | .found n | .waiting n => s.slot? c.key = some n ∧ c.run = none
  | .locked n => c.Owns s i n ∧ c.run = none
  | .ready n => c.Owns s i n ∧ s.value? n = none ∧ c.run = none
  | .running n => c.Owns s i n ∧ s.value? n = none ∧ c.run.isSome = true ∧ .began i c.key ∈ h
  | .succeeded n => c.Owns s i n ∧ s.value? n = none ∧ c.run.isSome = true ∧ .made i c.key ∈ h
  | .broken n => c.Owns s i n ∧ .began i c.key ∈ h ∧ .broke i c.key ∈ h
  | .releasing n a => s.holder? n = some i ∧ c.Supports s h i a
  | .leaving _ a | .returned a => c.Supports s h i a

def Caller.Sound (c : Caller K κ) (s : State K κ) (h : List (Note K)) (i : Nat) : Prop :=
  c.Stands s h i c.phase

variable {s t : State K κ} {h h' : List (Note K)} {i j n : Nat} {c : Caller K κ}

theorem Caller.Supports.frame (hframe : State.Frame i s t) (hmono : ∀ x ∈ h, x ∈ h') {a : Answer κ}
    (ha : c.Supports s h j a) : c.Supports t h' j a := by
  cases a with
  | value v => exact hframe.kept _ _ ha
  | typeMismatch => trivial
  | failed => exact ⟨hmono _ ha.1, hmono _ ha.2⟩

theorem Caller.Sound.stands (hsound : c.Sound s h i) {p : Phase κ} (hphase : c.phase = p) :
    c.Stands s h i p := hphase ▸ hsound

/-- A step of another caller leaves a caller as sound as it was. -/
theorem Caller.Sound.frame (hframe : State.Frame i s t) (hmono : ∀ x ∈ h, x ∈ h') (hj : j ≠ i)
    (hc : s.callers[j]? = some c) (hsound : c.Sound s h j) : c.Sound t h' j := by
  have hslot (n : Nat) (hactive : c.phase.active? = some n) (hn : s.slot? c.key = some n) :
      t.slot? c.key = some n := hframe.slot j c n hj hc hactive hn
  have howns (n : Nat) (hactive : c.phase.active? = some n) (hn : c.Owns s j n) : c.Owns t j n :=
    ⟨hslot n hactive hn.slot, hframe.holder j n hj hn.lock⟩
  unfold Caller.Sound at hsound ⊢
  generalize c.phase = p at hsound hslot howns
  cases p with
  | start | missed => exact hsound
  | found n | waiting n => exact ⟨hslot n rfl hsound.1, hsound.2⟩
  | locked n => exact ⟨howns n rfl hsound.1, hsound.2⟩
  | ready n =>
    obtain ⟨hown, hempty, hrun⟩ := hsound
    exact ⟨howns n rfl hown, hframe.empty j n hj hown.lock hempty, hrun⟩
  | running n | succeeded n =>
    obtain ⟨hown, hempty, hrun, hnote⟩ := hsound
    exact ⟨howns n rfl hown, hframe.empty j n hj hown.lock hempty, hrun, hmono _ hnote⟩
  | broken n =>
    obtain ⟨hown, hbegan, hbroke⟩ := hsound
    exact ⟨howns n rfl hown, hmono _ hbegan, hmono _ hbroke⟩
  | releasing n a => exact ⟨hframe.holder j n hj hsound.1, hsound.2.frame hframe hmono⟩
  | leaving n a | returned a => exact Caller.Supports.frame hframe hmono hsound

end Sound

/-! ### What is true of the table -/

section Table

variable [DecidableEq K] {s u : State K κ} {i : Nat}

/-- The table leads to slots that exist, each for one key. -/
structure State.Tidy (s : State K κ) : Prop where
  exists_slot : ∀ k n, s.slot? k = some n → n < s.slots.length
  key : ∀ k k' n, s.slot? k = some n → s.slot? k' = some n → k = k'

theorem State.Tidy.setPhase (h : s.Tidy) (i : Nat) (q : Phase κ) : (s.setPhase i q).Tidy :=
  ⟨h.exists_slot, h.key⟩

theorem State.Tidy.setSlot (h : s.Tidy) (n : Nat) (f : Slot κ → Slot κ) : (s.setSlot n f).Tidy where
  exists_slot k m hm := by
    have hlength : (s.setSlot n f).slots.length = s.slots.length := List.length_modify _ _ _
    rw [hlength]
    exact h.exists_slot k m hm
  key := h.key

theorem State.Tidy.addSlot (h : s.Tidy) {key : K} (hkey : s.slot? key = none) :
    (s.addSlot key).Tidy where
  exists_slot k m hm := by
    have hlength : (s.addSlot key).slots.length = s.slots.length + 1 := by simp [State.addSlot]
    rw [slot?_addSlot hkey] at hm
    split at hm
    · obtain rfl := Option.some.inj hm
      omega
    · have hlt := h.exists_slot k m hm
      omega
  key k k' m hm hm' := by
    rw [slot?_addSlot hkey] at hm hm'
    split at hm
    · rename_i hk
      obtain rfl := Option.some.inj hm
      split at hm'
      · rename_i hk'
        rw [hk, hk']
      · exact absurd (h.exists_slot k' _ hm') (Nat.lt_irrefl _)
    · split at hm'
      · obtain rfl := Option.some.inj hm'
        exact absurd (h.exists_slot k _ hm) (Nat.lt_irrefl _)
      · exact h.key k k' m hm hm'

theorem State.Tidy.discardUnused (h : s.Tidy) (key : K) (n : Nat) : (s.discardUnused key n).Tidy := by
  by_cases hunused : s.Unused key n
  · have hold (k : K) (m : Nat) (hm : (s.discardUnused key n).slot? k = some m) :
        s.slot? k = some m := by
      rw [slot?_discardUnused hunused] at hm
      split at hm
      · cases hm
      · exact hm
    constructor
    · intro k m hm
      rw [slots_discardUnused]
      exact h.exists_slot k m (hold k m hm)
    · intro k k' m hm hm'
      exact h.key k k' m (hold k m hm) (hold k' m hm')
  · rw [discardUnused_of_used hunused]
    exact h

end Table

/-! ### One step -/

section Step

variable [DecidableEq K] [DecidableEq κ] {s u : State K κ} {h : List (Note K)} {i : Nat}
  {c : Caller K κ} {q : Phase κ} {succeeds : Bool}

open State (Effect Frame)

theorem State.Effect.tidy (heffect : Effect s i c succeeds u q) (htidy : s.Tidy) : u.Tidy := by
  cases heffect with
  | create _ hslot => exact htidy.addSlot hslot
  | acquire | publish | release => exact htidy.setSlot _ _
  | discard => exact htidy.discardUnused _ _
  | begin => exact ⟨htidy.exists_slot, htidy.key⟩
  | _ => exact htidy

/-- What a sound caller does leaves to the others what they rely on. -/
theorem State.Effect.frame (heffect : Effect s i c succeeds u q) (hc : s.callers[i]? = some c)
    (hsound : c.Sound s h i) : Frame i s u := by
  cases heffect with
  | create _ hslot => exact frame_addSlot hslot i
  | acquire _ hfree =>
    refine frame_setHolder ?_ _
    intro j _ hj
    rw [hfree] at hj
    cases hj
  | begin => exact frame_startRun i s
  | publish hphase =>
    obtain ⟨hown, hempty, -⟩ := hsound.stands hphase
    exact frame_setValue hown.lock hempty _
  | discard hphase =>
    refine frame_discardUnused hc ?_
    rw [hphase]
    rfl
  | @release n a hphase =>
    have hlock : s.holder? n = some i := (hsound.stands hphase).1
    refine frame_setHolder ?_ _
    intro j hj hholder
    exact hj (Option.some.inj (hholder.symm.trans hlock))
  | _ => exact .refl i s

theorem Caller.supports_answer {v : Made κ} (hkept : s.kept? c.key = some v) :
    c.Supports s h i (State.answer c v) := by
  unfold State.answer
  split
  · exact hkept
  · trivial

/-- A sound caller is sound after its step. -/
theorem State.Effect.sound (heffect : Effect s i c succeeds u q) (hc : s.callers[i]? = some c)
    (htidy : s.Tidy) (hsound : c.Sound s h i) :
    ∃ d, (u.setPhase i q).callers[i]? = some d ∧ d.key = c.key ∧ d.phase = q ∧
      d.Sound (u.setPhase i q) (h ++ q.shows i c.key) i := by
  have hframe : Frame i s u := heffect.frame hc hsound
  cases heffect with
  | @find n hphase hslot =>
    refine ⟨_, callers_setPhase_self hc _, rfl, rfl, hslot, ?_⟩
    rcases hphase with hphase | hphase
    · exact hsound.stands hphase
    · exact hsound.stands hphase
  | miss hphase hslot => exact ⟨_, callers_setPhase_self hc _, rfl, rfl, hsound.stands hphase⟩
  | create hphase hslot =>
    have hnew : (s.addSlot c.key).slot? c.key = some s.slots.length := by
      rw [slot?_addSlot hslot, if_pos rfl]
    exact ⟨_, callers_setPhase_self hc _, rfl, rfl, hnew, hsound.stands hphase⟩
  | look hphase hvalue =>
    obtain ⟨hslot, -⟩ := hsound.stands hphase
    have hkept := (kept?_of_slot? hslot).trans hvalue
    exact ⟨_, callers_setPhase_self hc _, rfl, rfl, Caller.supports_answer hkept⟩
  | queue hphase hvalue => exact ⟨_, callers_setPhase_self hc _, rfl, rfl, hsound.stands hphase⟩
  | acquire hphase hfree =>
    obtain ⟨hslot, hrun⟩ := hsound.stands hphase
    have hlock := holder?_setHolder_self (htidy.exists_slot _ _ hslot) (some i)
    exact ⟨_, callers_setPhase_self hc _, rfl, rfl, ⟨hslot, hlock⟩, hrun⟩
  | lookAgain hphase hvalue =>
    obtain ⟨hown, -⟩ := hsound.stands hphase
    have hkept := (kept?_of_slot? hown.slot).trans hvalue
    exact ⟨_, callers_setPhase_self hc _, rfl, rfl, hown.lock, Caller.supports_answer hkept⟩
  | prepare hphase hvalue =>
    obtain ⟨hown, hrun⟩ := hsound.stands hphase
    exact ⟨_, callers_setPhase_self hc _, rfl, rfl, ⟨hown.slot, hown.lock⟩, hvalue, hrun⟩
  | begin hphase =>
    obtain ⟨hown, hempty, -⟩ := hsound.stands hphase
    exact ⟨_, callers_setPhase_self (callers_startRun_self hc) _, rfl, rfl,
      ⟨hown.slot, hown.lock⟩, hempty, rfl, List.mem_append_right _ List.mem_cons_self⟩
  | succeed hphase hends =>
    obtain ⟨hown, hempty, hrun, -⟩ := hsound.stands hphase
    exact ⟨_, callers_setPhase_self hc _, rfl, rfl, ⟨hown.slot, hown.lock⟩, hempty, hrun,
      List.mem_append_right _ List.mem_cons_self⟩
  | fail hphase hends =>
    obtain ⟨hown, -, -, hbegan⟩ := hsound.stands hphase
    exact ⟨_, callers_setPhase_self hc _, rfl, rfl, ⟨hown.slot, hown.lock⟩,
      List.mem_append_left _ hbegan, List.mem_append_right _ List.mem_cons_self⟩
  | @publish n v hphase hvalue =>
    obtain ⟨hown, -⟩ := hsound.stands hphase
    have hkept := kept?_setValue_self hown.slot (htidy.exists_slot _ _ hown.slot) v
    exact ⟨_, callers_setPhase_self hc _, rfl, rfl, (holder?_setValue _).trans hown.lock,
      Caller.supports_answer hkept⟩
  | @discard n hphase =>
    obtain ⟨hown, hbegan, hbroke⟩ := hsound.stands hphase
    have hcallers : (s.discardUnused c.key n).callers[i]? = some c := by
      rw [callers_discardUnused, hc]
    exact ⟨_, callers_setPhase_self hcallers _, rfl, rfl, holder?_discardUnused.trans hown.lock,
      List.mem_append_left _ hbegan, List.mem_append_left _ hbroke⟩
  | release hphase =>
    exact ⟨_, callers_setPhase_self hc _, rfl, rfl,
      (hsound.stands hphase).2.frame (hframe.setPhase _) fun _ => List.mem_append_left _⟩
  | leave hphase =>
    have hsupports : c.Supports s h i _ := hsound.stands hphase
    exact ⟨_, callers_setPhase_self hc _, rfl, rfl,
      hsupports.frame (hframe.setPhase _) fun _ => List.mem_append_left _⟩

/-- Only the step that begins a run changes what is known of the runs. -/
theorem State.Effect.begins (heffect : Effect s i c succeeds u q) :
    (∃ n, c.phase = .ready n ∧ u = s.startRun i ∧ q = .running n) ∨
      (u.callers = s.callers ∧ u.compilations = s.compilations ∧ ∀ n, q ≠ .running n) := by
  cases heffect with
  | begin hphase => exact Or.inl ⟨_, hphase, rfl, rfl⟩
  | discard => exact Or.inr ⟨callers_discardUnused, compilations_discardUnused, nofun⟩
  | _ => exact Or.inr ⟨rfl, rfl, nofun⟩

/-- The mover after its step. -/
theorem State.Effect.caller_self (heffect : Effect s i c succeeds u q)
    (hc : s.callers[i]? = some c) :
    ∃ d, (u.setPhase i q).callers[i]? = some d ∧ d.key = c.key ∧ d.wanted = c.wanted ∧
      d.phase = q ∧ ((∃ n, q = .running n) → d.run = some s.compilations) ∧
      ((∀ n, q ≠ .running n) → d.run = c.run) := by
  rcases heffect.begins with ⟨n, -, rfl, rfl⟩ | ⟨hcallers, -, hrunning⟩
  · have hu := callers_startRun_self hc
    refine ⟨_, callers_setPhase_self hu _, rfl, rfl, rfl, fun _ => rfl, ?_⟩
    intro hnone
    exact absurd rfl (hnone n)
  · have hu : u.callers[i]? = some c := by rw [hcallers, hc]
    refine ⟨_, callers_setPhase_self hu q, rfl, rfl, rfl, ?_, fun _ => rfl⟩
    rintro ⟨n, hn⟩
    exact absurd hn (hrunning n)

/-- A step leaves the other callers as they are. -/
theorem State.Effect.caller_of_ne (heffect : Effect s i c succeeds u q) {j : Nat} (hj : j ≠ i) :
    (u.setPhase i q).callers[j]? = s.callers[j]? := by
  rw [callers_setPhase_of_ne hj]
  rcases heffect.begins with ⟨n, -, rfl, -⟩ | ⟨hcallers, -, -⟩
  · exact callers_startRun_of_ne hj
  · rw [hcallers]

/-- Only the step that publishes a value changes what is kept. -/
theorem State.Effect.kept (heffect : Effect s i c succeeds u q) (htidy : s.Tidy)
    (hsound : c.Sound s h i) {k : K} {v : Made κ} (hkept : u.kept? k = some v) :
    s.kept? k = some v ∨
      k = c.key ∧ c.wanted = v.type ∧ c.run = some v.serial ∧ .made i c.key ∈ h := by
  cases heffect with
  | create _ hslot => exact Or.inl ((kept?_addSlot hslot).symm.trans hkept)
  | acquire | release => exact Or.inl ((kept?_setHolder _).symm.trans hkept)
  | discard => exact Or.inl (kept?_discardUnused.symm.trans hkept)
  | @publish n w hphase hvalue =>
    obtain ⟨hown, hempty, hrun, hmade⟩ := hsound.stands hphase
    obtain ⟨m, hm, hv⟩ := kept?_eq_some.mp hkept
    by_cases hmn : m = n
    · subst hmn
      rw [value?_setValue_self (htidy.exists_slot _ _ hown.slot)] at hv
      obtain ⟨r, hr⟩ := Option.isSome_iff_exists.mp hrun
      rw [hempty, hr] at hvalue
      obtain rfl : ⟨r, c.wanted⟩ = v := hvalue.symm.trans (Option.some.inj hv)
      exact Or.inr ⟨htidy.key _ _ _ hm hown.slot, rfl, hr, hmade⟩
    · rw [value?_setSlot_of_ne hmn] at hv
      exact Or.inl (kept?_eq_some.mpr ⟨m, hm, hv⟩)
  | _ => exact Or.inl hkept

/-- A caller that made a value and moves has published it. -/
theorem State.Effect.publishes (heffect : Effect s i c succeeds u q) (htidy : s.Tidy)
    (hsound : c.Sound s h i) {n : Nat} (hphase : c.phase = .succeeded n) :
    ∃ v, u.kept? c.key = some v := by
  cases heffect with
  | publish hphase' hvalue =>
    have hslot := (hsound.stands hphase').1.slot
    exact ⟨_, kept?_setValue_self hslot (htidy.exists_slot _ _ hslot) _⟩
  | find hphase' => rcases hphase' with hphase' | hphase' <;> cases hphase.symm.trans hphase'
  | miss hphase' | create hphase' | look hphase' | queue hphase' | acquire hphase'
  | lookAgain hphase' | prepare hphase' | begin hphase' | succeed hphase' | fail hphase'
  | discard hphase' | release hphase' | leave hphase' => cases hphase.symm.trans hphase'

end Step

/-! ### Runs and their numbers -/

section Runs

variable {s u : State K κ} {i j : Nat} {c d : Caller K κ}

/-- Caller `i` asked for `key`, and `v` is what its run made. -/
def State.Maker (s : State K κ) (i : Nat) (key : K) (v : Made κ) : Prop :=
  ∃ c, s.callers[i]? = some c ∧ c.key = key ∧ c.wanted = v.type ∧ c.run = some v.serial

/-- No two callers have a run in common. -/
structure State.Numbered (s : State K κ) : Prop where
  below : ∀ (i : Nat) (c : Caller K κ) (r : Nat), s.callers[i]? = some c → c.run = some r →
    r < s.compilations
  apart : ∀ (i j : Nat) (c d : Caller K κ) (r : Nat), s.callers[i]? = some c →
    s.callers[j]? = some d → c.run = some r → d.run = some r → i = j

theorem State.Numbered.setPhase (hs : s.Numbered) (i : Nat) (q : Phase κ) :
    (s.setPhase i q).Numbered := by
  have hbefore (j : Nat) (d : Caller K κ) (hd : (s.setPhase i q).callers[j]? = some d) :
      ∃ c, s.callers[j]? = some c ∧ d.run = c.run := by
    obtain ⟨c, hc, rfl⟩ : ∃ c, s.callers[j]? = some c ∧
        (if i = j then { c with phase := q } else c) = d := by
      simpa [State.setPhase, List.getElem?_modify] using hd
    exact ⟨c, hc, by split <;> rfl⟩
  constructor
  · intro j d r hd hr
    obtain ⟨c, hc, hrun⟩ := hbefore j d hd
    exact hs.below j c r hc (hrun.symm.trans hr)
  · intro j k d e r hd he hr hr'
    obtain ⟨c, hc, hrun⟩ := hbefore j d hd
    obtain ⟨c', hc', hrun'⟩ := hbefore k e he
    exact hs.apart j k c c' r hc hc' (hrun.symm.trans hr) (hrun'.symm.trans hr')

theorem State.Numbered.startRun (hs : s.Numbered) (i : Nat) : (s.startRun i).Numbered := by
  have hbefore (j : Nat) (d : Caller K κ) (r : Nat) (hd : (s.startRun i).callers[j]? = some d)
      (hr : d.run = some r) :
      j = i ∧ r = s.compilations ∨ ∃ c, s.callers[j]? = some c ∧ c.run = some r := by
    by_cases hj : j = i
    · subst hj
      obtain ⟨c, hc, rfl⟩ : ∃ c, s.callers[j]? = some c ∧ { c with run := some s.compilations } = d := by
        simpa [State.startRun] using hd
      exact Or.inl ⟨rfl, (Option.some.inj hr).symm⟩
    · exact Or.inr ⟨d, (State.callers_startRun_of_ne hj).symm.trans hd, hr⟩
  have hnone (j : Nat) (c : Caller K κ) (hc : s.callers[j]? = some c) :
      c.run ≠ some s.compilations := fun hr => Nat.lt_irrefl _ (hs.below j c _ hc hr)
  constructor
  · intro j d r hd hr
    rcases hbefore j d r hd hr with ⟨-, rfl⟩ | ⟨c, hc, hrun⟩
    · exact Nat.lt_succ_self _
    · exact Nat.lt_succ_of_lt (hs.below j c r hc hrun)
  · intro j k d e r hd he hr hr'
    rcases hbefore j d r hd hr with ⟨rfl, rfl⟩ | ⟨c, hc, hrun⟩
    · rcases hbefore k e _ he hr' with ⟨rfl, -⟩ | ⟨c', hc', hrun'⟩
      · rfl
      · exact absurd hrun' (hnone k c' hc')
    · rcases hbefore k e r he hr' with ⟨rfl, rfl⟩ | ⟨c', hc', hrun'⟩
      · exact absurd hrun (hnone j c hc)
      · exact hs.apart j k c c' r hc hc' hrun hrun'

variable [DecidableEq K] [DecidableEq κ] {h : List (Note K)} {q : Phase κ} {succeeds : Bool}

theorem State.Effect.numbered (heffect : State.Effect s i c succeeds u q) (hs : s.Numbered) :
    (u.setPhase i q).Numbered := by
  refine State.Numbered.setPhase ?_ i q
  rcases heffect.begins with ⟨n, -, rfl, -⟩ | ⟨hcallers, hcompilations, -⟩
  · exact hs.startRun i
  · constructor
    · rw [hcallers, hcompilations]
      exact hs.below
    · rw [hcallers]
      exact hs.apart

/-- A caller that has made a value begins no other run. -/
theorem State.Effect.maker (heffect : State.Effect s i c succeeds u q)
    (hc : s.callers[i]? = some c) (hsound : c.Sound s h i) {k : K} {v : Made κ}
    (hmaker : s.Maker j k v) : (u.setPhase i q).Maker j k v := by
  obtain ⟨d, hd, hkey, hwanted, hrun⟩ := hmaker
  by_cases hj : j = i
  · subst hj
    obtain rfl : c = d := Option.some.inj (hc.symm.trans hd)
    rcases heffect.begins with ⟨n, hphase, -, -⟩ | ⟨hcallers, -, -⟩
    · cases hrun.symm.trans (hsound.stands hphase).2.2
    · have hu : u.callers[j]? = some c := by rw [hcallers, hc]
      exact ⟨_, State.callers_setPhase_self hu q, hkey, hwanted, hrun⟩
  · have hframe := (heffect.frame hc hsound).setPhase q
    exact ⟨d, (hframe.callers j hj).trans hd, hkey, hwanted, hrun⟩

end Runs

/-! ### What is true after any steps -/

section History

variable [DecidableEq K]

/-- A state and the history that led to it. -/
structure Coherent (h : List (Note K)) (s : State K κ) : Prop where
  tidy : s.Tidy
  sound : ∀ (i : Nat) (c : Caller K κ), s.callers[i]? = some c → c.Sound s h i
  /-- A value that was made is kept, or its maker is about to publish it. -/
  settled : ∀ i k, .made i k ∈ h → (∃ v, s.kept? k = some v) ∨
    ∃ c n, s.callers[i]? = some c ∧ c.key = k ∧ c.phase = .succeeded n
  origin : ∀ k v, s.kept? k = some v → ∃ i, s.Maker i k v ∧ .made i k ∈ h
  numbered : s.Numbered
  counted : s.compilations = h.countP Note.isBegan
  ordered : h.Pairwise fun a b => ∀ i j k, a = .made i k → b ≠ .began j k

theorem coherent_initial (calls : List (K × κ)) : Coherent [] (State.initial calls) := by
  have hstart (i : Nat) (c : Caller K κ) (hc : (State.initial calls).callers[i]? = some c) :
      c.phase = .start ∧ c.run = none := by
    obtain ⟨call, -, rfl⟩ : ∃ call, calls[i]? = some call ∧
        (⟨call.1, call.2, .start, none⟩ : Caller K κ) = c := by
      simpa [State.initial] using hc
    exact ⟨rfl, rfl⟩
  exact {
    tidy := ⟨nofun, nofun⟩
    sound := by
      intro i c hc
      obtain ⟨hphase, hrun⟩ := hstart i c hc
      unfold Caller.Sound
      rw [hphase]
      exact hrun
    settled := nofun
    origin := nofun
    numbered := by
      constructor
      · intro i c r hc hr
        cases (hstart i c hc).2.symm.trans hr
      · intro i j c d r hc hd hr
        cases (hstart i c hc).2.symm.trans hr
    counted := rfl
    ordered := .nil }

theorem Caller.Owns.eq {s : State K κ} {c d : Caller K κ} {i j n m : Nat} (hc : c.Owns s i n)
    (hd : d.Owns s j m) (hkey : c.key = d.key) : i = j := by
  have hslot : s.slot? c.key = some m := by rw [hkey, hd.slot]
  obtain rfl : n = m := Option.some.inj (hc.slot.symm.trans hslot)
  exact Option.some.inj (hc.lock.symm.trans hd.lock)

variable {s t u : State K κ} {h : List (Note K)} {i : Nat} {c : Caller K κ} {q : Phase κ}
  {succeeds : Bool}

/-- A caller about to run asks for a key for which no value was made: a value would be kept in its
slot, and a caller about to publish one would hold its lock. -/
theorem Coherent.not_made (hs : Coherent h s) (hc : s.callers[i]? = some c) {n : Nat}
    (hphase : c.phase = .ready n) (j : Nat) : .made j c.key ∉ h := by
  intro hmade
  obtain ⟨hown, hempty, -⟩ := (hs.sound i c hc).stands hphase
  rcases hs.settled j c.key hmade with ⟨v, hv⟩ | ⟨d, m, hd, hkey, hphase'⟩
  · rw [State.kept?_of_slot? hown.slot, hempty] at hv
    cases hv
  · have hown' := ((hs.sound j d hd).stands hphase').1
    obtain rfl : i = j := hown.eq hown' hkey.symm
    obtain rfl : c = d := Option.some.inj (hc.symm.trans hd)
    cases hphase.symm.trans hphase'

variable [DecidableEq κ]

open State (Effect)

theorem Coherent.settled_step (hs : Coherent h s) (hc : s.callers[i]? = some c)
    (heffect : Effect s i c succeeds u q) {j : Nat} {k : K} (hmade : .made j k ∈ h ++ q.shows i c.key) :
    (∃ v, (u.setPhase i q).kept? k = some v) ∨
      ∃ d n, (u.setPhase i q).callers[j]? = some d ∧ d.key = k ∧ d.phase = .succeeded n := by
  have hsound := hs.sound i c hc
  have hframe := (heffect.frame hc hsound).setPhase q
  rcases List.mem_append.mp hmade with hold | hnew
  · rcases hs.settled j k hold with ⟨v, hv⟩ | ⟨d, n, hd, rfl, hphase⟩
    · exact Or.inl ⟨v, hframe.kept k v hv⟩
    · by_cases hj : j = i
      · subst hj
        obtain rfl : c = d := Option.some.inj (hc.symm.trans hd)
        exact Or.inl (heffect.publishes hs.tidy hsound hphase)
      · exact Or.inr ⟨d, n, (hframe.callers j hj).trans hd, rfl, hphase⟩
  · obtain ⟨rfl, rfl, n, rfl⟩ := Phase.made_of_shows hnew
    obtain ⟨d, hd, hkey, hphase, -⟩ := heffect.sound hc hs.tidy hsound
    exact Or.inr ⟨d, n, hd, hkey, hphase⟩

theorem Coherent.origin_step (hs : Coherent h s) (hc : s.callers[i]? = some c)
    (heffect : Effect s i c succeeds u q) {k : K} {v : Made κ}
    (hkept : (u.setPhase i q).kept? k = some v) :
    ∃ j, (u.setPhase i q).Maker j k v ∧ .made j k ∈ h ++ q.shows i c.key := by
  have hsound := hs.sound i c hc
  rcases heffect.kept hs.tidy hsound hkept with hold | ⟨rfl, hwanted, hrun, hmade⟩
  · obtain ⟨j, hmaker, hmade⟩ := hs.origin k v hold
    exact ⟨j, heffect.maker hc hsound hmaker, List.mem_append_left _ hmade⟩
  · exact ⟨i, heffect.maker hc hsound ⟨c, hc, rfl, hwanted, hrun⟩, List.mem_append_left _ hmade⟩

theorem Coherent.counted_step (hs : Coherent h s) (heffect : Effect s i c succeeds u q) :
    (u.setPhase i q).compilations = (h ++ q.shows i c.key).countP Note.isBegan := by
  rw [List.countP_append, ← hs.counted]
  rcases heffect.begins with ⟨n, -, rfl, rfl⟩ | ⟨-, hcompilations, hrunning⟩
  · rfl
  · have hnone : (q.shows i c.key).countP Note.isBegan = 0 := by
      cases q with
      | running n => exact absurd rfl (hrunning n)
      | _ => rfl
    rw [hnone]
    exact hcompilations

theorem Coherent.ordered_step (hs : Coherent h s) (hc : s.callers[i]? = some c)
    (heffect : Effect s i c succeeds u q) :
    (h ++ q.shows i c.key).Pairwise fun a b => ∀ i j k, a = .made i k → b ≠ .began j k := by
  refine List.pairwise_append.mpr ⟨hs.ordered, Phase.pairwise_shows _, ?_⟩
  rintro _ hmade _ hbegan j k key rfl rfl
  obtain ⟨-, rfl, n, rfl⟩ := Phase.began_of_shows hbegan
  rcases heffect.begins with ⟨m, hphase, -, -⟩ | ⟨-, -, hrunning⟩
  · exact hs.not_made hc hphase j hmade
  · exact hrunning n rfl

/-- A step leads from a coherent state to one, the history longer by what the step shows. -/
theorem Coherent.step (hs : Coherent h s) (hstep : s.advance i succeeds = some t) :
    Coherent (h ++ t.notes i) t := by
  obtain ⟨c, u, q, hc, heffect, rfl⟩ := State.effect_of_advance hstep
  have hsound := hs.sound i c hc
  obtain ⟨d, hd, hkey, hphase, hdsound⟩ := heffect.sound hc hs.tidy hsound
  rw [State.notes_of_caller hd, hphase, hkey]
  exact {
    tidy := (heffect.tidy hs.tidy).setPhase i q
    sound := by
      intro j e he
      by_cases hj : j = i
      · subst hj
        obtain rfl : d = e := Option.some.inj (hd.symm.trans he)
        exact hdsound
      · have hframe := (heffect.frame hc hsound).setPhase q
        have he' : s.callers[j]? = some e := (hframe.callers j hj).symm.trans he
        exact (hs.sound j e he').frame hframe (fun _ => List.mem_append_left _) hj he'
    settled := fun _ _ => hs.settled_step hc heffect
    origin := fun _ _ => hs.origin_step hc heffect
    numbered := heffect.numbered hs.numbered
    counted := hs.counted_step heffect
    ordered := hs.ordered_step hc heffect }

/-- Any moves lead from a coherent state to one. -/
theorem Coherent.perform {moves : List (Nat × Bool)} {h' : List (Note K)} (hs : Coherent h s)
    (hmoves : State.perform moves h s = some (h', t)) : Coherent h' t := by
  induction moves generalizing h s with
  | nil =>
    obtain ⟨rfl, rfl⟩ := Prod.mk.inj (Option.some.inj hmoves)
    exact hs
  | cons move rest ih =>
    obtain ⟨u, hu, hrest⟩ := Option.bind_eq_some_iff.mp hmoves
    exact ih (hs.step hu) hrest

end History

/-! ### Single flight -/

section Flight

/-- What a state and its history say of the runs and the answers. -/
structure SingleFlight (h : List (Note K)) (s : State K κ) : Prop where
  /-- No two runs for one key are under way. -/
  one_run : ∀ (i j : Nat) (c d : Caller K κ) (n m : Nat), s.callers[i]? = some c →
    s.callers[j]? = some d → c.phase = .running n → d.phase = .running m → c.key = d.key → i = j
  /-- Once a run has made a value, none begins for its key. -/
  none_after : ∀ (before after : List (Note K)) (i j : Nat) (key : K),
    h = before ++ .made i key :: after → .began j key ∉ after
  /-- Callers of one key are given one value. -/
  one_value : ∀ (i j : Nat) (c d : Caller K κ) (v w : Made κ), s.callers[i]? = some c →
    s.callers[j]? = some d → c.phase = .returned (.value v) → d.phase = .returned (.value w) →
    c.key = d.key → v = w
  /-- A value that is given was made in a run for its key. -/
  from_run : ∀ (i : Nat) (c : Caller K κ) (v : Made κ), s.callers[i]? = some c →
    c.phase = .returned (.value v) → ∃ j, s.Maker j c.key v ∧ .made j c.key ∈ h
  /-- The number of a value tells who made it. -/
  one_maker : ∀ (i j : Nat) (key key' : K) (v w : Made κ), s.Maker i key v → s.Maker j key' w →
    v.serial = w.serial → i = j
  /-- A failure is given to a caller whose own run failed. -/
  own_failure : ∀ (i : Nat) (c : Caller K κ), s.callers[i]? = some c →
    c.phase = .returned .failed → .began i c.key ∈ h ∧ .broke i c.key ∈ h
  counted : s.compilations = h.countP Note.isBegan

variable [DecidableEq K]

theorem Coherent.singleFlight {h : List (Note K)} {s : State K κ} (hs : Coherent h s) :
    SingleFlight h s where
  one_run i j c d n m hc hd hrunning hrunning' hkey := by
    have hown := ((hs.sound i c hc).stands hrunning).1
    have hown' := ((hs.sound j d hd).stands hrunning').1
    exact hown.eq hown' hkey
  none_after before after i j key hh hbegan := by
    have hordered := hs.ordered
    rw [hh] at hordered
    have hlater := (List.pairwise_cons.mp (List.pairwise_append.mp hordered).2.1).1
    exact hlater _ hbegan i j key rfl rfl
  one_value i j c d v w hc hd hv hw hkey := by
    have hkept : s.kept? c.key = some v := (hs.sound i c hc).stands hv
    have hkept' : s.kept? d.key = some w := (hs.sound j d hd).stands hw
    rw [hkey, hkept'] at hkept
    exact (Option.some.inj hkept).symm
  from_run i c v hc hv := hs.origin c.key v ((hs.sound i c hc).stands hv)
  one_maker i j key key' v w hv hw hserial := by
    obtain ⟨c, hc, -, -, hrun⟩ := hv
    obtain ⟨d, hd, -, -, hrun'⟩ := hw
    exact hs.numbered.apart i j c d v.serial hc hd hrun (hserial ▸ hrun')
  own_failure i c hc hfailed := (hs.sound i c hc).stands hfailed
  counted := hs.counted

variable [DecidableEq κ]

/-- The states that any interleaving of callers reaches are those of a list of moves, and in each of
them, with what the moves have shown, the callers are in single flight. -/
theorem single_flight (calls : List (K × κ)) :
    (∀ s, State.Reachable calls s ↔
        ∃ moves h, State.perform moves [] (State.initial calls) = some (h, s)) ∧
      ∀ moves h s, State.perform moves [] (State.initial calls) = some (h, s) → SingleFlight h s := by
  constructor
  · intro s
    exact State.reachable_iff_perform
  · intro moves h s hmoves
    exact ((coherent_initial calls).perform hmoves).singleFlight

/-- The first caller fails and its slot is taken out of the table.  The second makes a new slot and,
while the third waits for its lock, the value. -/
theorem single_flight_after_failure :
    ∃ h s, State.perform
        (List.replicate 10 (0, false) ++ List.replicate 6 (1, true) ++ List.replicate 2 (2, true) ++
          List.replicate 4 (1, true) ++ List.replicate 4 (2, true)) []
        (State.initial [(5, ()), (5, ()), (5, ())]) = some (h, s) ∧
      SingleFlight h s ∧ h = [.began 0 5, .broke 0 5, .began 1 5, .made 1 5] ∧
      s.callers.map (fun c => c.phase) =
        [.returned .failed, .returned (.value ⟨1, ()⟩), .returned (.value ⟨1, ()⟩)] ∧
      s.table = [(5, 1)] := by
  have hmoves : State.perform
      (List.replicate 10 (0, false) ++ List.replicate 6 (1, true) ++ List.replicate 2 (2, true) ++
        List.replicate 4 (1, true) ++ List.replicate 4 (2, true)) []
      (State.initial [(5, ()), (5, ()), (5, ())]) =
        some ([.began 0 5, .broke 0 5, .began 1 5, .made 1 5],
          ⟨[⟨5, (), .returned .failed, some 0⟩, ⟨5, (), .returned (.value ⟨1, ()⟩), some 1⟩,
              ⟨5, (), .returned (.value ⟨1, ()⟩), none⟩],
            [(5, 1)], [⟨none, none⟩, ⟨some ⟨1, ()⟩, none⟩], 2⟩) := by
    decide
  exact ⟨_, _, hmoves, (single_flight _).2 _ _ _ hmoves, rfl, rfl, rfl⟩

end Flight

end RecordMapping.Interleaving
