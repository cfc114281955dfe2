import RecordMapping.Proofs.CacheContents
import RecordMapping.Proofs.EmptySlots
import Mathlib.Logic.Relation

/-!
# RecordMapping.Proofs.OneAfterAnother — callers that wait for one another are calls on a cache

Callers that come in turn, each only once the one before has its answer, make of the shared table
what calls do to a `Cache`: the same slots with the same values, the same answers and as many runs.
In the course of a call the table shows a cache for each phase of its caller (`Cache.Call.cacheAt`),
and a step leads from one to the next (`Stage.step`).

A caller whose run has failed holds the only handle then, and its slot is still the one of its key.
So it finds the slot unused (`Stage.unused`).  That is why a `Cache` may drop it without a look.
-/

namespace RecordMapping

variable {τ κ : Type} {El : κ → Type}

/-- An entry without the value itself. -/
def CacheEntry.made (e : CacheEntry El) : Interleaving.Made κ := ⟨e.serial, e.type⟩

open Interleaving (Phase Answer Caller Made)

/-- An answer without the value itself. -/
def Interleaving.Answer.of (t : κ) : Except MappingError (Shared (El t)) → Answer κ
  | .ok v => .value ⟨v.serial, t⟩
  | .error (.typeMismatch _) => .typeMismatch
  | .error _ => .failed

/-! ### The course of a call on a cache -/

namespace Cache.Call

variable {call : Call τ El} {run : Nat}

/-- Does the maker succeed in the run of that number? -/
def succeeds (call : Call τ El) (run : Nat) : Bool := (call.make run).value.isOk

theorem exists_of_succeeds (h : call.succeeds run = true) :
    ∃ x, (call.make run).value = .ok x := by
  unfold succeeds at h
  cases hmake : (call.make run).value with
  | ok x => exact ⟨x, rfl⟩
  | error cause =>
    rw [hmake] at h
    cases h

theorem exists_of_fails (h : call.succeeds run = false) :
    ∃ cause, (call.make run).value = .error cause := by
  unfold succeeds at h
  cases hmake : (call.make run).value with
  | ok x =>
    rw [hmake] at h
    cases h
  | error cause => exact ⟨cause, rfl⟩

variable [DecidableEq τ] [DecidableEq κ] (call : Call τ El) (c : Cache τ El)

/-- The answer of this call, without the value itself. -/
def answer : Answer κ := .of call.type (c.serve call).value.answer

/-- The cache in the course of this call, by the phase of the caller. -/
def cacheAt : Phase κ → Cache τ El
  | .start | .missed => c
  | .found _ | .waiting _ | .locked _ | .ready _ => c.reserve call.key
  | .running _ | .succeeded _ | .broken _ =>
    { c.reserve call.key with compilations := c.compilations + 1 }
  | .releasing .. | .leaving .. | .returned _ => (c.serve call).value.cache

/-- What a phase of the caller tells of the cache before this call. -/
def Expects : Phase κ → Prop
  | .ready _ | .running _ => c.get? call.key = none
  | .succeeded _ => c.get? call.key = none ∧ call.succeeds c.compilations = true
  | .broken _ => c.get? call.key = none ∧ call.succeeds c.compilations = false
  | .releasing _ a | .leaving _ a | .returned a => a = call.answer c
  | _ => True

variable {call c}

theorem Expects.of_phase {p q : Phase κ} (h : call.Expects c p) (hp : p = q) : call.Expects c q :=
  hp ▸ h

end Cache.Call

namespace Interleaving

open Cache (Call)
open State (Effect Reachable)

/-! ### Single steps -/

/-- A lock that is given back is free. -/
theorem State.holder?_release {K : Type} {s : State K κ} {n : Nat} :
    (s.setSlot n fun slot => { slot with holder := none }).holder? n = none := by
  cases hslot : s.slots[n]? <;> simp [State.holder?, State.setSlot, hslot]

theorem Phase.handle?_of_isIdle {p : Phase κ} (h : p.isIdle = true) : p.handle? = none := by
  cases p <;> first | rfl | cases h

theorem Phase.eq_returned {p : Phase κ} {a : Answer κ} (h : p.answer? = some a) :
    p = .returned a := by
  cases p with
  | returned b => rw [Option.some.inj h]
  | _ => cases h

/-- An entry is the same answer to a caller as to a call. -/
theorem answer_made [DecidableEq κ] {d : Caller (Fingerprint τ) κ} {type : κ}
    (hwanted : d.wanted = type) (key : Fingerprint τ) (e : CacheEntry El) :
    State.answer d e.made = .of type (Cache.castEntry type key e) := by
  subst hwanted
  rw [State.answer, Cache.castEntry_eq]
  by_cases htype : e.type = d.wanted
  · rw [dif_pos htype]
    show (if e.type = d.wanted then Answer.value e.made else .typeMismatch) =
      .value ⟨e.serial, d.wanted⟩
    rw [if_pos htype, CacheEntry.made, htype]
  · rw [dif_neg htype]
    exact if_neg htype

/-! ### The cache that a state shows -/

section Showing

variable [DecidableEq τ] {s : State (Fingerprint τ) κ} {c : Cache τ El} {key : Fingerprint τ}
  {i n : Nat}

/-- The table has the slots of the cache, with the same values in them. -/
structure State.Shows (s : State (Fingerprint τ) κ) (c : Cache τ El) : Prop where
  slots : ∀ key, (s.slot? key).map s.value? = (c.slot? key).map (Option.map CacheEntry.made)
  compilations : s.compilations = c.compilations

theorem shows_initial (calls : List (Fingerprint τ × κ)) :
    (State.initial calls).Shows (.empty : Cache τ El) := ⟨fun _ => rfl, rfl⟩

theorem State.Shows.slot?_eq_none_iff (h : s.Shows c) :
    c.slot? key = none ↔ s.slot? key = none := by
  rw [← Option.map_eq_none_iff (f := Option.map CacheEntry.made), ← h.slots, Option.map_eq_none_iff]

/-- What the slot of a key holds is what the cache keeps under the key. -/
theorem State.Shows.value?_eq (h : s.Shows c) (hslot : s.slot? key = some n) :
    s.value? n = (c.get? key).map CacheEntry.made := by
  have hslots := h.slots key
  rw [hslot, Option.map_some] at hslots
  obtain ⟨o, ho, hvalue⟩ := Option.map_eq_some_iff.mp hslots.symm
  rw [Cache.get?, ho, ← hvalue]
  rfl

theorem State.Shows.setPhase (h : s.Shows c) (i : Nat) (q : Phase κ) : (s.setPhase i q).Shows c :=
  ⟨h.slots, h.compilations⟩

theorem State.Shows.setHolder (h : s.Shows c) (n : Nat) (o : Option Nat) :
    (s.setSlot n fun slot => { slot with holder := o }).Shows c where
  slots k := by
    have hvalue : (s.setSlot n fun slot => { slot with holder := o }).value? = s.value? :=
      funext fun _ => State.value?_setHolder o
    rw [State.slot?_setSlot, hvalue]
    exact h.slots k
  compilations := h.compilations

theorem State.Shows.startRun (h : s.Shows c) (i : Nat) :
    (s.startRun i).Shows { c with compilations := c.compilations + 1 } :=
  ⟨h.slots, congrArg (· + 1) h.compilations⟩

theorem State.Shows.addSlot (h : s.Shows c) (hslot : s.slot? key = none) :
    (s.addSlot key).Shows (c.reserve key) where
  slots k := by
    have hvalue : (s.addSlot key).value? = s.value? := funext fun _ => State.value?_addSlot key
    rw [State.slot?_addSlot hslot, hvalue]
    by_cases hk : k = key
    · subst hk
      have hnew : s.value? s.slots.length = none := by simp [State.value?]
      rw [if_pos rfl, Option.map_some, hnew, Cache.slot?_reserve_self,
        h.slot?_eq_none_iff.mpr hslot]
      rfl
    · rw [if_neg hk, Cache.slot?_reserve_of_ne hk]
      exact h.slots k
  compilations := h.compilations.trans (Cache.compilations_reserve c key).symm

/-- A caller that has found its slot finds it reserved. -/
theorem State.Shows.reserve (h : s.Shows c) (hslot : s.slot? key = some n) :
    c.reserve key = c := by
  refine if_pos (Option.isSome_iff_ne_none.mpr ?_)
  rw [ne_eq, h.slot?_eq_none_iff, hslot]
  nofun

theorem State.Shows.publish (h : s.Shows c) (htidy : s.Tidy) (hslot : s.slot? key = some n)
    (e : CacheEntry El) :
    (s.setSlot n fun slot => { slot with value := some e.made }).Shows (c.publish key e) where
  slots k := by
    rw [State.slot?_setSlot, Cache.slot?_publish]
    by_cases hk : k = key
    · subst hk
      obtain ⟨o, ho⟩ := Option.ne_none_iff_exists'.mp
        (h.slot?_eq_none_iff.not.mpr (by rw [hslot]; nofun))
      rw [hslot, ho, Option.map_some, State.value?_setValue_self (htidy.exists_slot k n hslot)]
      simp
    · have hkeys := h.slots k
      simp only [if_neg hk, Option.map_id']
      rw [← hkeys]
      cases hother : s.slot? k with
      | none => rfl
      | some m =>
        have hm : m ≠ n := by
          rintro rfl
          exact hk (htidy.key k key m hother hslot)
        rw [Option.map_some, Option.map_some, State.value?_setSlot_of_ne hm]
  compilations := h.compilations

/-- Dropping the new slot of a key gives the cache back that was without it. -/
theorem State.Shows.discard {m : Nat} (h : s.Shows { c.reserve key with compilations := m })
    (hslot : c.slot? key = none) (hunused : s.Unused key n) :
    (s.discardUnused key n).Shows ⟨c.slots, m⟩ where
  slots k := by
    have hvalue : (s.discardUnused key n).value? = s.value? :=
      funext fun _ => State.value?_discardUnused
    rw [State.slot?_discardUnused hunused, hvalue]
    by_cases hk : k = key
    · subst hk
      have hgone : (⟨c.slots, m⟩ : Cache τ El).slot? k = none := hslot
      rw [if_pos rfl, hgone]
      rfl
    · rw [if_neg hk, h.slots k]
      exact congrArg _ (Cache.slot?_reserve_of_ne hk)
  compilations := State.compilations_discardUnused.trans h.compilations

end Showing

/-! ### Steps that are left -/

section Progress

variable {K : Type} [DecidableEq K] [DecidableEq κ] {s u : State K κ} {i : Nat} {c : Caller K κ}
  {q : Phase κ} {succeeds : Bool}

/-- A bound on the steps that a caller has left. -/
def Phase.left : Phase κ → Nat
  | .start => 10
  | .missed => 9
  | .found _ => 8
  | .waiting _ => 7
  | .locked _ => 6
  | .ready _ => 5
  | .running _ => 4
  | .succeeded _ | .broken _ => 3
  | .releasing .. => 2
  | .leaving .. => 1
  | .returned _ => 0

theorem State.Effect.left_lt (heffect : Effect s i c succeeds u q) : q.left < c.phase.left := by
  cases heffect with
  | find hphase =>
    rcases hphase with hphase | hphase
    · simp [hphase, Phase.left]
    · simp [hphase, Phase.left]
  | miss hphase | create hphase | look hphase | queue hphase | acquire hphase | lookAgain hphase
  | prepare hphase | begin hphase | succeed hphase | fail hphase | publish hphase | discard hphase
  | release hphase | leave hphase => simp [hphase, Phase.left]

/-- Who has no answer and need not wait for a lock can move. -/
theorem State.exists_advance (hc : s.callers[i]? = some c) (hwaiting : ∀ n, c.phase = .waiting n →
    s.holder? n = none) (hgoes : c.phase.answer? = none) (succeeds : Bool) :
    ∃ t, s.advance i succeeds = some t := by
  unfold State.advance
  rw [hc]
  dsimp only
  cases hphase : c.phase with
  | start | missed =>
    cases s.slot? c.key with
    | none => exact ⟨_, rfl⟩
    | some n => exact ⟨_, rfl⟩
  | found n | locked n =>
    cases hvalue : s.value? n with
    | none => simp [hvalue]
    | some v => simp [hvalue]
  | waiting n => simp [hwaiting n hphase]
  | returned a =>
    rw [hphase] at hgoes
    cases hgoes
  | ready | running | succeeded | broken | releasing | leaving => exact ⟨_, rfl⟩

end Progress

/-! ### The course of a call -/

section Courses

variable [DecidableEq τ] [DecidableEq κ] {call : Call τ El} {c : Cache τ El}
  {s t u : State (Fingerprint τ) κ} {d : Caller (Fingerprint τ) κ} {i n : Nat} {q : Phase κ}

/-- A caller alone in the course of a call on a cache. -/
structure Stage (call : Call τ El) (c : Cache τ El) (i : Nat) (d : Caller (Fingerprint τ) κ)
    (s : State (Fingerprint τ) κ) : Prop where
  coherent : ∃ h, Coherent h s
  idle : ∀ (j : Nat) (e : Caller (Fingerprint τ) κ), j ≠ i → s.callers[j]? = some e →
    e.phase.isIdle = true
  caller : s.callers[i]? = some d
  key : d.key = call.key
  wanted : d.wanted = call.type
  /-- Nobody else has a lock. -/
  free : ∀ m, s.holder? m ≠ none → d.phase.lock? = some m
  shows : s.Shows (call.cacheAt c d.phase)
  expects : call.Expects c d.phase
  run : ∀ m, d.phase = .running m ∨ d.phase = .succeeded m → d.run = some c.compilations

theorem Stage.shows_at (h : Stage call c i d s) {p : Phase κ} (hphase : d.phase = p) :
    s.Shows (call.cacheAt c p) := hphase ▸ h.shows

theorem Stage.stands (h : Stage call c i d s) {p : Phase κ} (hphase : d.phase = p) :
    ∃ hist, d.Stands s hist i p := by
  obtain ⟨hist, hcoherent⟩ := h.coherent
  exact ⟨hist, (hcoherent.sound i d h.caller).stands hphase⟩

/-- Alone, a caller whose run has failed finds its slot unused. -/
theorem Stage.unused (h : Stage call c i d s) (hphase : d.phase = .broken n) :
    s.Unused d.key n := by
  obtain ⟨hist, hown, -⟩ := h.stands hphase
  refine ⟨hown.slot, ?_, ?_⟩
  · refine handles_eq_one h.caller (by rw [hphase]; rfl) fun j e he hen => ?_
    by_contra hj
    rw [Phase.handle?_of_isIdle (h.idle j e hj he)] at hen
    cases hen
  · have hnone : ({ c.reserve call.key with compilations := c.compilations + 1 } :
        Cache τ El).get? d.key = none := by
      rw [h.key]
      exact (c.get?_reserve call.key call.key).trans (h.expects.of_phase hphase).1
    rw [(h.shows_at hphase).value?_eq hown.slot]
    exact congrArg _ hnone

/-- A value in the caller's slot is the one that the cache keeps, and the call gives it. -/
theorem Stage.hit (h : Stage call c i d s) (hphase : d.phase = .found n ∨ d.phase = .locked n)
    {v : Made κ} (hvalue : s.value? n = some v) :
    s.Shows (c.serve call).value.cache ∧ State.answer d v = call.answer c := by
  have hshows : s.Shows (c.reserve call.key) := by
    rcases hphase with hphase | hphase
    · exact h.shows_at hphase
    · exact h.shows_at hphase
  have hslot : s.slot? d.key = some n := by
    rcases hphase with hphase | hphase
    · obtain ⟨_, hslot, -⟩ := h.stands hphase
      exact hslot
    · obtain ⟨_, hown, -⟩ := h.stands hphase
      exact hown.slot
  rw [hshows.value?_eq hslot, h.key, Cache.get?_reserve] at hvalue
  obtain ⟨e, hentry, rfl⟩ := Option.map_eq_some_iff.mp hvalue
  have hserve := Cache.serve_of_entry hentry
  rw [Cache.reserve_of_entry hentry] at hshows
  rw [Cache.Call.answer, hserve]
  exact ⟨hshows, answer_made h.wanted call.key e⟩

/-- A caller whose run has made a value gives the cache what the call keeps. -/
theorem Stage.makes (h : Stage call c i d s) (hphase : d.phase = .succeeded n) :
    ∃ x, (c.serve call).value.cache = c.keep call.key call.type x ∧
      call.answer c = .value ⟨c.compilations, call.type⟩ := by
  obtain ⟨hentry, hmakes⟩ := h.expects.of_phase hphase
  obtain ⟨x, hmake⟩ := Cache.Call.exists_of_succeeds hmakes
  refine ⟨x, ?_, ?_⟩
  · rw [Cache.serve, Cache.getOrMake_of_made hentry hmake]
  · rw [Cache.Call.answer, Cache.serve, Cache.getOrMake_of_made hentry hmake]
    rfl

/-- What such a caller puts into its slot. -/
theorem Stage.published (h : Stage call c i d s) (hphase : d.phase = .succeeded n) {v : Made κ}
    (hvalue : v = (s.value? n).getD ⟨d.run.getD 0, d.wanted⟩) :
    v = ⟨c.compilations, call.type⟩ := by
  obtain ⟨_, -, hempty, -⟩ := h.stands hphase
  rw [hvalue, hempty, h.run n (Or.inr hphase), h.wanted]
  rfl

/-- A caller whose run has failed leaves the slots of the cache as they were. -/
theorem Stage.fails (h : Stage call c i d s) (hc : c.Settled) (hphase : d.phase = .broken n) :
    (c.serve call).value.cache = ⟨c.slots, c.compilations + 1⟩ ∧ call.answer c = .failed := by
  obtain ⟨hentry, hbreaks⟩ := h.expects.of_phase hphase
  obtain ⟨cause, hmake⟩ := Cache.Call.exists_of_fails hbreaks
  have hserve := Cache.value_serve_of_failed hentry (hc.slot?_eq_none hentry) hmake
  constructor
  · rw [hserve]
  · rw [Cache.Call.answer, hserve]
    rfl

/-- The table after a step shows the cache of the phase after it. -/
theorem Stage.shows_step (h : Stage call c i d s) (hc : c.Settled)
    (heffect : Effect s i d (call.succeeds c.compilations) u q) : u.Shows (call.cacheAt c q) := by
  obtain ⟨hist, hcoherent⟩ := h.coherent
  cases heffect with
  | @find n hphase hslot =>
    have hshows : s.Shows c := by
      rcases hphase with hphase | hphase
      · exact h.shows_at hphase
      · exact h.shows_at hphase
    show s.Shows (c.reserve call.key)
    rw [hshows.reserve (h.key ▸ hslot)]
    exact hshows
  | create hphase hslot =>
    have hshows : s.Shows c := h.shows_at hphase
    have hadded := hshows.addSlot hslot
    rw [h.key] at hadded ⊢
    exact hadded
  | look hphase hvalue => exact (h.hit (Or.inl hphase) hvalue).1
  | lookAgain hphase hvalue => exact (h.hit (Or.inr hphase) hvalue).1
  | begin hphase =>
    have hshows : s.Shows (c.reserve call.key) := h.shows_at hphase
    have hbegun := hshows.startRun i
    rw [Cache.compilations_reserve] at hbegun
    exact hbegun
  | publish hphase hvalue =>
    obtain ⟨_, hown, -⟩ := h.stands hphase
    obtain ⟨x, hcache, -⟩ := h.makes hphase
    have hkept := (h.shows_at hphase).publish hcoherent.tidy (h.key ▸ hown.slot)
      ⟨call.type, c.compilations, x⟩
    show State.Shows _ (c.serve call).value.cache
    rw [hcache, h.published hphase hvalue]
    exact hkept
  | discard hphase =>
    have hslot := hc.slot?_eq_none (h.expects.of_phase hphase).1
    show State.Shows _ (c.serve call).value.cache
    rw [(h.fails hc hphase).1, h.key]
    exact (h.shows_at hphase).discard hslot (h.key ▸ h.unused hphase)
  | acquire hphase | release hphase =>
    have hshows := h.shows_at hphase
    exact hshows.setHolder _ _
  | miss hphase | queue hphase | prepare hphase | succeed hphase | fail hphase | leave hphase =>
    have hshows := h.shows_at hphase
    exact hshows

/-- A phase tells what it should of the cache before the call. -/
theorem Stage.expects_step (h : Stage call c i d s) (hc : c.Settled)
    (heffect : Effect s i d (call.succeeds c.compilations) u q) : call.Expects c q := by
  cases heffect with
  | find | miss | create | queue | acquire => trivial
  | look hphase hvalue => exact (h.hit (Or.inl hphase) hvalue).2
  | lookAgain hphase hvalue => exact (h.hit (Or.inr hphase) hvalue).2
  | prepare hphase hvalue =>
    obtain ⟨_, hown, -⟩ := h.stands hphase
    have hshows : s.Shows (c.reserve call.key) := h.shows_at hphase
    rw [hshows.value?_eq hown.slot, h.key, Cache.get?_reserve] at hvalue
    exact Option.map_eq_none_iff.mp hvalue
  | begin hphase =>
    have hentry : c.get? call.key = none := h.expects.of_phase hphase
    exact hentry
  | succeed hphase hends | fail hphase hends =>
    have hentry := h.expects.of_phase hphase
    exact ⟨hentry, hends⟩
  | publish hphase hvalue =>
    obtain ⟨x, -, hanswer⟩ := h.makes hphase
    show State.answer d _ = call.answer c
    rw [hanswer, h.published hphase hvalue, State.answer, h.wanted, if_pos rfl]
  | discard hphase => exact (h.fails hc hphase).2.symm
  | release hphase | leave hphase =>
    have hexpects := h.expects.of_phase hphase
    exact hexpects

/-- A step takes a lock or gives it back along with the phase. -/
theorem Stage.free_step (h : Stage call c i d s)
    (heffect : Effect s i d (call.succeeds c.compilations) u q) {m : Nat}
    (hm : u.holder? m ≠ none) : q.lock? = some m := by
  have hlock {p : Phase κ} (hphase : d.phase = p) (hm : s.holder? m ≠ none) : p.lock? = some m :=
    hphase ▸ h.free m hm
  cases heffect with
  | find hphase =>
    rcases hphase with hphase | hphase
    · cases hlock hphase hm
    · cases hlock hphase hm
  | miss hphase | look hphase | queue hphase | leave hphase => cases hlock hphase hm
  | create hphase =>
    rw [State.holder?_addSlot] at hm
    cases hlock hphase hm
  | @acquire n hphase =>
    by_cases hmn : m = n
    · rw [hmn]
      rfl
    · rw [State.holder?_setSlot_of_ne hmn] at hm
      cases hlock hphase hm
  | @release n a hphase =>
    by_cases hmn : m = n
    · rw [hmn] at hm
      exact absurd State.holder?_release hm
    · rw [State.holder?_setSlot_of_ne hmn] at hm
      have hsame := hlock hphase hm
      exact absurd (Option.some.inj hsame).symm hmn
  | publish hphase =>
    rw [State.holder?_setValue] at hm
    have hsame := hlock hphase hm
    exact hsame
  | discard hphase =>
    rw [State.holder?_discardUnused] at hm
    have hsame := hlock hphase hm
    exact hsame
  | lookAgain hphase | prepare hphase | begin hphase | succeed hphase | fail hphase =>
    have hsame := hlock hphase hm
    exact hsame

/-- The number of a run is that of the runs before the call. -/
theorem Stage.run_step (h : Stage call c i d s)
    (heffect : Effect s i d (call.succeeds c.compilations) u q) {run : Option Nat}
    (hbegun : (∃ m, q = .running m) → run = some s.compilations)
    (hrun : (∀ m, q ≠ .running m) → run = d.run) {m : Nat}
    (hq : q = .running m ∨ q = .succeeded m) : run = some c.compilations := by
  rcases hq with rfl | rfl
  · cases heffect with
    | begin hphase =>
      have hshows : s.Shows (c.reserve call.key) := h.shows_at hphase
      rw [hbegun ⟨m, rfl⟩, hshows.compilations, Cache.compilations_reserve]
  · cases heffect with
    | succeed hphase => rw [hrun nofun, h.run m (Or.inl hphase)]

/-- A step of the caller leads on in the course of its call. -/
theorem Stage.step (h : Stage call c i d s) (hc : c.Settled)
    (hstep : s.advance i (call.succeeds c.compilations) = some t) :
    ∃ e, Stage call c i e t ∧ e.phase.left < d.phase.left := by
  obtain ⟨d', u, q, hd', heffect, rfl⟩ := State.effect_of_advance hstep
  obtain rfl : d = d' := Option.some.inj (h.caller.symm.trans hd')
  obtain ⟨hist, hcoherent⟩ := h.coherent
  obtain ⟨e, he, hkey, hwanted, rfl, hbegun, hrun⟩ := heffect.caller_self h.caller
  refine ⟨e, ?_, heffect.left_lt⟩
  exact {
    coherent := ⟨_, hcoherent.step hstep⟩
    idle := by
      intro j f hj hf
      rw [heffect.caller_of_ne hj] at hf
      exact h.idle j f hj hf
    caller := he
    key := hkey.trans h.key
    wanted := hwanted.trans h.wanted
    free := fun _ => h.free_step heffect
    shows := (h.shows_step hc heffect).setPhase i e.phase
    expects := h.expects_step hc heffect
    run := fun _ => h.run_step heffect hbegun hrun }

end Courses

/-! ### Callers in turn -/

section Turns

variable [DecidableEq τ] [DecidableEq κ] {calls : List (Call τ El)} {call : Call τ El}
  {c : Cache τ El} {s t : State (Fingerprint τ) κ} {d : Caller (Fingerprint τ) κ} {i k : Nat}

/-- Steps of one caller alone, whose run ends as it is told. -/
def Alone (i : Nat) (succeeds : Bool) : State (Fingerprint τ) κ → State (Fingerprint τ) κ → Prop :=
  Relation.ReflTransGen fun s t => s.advance i succeeds = some t

theorem Alone.callers {succeeds : Bool} (h : Alone i succeeds s t) {j : Nat} (hj : j ≠ i) :
    t.callers[j]? = s.callers[j]? := by
  induction h with
  | refl => rfl
  | tail _ hstep ih =>
    obtain ⟨c, u, q, -, heffect, rfl⟩ := State.effect_of_advance hstep
    rw [heffect.caller_of_ne hj, ih]

theorem Alone.reachable {asked : List (Fingerprint τ × κ)} {succeeds : Bool}
    (h : Alone i succeeds s t) (hs : Reachable asked s) : Reachable asked t := by
  induction h with
  | refl => exact hs
  | tail _ hstep ih => exact .step i succeeds ih hstep

theorem Stage.alone (h : Stage call c i d s) (hc : c.Settled)
    (hsteps : Alone i (call.succeeds c.compilations) s t) : ∃ e, Stage call c i e t := by
  induction hsteps with
  | refl => exact ⟨d, h⟩
  | tail _ hstep ih =>
    obtain ⟨e, he⟩ := ih
    obtain ⟨f, hf, -⟩ := he.step hc hstep
    exact ⟨f, hf⟩

/-- Alone, a caller without its answer can move: if it waits for a lock, nobody has one. -/
theorem Stage.exists_step (h : Stage call c i d s) (hgoes : d.phase.answer? = none) :
    ∃ u, s.advance i (call.succeeds c.compilations) = some u := by
  refine State.exists_advance h.caller (fun n hphase => ?_) hgoes _
  by_contra hheld
  have hlock := h.free n hheld
  rw [hphase] at hlock
  cases hlock

/-- Alone, a caller comes to its answer. -/
theorem Stage.exists_returned (h : Stage call c i d s) (hc : c.Settled) :
    ∃ t e a, Alone i (call.succeeds c.compilations) s t ∧ t.callers[i]? = some e ∧
      e.phase = .returned a := by
  -- each step lowers the bound on those that are left
  induction hleft : d.phase.left using Nat.strong_induction_on generalizing d s with
  | _ left ih =>
    cases hanswer : d.phase.answer? with
    | some a => exact ⟨s, d, a, .refl, h.caller, Phase.eq_returned hanswer⟩
    | none =>
      obtain ⟨u, hstep⟩ := h.exists_step hanswer
      obtain ⟨f, hf, hlt⟩ := h.step hc hstep
      obtain ⟨t, e, a, hsteps, he, hreturned⟩ := ih _ (hleft ▸ hlt) hf rfl
      exact ⟨t, e, a, .head hstep hsteps, he, hreturned⟩

/-- What a caller asks for. -/
def asked (call : Call τ El) : Fingerprint τ × κ := (call.key, call.type)

/-- The first `k` callers have had their answers in turn.  A run ended as the maker of its call
ends in that run. -/
inductive InTurn (calls : List (Call τ El)) : Nat → State (Fingerprint τ) κ → Prop
  | initial : InTurn calls 0 (State.initial (calls.map asked))
  | next {k : Nat} {s t : State (Fingerprint τ) κ} {call : Call τ El}
      {d : Caller (Fingerprint τ) κ} {a : Answer κ} (before : InTurn calls k s)
      (comes : calls[k]? = some call) (steps : Alone k (call.succeeds s.compilations) s t)
      (caller : t.callers[k]? = some d) (ends : d.phase = .returned a) : InTurn calls (k + 1) t

/-- After the turns of the first `k` callers, nobody is under way, and the others have not begun. -/
structure Served (calls : List (Call τ El)) (k : Nat) (s : State (Fingerprint τ) κ) : Prop where
  reachable : Reachable (calls.map asked) s
  idle : ∀ (i : Nat) (d : Caller (Fingerprint τ) κ), s.callers[i]? = some d →
    d.phase.isIdle = true
  free : ∀ m, s.holder? m = none
  shows : s.Shows (Cache.after (calls.take k))
  answers : ∀ (i : Nat) (call : Call τ El), i < k → calls[i]? = some call →
    ∃ d, s.callers[i]? = some d ∧ d.phase = .returned (call.answer (Cache.after (calls.take i)))
  others : ∀ (i : Nat) (call : Call τ El), k ≤ i → calls[i]? = some call →
    s.callers[i]? = some ⟨call.key, call.type, .start, none⟩

theorem served_initial (calls : List (Call τ El)) :
    Served calls 0 (State.initial (calls.map asked)) where
  reachable := .initial
  idle i d hd := by
    obtain ⟨call, -, rfl⟩ : ∃ call, (calls.map asked)[i]? = some call ∧
        (⟨call.1, call.2, .start, none⟩ : Caller (Fingerprint τ) κ) = d := by
      simpa [State.initial] using hd
    rfl
  free _ := rfl
  shows := shows_initial _
  answers := nofun
  others i call _ hcall := by simp [State.initial, hcall, asked]

theorem Served.coherent (h : Served calls k s) : ∃ hist, Coherent hist s := by
  obtain ⟨moves, hist, hmoves⟩ := State.reachable_iff_perform.mp h.reachable
  exact ⟨hist, (coherent_initial _).perform hmoves⟩

theorem Served.stage (h : Served calls k s) (hcall : calls[k]? = some call) :
    Stage call (Cache.after (calls.take k)) k ⟨call.key, call.type, .start, none⟩ s where
  coherent := h.coherent
  idle j e _ he := h.idle j e he
  caller := h.others k call (Nat.le_refl k) hcall
  key := rfl
  wanted := rfl
  free m hm := absurd (h.free m) hm
  shows := h.shows
  expects := trivial
  run := nofun

theorem settled_after (calls : List (Call τ El)) : (Cache.after calls).Settled :=
  (Cache.represents_after calls).settled

/-- The turn of a caller is its call on the cache. -/
theorem Served.next {a : Answer κ} (h : Served calls k s) (hcall : calls[k]? = some call)
    (hsteps : Alone k (call.succeeds s.compilations) s t) (hd : t.callers[k]? = some d)
    (hreturned : d.phase = .returned a) : Served calls (k + 1) t := by
  rw [h.shows.compilations] at hsteps
  obtain ⟨e, he⟩ := (h.stage hcall).alone (settled_after _) hsteps
  obtain rfl : d = e := Option.some.inj (hd.symm.trans he.caller)
  have hafter : Cache.after (calls.take (k + 1)) =
      ((Cache.after (calls.take k)).serve call).value.cache := by
    rw [List.take_add_one, hcall]
    exact Cache.after_concat _ _
  exact {
    reachable := hsteps.reachable h.reachable
    idle := by
      intro j f hf
      by_cases hj : j = k
      · subst hj
        obtain rfl : d = f := Option.some.inj (hd.symm.trans hf)
        rw [hreturned]
        rfl
      · exact he.idle j f hj hf
    free := by
      intro m
      by_contra hheld
      have hlock := he.free m hheld
      rw [hreturned] at hlock
      cases hlock
    shows := by
      rw [hafter]
      exact he.shows_at hreturned
    answers := by
      intro j call' hj hcall'
      by_cases hjk : j = k
      · subst hjk
        obtain rfl : call = call' := Option.some.inj (hcall.symm.trans hcall')
        have hanswer : a = call.answer _ := he.expects.of_phase hreturned
        exact ⟨d, hd, hanswer ▸ hreturned⟩
      · rw [hsteps.callers hjk]
        exact h.answers j call' (by omega) hcall'
    others := by
      intro j call' hj hcall'
      rw [hsteps.callers (by omega)]
      exact h.others j call' (by omega) hcall' }

theorem InTurn.served (h : InTurn calls k s) : Served calls k s := by
  induction h with
  | initial => exact served_initial calls
  | next _ hcall hsteps hd hreturned ih => exact ih.next hcall hsteps hd hreturned

theorem exists_inTurn (calls : List (Call τ El)) {k : Nat} (hk : k ≤ calls.length) :
    ∃ s, InTurn calls k s := by
  induction k with
  | zero => exact ⟨_, .initial⟩
  | succ k ih =>
    obtain ⟨s, hs⟩ := ih (by omega)
    have hcall : calls[k]? = some calls[k] := List.getElem?_eq_getElem (by omega)
    have hserved := hs.served
    obtain ⟨t, d, a, hsteps, hd, hreturned⟩ :=
      (hserved.stage hcall).exists_returned (settled_after _)
    rw [← hserved.shows.compilations] at hsteps
    exact ⟨t, .next hs hcall hsteps hd hreturned⟩

/-- Callers in turn are calls on a cache.  They all have their turns.  After each of them the table
shows the cache after the calls so far, and the callers have the answers of those calls.  Whenever
one of them looks whether its slot can go, nobody else has a handle to it and it is still the slot
of its key. -/
theorem inTurn_as_cache (calls : List (Call τ El)) :
    (∀ k ≤ calls.length, ∃ s, InTurn calls k s) ∧
      ∀ k s, InTurn calls k s →
        Reachable (calls.map asked) s ∧ s.isQuiet = true ∧
        s.Shows (Cache.after (calls.take k)) ∧
        (∀ i call, i < k → calls[i]? = some call → ∃ d, s.callers[i]? = some d ∧
          d.phase = .returned (call.answer (Cache.after (calls.take i)))) ∧
        ∀ call t d n, calls[k]? = some call → Alone k (call.succeeds s.compilations) s t →
          t.callers[k]? = some d → d.phase = .broken n → t.Unused d.key n := by
  refine ⟨fun k hk => exists_inTurn calls hk, fun k s hs => ?_⟩
  have h := hs.served
  refine ⟨h.reachable, ?_, h.shows, h.answers, ?_⟩
  · refine List.all_eq_true.mpr fun d hd => ?_
    obtain ⟨i, hi⟩ := List.mem_iff_getElem?.mp hd
    exact h.idle i d hi
  · intro call t d n hcall hsteps hd hphase
    rw [h.shows.compilations] at hsteps
    obtain ⟨e, he⟩ := (h.stage hcall).alone (settled_after _) hsteps
    obtain rfl : d = e := Option.some.inj (hd.symm.trans he.caller)
    exact he.unused hphase

end Turns

end Interleaving

end RecordMapping
