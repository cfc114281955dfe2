import RecordMapping.Cache.Interleaving
import Mathlib.Data.Nat.Init

/-!
# RecordMapping.Proofs.CallerSteps — what one step of a caller does, and what it leaves to the others

`Effect` lists the steps: from which phase, under which condition, to which phase, with which change
to the table and the slots.  Whatever a step does, the other callers find again what they rely on
(`Frame`): their slot is still the one of their key, their lock is still theirs, a slot that they have
locked stays empty, and a value once kept under a key stays there.
-/

namespace RecordMapping.Interleaving

variable {K κ : Type}

namespace Phase

/-- The slot of a caller whose call may still make a value, or has just failed to. -/
def active? : Phase κ → Option Nat
  | found n | waiting n | locked n | ready n | running n | succeeded n | broken n => some n
  | _ => none

theorem handle?_of_active? {p : Phase κ} {n : Nat} (h : p.active? = some n) :
    p.handle? = some n := by
  cases p <;> first | exact h | cases h

end Phase

namespace State

variable {s t : State K κ} {i j n m : Nat}

/-! ### Changes, seen through the queries -/

section Changes

theorem callers_setPhase_self {c : Caller K κ} (hc : s.callers[i]? = some c) (p : Phase κ) :
    (s.setPhase i p).callers[i]? = some { c with phase := p } := by
  simp [setPhase, hc]

theorem callers_setPhase_of_ne (hj : j ≠ i) (p : Phase κ) :
    (s.setPhase i p).callers[j]? = s.callers[j]? := by
  simp [setPhase, hj.symm]

theorem callers_startRun_self {c : Caller K κ} (hc : s.callers[i]? = some c) :
    (s.startRun i).callers[i]? = some { c with run := some s.compilations } := by
  simp [startRun, hc]

theorem callers_startRun_of_ne (hj : j ≠ i) : (s.startRun i).callers[j]? = s.callers[j]? := by
  simp [startRun, hj.symm]

/-- A new slot is empty and free, as is one that does not exist. -/
theorem slots_addSlot (key : K) (n : Nat) : (s.addSlot key).slots[n]? = s.slots[n]? ∨
    s.slots[n]? = none ∧ (s.addSlot key).slots[n]? = some ⟨none, none⟩ := by
  rcases Nat.lt_trichotomy n s.slots.length with hn | rfl | hn
  · exact Or.inl (List.getElem?_append_left hn)
  · exact Or.inr ⟨List.getElem?_eq_none (Nat.le_refl _), List.getElem?_concat_length⟩
  · left
    rw [List.getElem?_eq_none (Nat.le_of_lt hn), List.getElem?_eq_none]
    simpa [addSlot] using Nat.succ_le_of_lt hn

@[simp] theorem value?_addSlot (key : K) : (s.addSlot key).value? n = s.value? n := by
  unfold value?
  rcases slots_addSlot (s := s) key n with h | ⟨h, h'⟩
  · rw [h]
  · rw [h, h']
    rfl

@[simp] theorem holder?_addSlot (key : K) : (s.addSlot key).holder? n = s.holder? n := by
  unfold holder?
  rcases slots_addSlot (s := s) key n with h | ⟨h, h'⟩
  · rw [h]
  · rw [h, h']
    rfl

theorem value?_setSlot_of_ne (hm : m ≠ n) (f : Slot κ → Slot κ) :
    (s.setSlot n f).value? m = s.value? m := by
  simp [value?, setSlot, hm.symm]

theorem holder?_setSlot_of_ne (hm : m ≠ n) (f : Slot κ → Slot κ) :
    (s.setSlot n f).holder? m = s.holder? m := by
  simp [holder?, setSlot, hm.symm]

/-- Changing who holds a lock changes no value. -/
@[simp] theorem value?_setHolder (o : Option Nat) :
    (s.setSlot n fun slot => { slot with holder := o }).value? m = s.value? m := by
  by_cases hm : m = n
  · subst hm
    cases hslot : s.slots[m]? <;> simp [value?, setSlot, hslot]
  · exact value?_setSlot_of_ne hm _

theorem holder?_setHolder_self (hn : n < s.slots.length) (o : Option Nat) :
    (s.setSlot n fun slot => { slot with holder := o }).holder? n = o := by
  simp [holder?, setSlot, hn]

/-- Keeping a value changes the holder of no lock. -/
@[simp] theorem holder?_setValue (v : Option (Made κ)) :
    (s.setSlot n fun slot => { slot with value := v }).holder? m = s.holder? m := by
  by_cases hm : m = n
  · subst hm
    cases hslot : s.slots[m]? <;> simp [holder?, setSlot, hslot]
  · exact holder?_setSlot_of_ne hm _

theorem value?_setValue_self (hn : n < s.slots.length) (v : Option (Made κ)) :
    (s.setSlot n fun slot => { slot with value := v }).value? n = v := by
  simp [value?, setSlot, hn]

section Table

variable [DecidableEq K] {key k : K}

@[simp] theorem slot?_setSlot (f : Slot κ → Slot κ) : (s.setSlot n f).slot? key = s.slot? key := rfl

theorem slot?_addSlot (hkey : s.slot? key = none) :
    (s.addSlot key).slot? k = if k = key then some s.slots.length else s.slot? k := by
  unfold slot? at hkey ⊢
  unfold addSlot
  rw [List.find?_append]
  split
  · rename_i hk
    rw [hk, Option.map_eq_none_iff.mp hkey]
    simp
  · rename_i hk
    have hnew : [(key, s.slots.length)].find? (fun entry => decide (entry.1 = k)) = none := by
      simp [Ne.symm hk]
    rw [hnew, Option.or_none]

/-- Was the slot of the key taken out of the table? -/
def Unused (s : State K κ) (key : K) (n : Nat) : Prop :=
  s.slot? key = some n ∧ s.handles n = 1 ∧ s.value? n = none

theorem discardUnused_of_used (h : ¬s.Unused key n) : s.discardUnused key n = s := if_neg h

theorem slot?_discardUnused (h : s.Unused key n) :
    (s.discardUnused key n).slot? k = if k = key then none else s.slot? k := by
  have hdiscard : s.discardUnused key n =
      { s with table := s.table.filter fun entry => !decide (entry.1 = key) } := if_pos h
  rw [hdiscard, slot?, slot?, List.find?_filter]
  split
  · rename_i hk
    subst hk
    simp
  · rename_i hk
    have hentry (entry : K × Nat) :
        decide ((!decide (entry.1 = key)) = true ∧ decide (entry.1 = k) = true) =
          decide (entry.1 = k) := by
      rw [decide_eq_decide]
      constructor
      · intro hboth
        exact of_decide_eq_true hboth.2
      · rintro rfl
        simp [hk]
    rw [funext hentry]

@[simp] theorem value?_discardUnused : (s.discardUnused key n).value? m = s.value? m := by
  unfold discardUnused
  split <;> rfl

@[simp] theorem holder?_discardUnused : (s.discardUnused key n).holder? m = s.holder? m := by
  unfold discardUnused
  split <;> rfl

@[simp] theorem callers_discardUnused : (s.discardUnused key n).callers = s.callers := by
  unfold discardUnused
  split <;> rfl

@[simp] theorem slots_discardUnused : (s.discardUnused key n).slots = s.slots := by
  unfold discardUnused
  split <;> rfl

@[simp] theorem compilations_discardUnused :
    (s.discardUnused key n).compilations = s.compilations := by
  unfold discardUnused
  split <;> rfl

end Table

end Changes

/-! ### Kept values -/

section Kept

variable [DecidableEq K] {key : K} {v : Made κ}

/-- The value in the slot of a key. -/
def kept? (s : State K κ) (key : K) : Option (Made κ) := (s.slot? key).bind s.value?

theorem kept?_eq_some : s.kept? key = some v ↔ ∃ n, s.slot? key = some n ∧ s.value? n = some v :=
  Option.bind_eq_some_iff

theorem kept?_of_slot? (h : s.slot? key = some n) : s.kept? key = s.value? n := by
  rw [kept?, h]
  rfl

theorem kept?_congr (hslot : t.slot? key = s.slot? key) (hvalue : ∀ n, t.value? n = s.value? n) :
    t.kept? key = s.kept? key := by
  rw [kept?, kept?, hslot, funext hvalue]

/-- A new slot keeps nothing. -/
theorem kept?_addSlot {new : K} (hnew : s.slot? new = none) :
    (s.addSlot new).kept? key = s.kept? key := by
  by_cases hkey : key = new
  · have hempty : s.value? s.slots.length = none := by simp [value?]
    have hslot : (s.addSlot new).slot? key = some s.slots.length := by
      rw [slot?_addSlot hnew, if_pos hkey]
    rw [kept?_of_slot? hslot, value?_addSlot, hempty, kept?, hkey, hnew]
    rfl
  · exact kept?_congr ((slot?_addSlot hnew).trans (if_neg hkey)) fun _ => value?_addSlot new

theorem kept?_setHolder (o : Option Nat) :
    (s.setSlot n fun slot => { slot with holder := o }).kept? key = s.kept? key :=
  kept?_congr (slot?_setSlot _) fun _ => value?_setHolder o

theorem kept?_setValue_self (hslot : s.slot? key = some n) (hn : n < s.slots.length) (v : Made κ) :
    (s.setSlot n fun slot => { slot with value := some v }).kept? key = some v :=
  (kept?_of_slot? ((slot?_setSlot _).trans hslot)).trans (value?_setValue_self hn (some v))

/-- A slot that is taken out of the table kept nothing. -/
theorem kept?_discardUnused {old : K} : (s.discardUnused old n).kept? key = s.kept? key := by
  by_cases hunused : s.Unused old n
  · by_cases hkey : key = old
    · have hslot : (s.discardUnused old n).slot? key = none := by
        rw [slot?_discardUnused hunused, if_pos hkey]
      rw [kept?, hslot, hkey, kept?_of_slot? hunused.1, hunused.2.2]
      rfl
    · exact kept?_congr ((slot?_discardUnused hunused).trans (if_neg hkey))
        fun _ => value?_discardUnused
  · rw [discardUnused_of_used hunused]

end Kept

/-! ### Handles -/

/-- A slot with one handle has one caller that holds it. -/
theorem eq_of_handles_eq_one (h : s.handles n = 1) {c d : Caller K κ} (hc : s.callers[i]? = some c)
    (hd : s.callers[j]? = some d) (hcn : c.phase.handle? = some n) (hdn : d.phase.handle? = some n) :
    i = j := by
  unfold handles at h
  generalize s.callers = callers at h hc hd
  induction callers generalizing i j with
  | nil => simp at hc
  | cons a rest ih =>
    -- if the first caller holds a handle, none of the rest does
    have hrest (hfirst : a.phase.handle? = some n) (e : Caller K κ) (he : e ∈ rest) :
        e.phase.handle? ≠ some n := by
      have hnone : rest.countP (fun b => decide (b.phase.handle? = some n)) = 0 := by
        simpa [hfirst] using h
      simpa using List.countP_eq_zero.mp hnone e he
    cases i with
    | zero =>
      obtain rfl := Option.some.inj hc
      cases j with
      | zero => rfl
      | succ j => exact absurd hdn (hrest hcn d (List.mem_of_getElem? hd))
    | succ i =>
      cases j with
      | zero =>
        obtain rfl := Option.some.inj hd
        exact absurd hcn (hrest hdn c (List.mem_of_getElem? hc))
      | succ j =>
        have hfirst : a.phase.handle? ≠ some n :=
          fun hfirst => hrest hfirst c (List.mem_of_getElem? hc) hcn
        have hone : rest.countP (fun b => decide (b.phase.handle? = some n)) = 1 := by
          simpa [hfirst] using h
        rw [ih hone hc hd]

/-! ### What a step leaves to the other callers -/

section Frames

variable [DecidableEq K]

/-- What the callers other than `i` find again. -/
structure Frame (i : Nat) (s t : State K κ) : Prop where
  callers : ∀ j, j ≠ i → t.callers[j]? = s.callers[j]?
  slot : ∀ j c n, j ≠ i → s.callers[j]? = some c → c.phase.active? = some n →
    s.slot? c.key = some n → t.slot? c.key = some n
  holder : ∀ j n, j ≠ i → s.holder? n = some j → t.holder? n = some j
  empty : ∀ j n, j ≠ i → s.holder? n = some j → s.value? n = none → t.value? n = none
  kept : ∀ k v, s.kept? k = some v → t.kept? k = some v

theorem Frame.refl (i : Nat) (s : State K κ) : Frame i s s :=
  ⟨fun _ _ => rfl, fun _ _ _ _ _ _ h => h, fun _ _ _ h => h, fun _ _ _ _ h => h,
    fun _ _ h => h⟩

theorem Frame.setPhase (h : Frame i s t) (p : Phase κ) : Frame i s (t.setPhase i p) where
  callers j hj := (callers_setPhase_of_ne hj p).trans (h.callers j hj)
  slot := h.slot
  holder := h.holder
  empty := h.empty
  kept := h.kept

theorem frame_startRun (i : Nat) (s : State K κ) : Frame i s (s.startRun i) where
  callers _ hj := callers_startRun_of_ne hj
  slot _ _ _ _ _ _ h := h
  holder _ _ _ h := h
  empty _ _ _ _ h := h
  kept _ _ h := h

theorem frame_addSlot {key : K} (hkey : s.slot? key = none) (i : Nat) :
    Frame i s (s.addSlot key) := by
  have hslot (k : K) (n : Nat) (h : s.slot? k = some n) : (s.addSlot key).slot? k = some n := by
    have hk : k ≠ key := by
      rintro rfl
      rw [hkey] at h
      cases h
    rw [slot?_addSlot hkey, if_neg hk, h]
  exact {
    callers := fun _ _ => rfl
    slot := fun _ _ _ _ _ _ h => hslot _ _ h
    holder := fun _ _ _ h => (holder?_addSlot key).trans h
    empty := fun _ _ _ _ h => (value?_addSlot key).trans h
    kept := fun _ _ h => (kept?_addSlot hkey).trans h }

/-- Taking a free lock, or giving it back. -/
theorem frame_setHolder (hfree : ∀ j, j ≠ i → s.holder? n ≠ some j) (o : Option Nat) :
    Frame i s (s.setSlot n fun slot => { slot with holder := o }) where
  callers _ _ := rfl
  slot _ _ _ _ _ _ h := h
  holder j m hj h := by
    have hm : m ≠ n := by
      rintro rfl
      exact hfree j hj h
    rw [holder?_setSlot_of_ne hm, h]
  empty _ _ _ _ h := (value?_setHolder o).trans h
  kept _ _ h := (kept?_setHolder o).trans h

/-- Keeping a value in an empty slot whose lock is held. -/
theorem frame_setValue (hlock : s.holder? n = some i) (hempty : s.value? n = none)
    (v : Option (Made κ)) : Frame i s (s.setSlot n fun slot => { slot with value := v }) where
  callers _ _ := rfl
  slot _ _ _ _ _ _ h := h
  holder _ _ _ h := (holder?_setValue v).trans h
  empty j m hj h h' := by
    have hm : m ≠ n := by
      rintro rfl
      exact hj (Option.some.inj (h.symm.trans hlock))
    rw [value?_setSlot_of_ne hm, h']
  kept k w h := by
    obtain ⟨m, hm, hw⟩ := kept?_eq_some.mp h
    have hne : m ≠ n := by
      rintro rfl
      rw [hempty] at hw
      cases hw
    rw [kept?_of_slot? ((slot?_setSlot _).trans hm), value?_setSlot_of_ne hne, hw]

/-- Nobody else has a handle to a slot that is taken out of the table. -/
theorem frame_discardUnused {c : Caller K κ} (hc : s.callers[i]? = some c)
    (hhandle : c.phase.handle? = some n) : Frame i s (s.discardUnused c.key n) := by
  by_cases hunused : s.Unused c.key n
  · have ⟨hslot, hone, _⟩ := hunused
    exact {
      callers := fun _ _ => by rw [callers_discardUnused]
      slot := by
        intro j d m hj hd hactive h
        have hk : d.key ≠ c.key := by
          intro hk
          have hm : m = n := Option.some.inj ((h.symm.trans (congrArg s.slot? hk)).trans hslot)
          have hhandle' : d.phase.handle? = some n := hm ▸ Phase.handle?_of_active? hactive
          exact hj (eq_of_handles_eq_one hone hd hc hhandle' hhandle)
        rw [slot?_discardUnused hunused, if_neg hk, h]
      holder := fun _ _ _ h => holder?_discardUnused.trans h
      empty := fun _ _ _ _ h => value?_discardUnused.trans h
      kept := fun _ _ h => kept?_discardUnused.trans h }
  · rw [discardUnused_of_used hunused]
    exact .refl i s

end Frames

/-! ### The steps -/

section Steps

variable [DecidableEq K] [DecidableEq κ] {u : State K κ} {c : Caller K κ} {q : Phase κ}
  {succeeds : Bool}

/-- A step takes caller `i` to a phase, after a change of the state. -/
inductive Effect (s : State K κ) (i : Nat) (c : Caller K κ) (succeeds : Bool) :
    State K κ → Phase κ → Prop
  | find {n : Nat} (phase : c.phase = .start ∨ c.phase = .missed)
    (slot : s.slot? c.key = some n) : Effect s i c succeeds s (.found n)
  | miss (phase : c.phase = .start) (slot : s.slot? c.key = none) : Effect s i c succeeds s .missed
  | create (phase : c.phase = .missed) (slot : s.slot? c.key = none) :
    Effect s i c succeeds (s.addSlot c.key) (.found s.slots.length)
  | look {n : Nat} {v : Made κ} (phase : c.phase = .found n) (value : s.value? n = some v) :
    Effect s i c succeeds s (.leaving n (answer c v))
  | queue {n : Nat} (phase : c.phase = .found n) (value : s.value? n = none) :
    Effect s i c succeeds s (.waiting n)
  | acquire {n : Nat} (phase : c.phase = .waiting n) (free : s.holder? n = none) :
    Effect s i c succeeds (s.setSlot n fun slot => { slot with holder := some i }) (.locked n)
  | lookAgain {n : Nat} {v : Made κ} (phase : c.phase = .locked n) (value : s.value? n = some v) :
    Effect s i c succeeds s (.releasing n (answer c v))
  | prepare {n : Nat} (phase : c.phase = .locked n) (value : s.value? n = none) :
    Effect s i c succeeds s (.ready n)
  | begin {n : Nat} (phase : c.phase = .ready n) :
    Effect s i c succeeds (s.startRun i) (.running n)
  | succeed {n : Nat} (phase : c.phase = .running n) (ends : succeeds = true) :
    Effect s i c succeeds s (.succeeded n)
  | fail {n : Nat} (phase : c.phase = .running n) (ends : succeeds = false) :
    Effect s i c succeeds s (.broken n)
  | publish {n : Nat} {v : Made κ} (phase : c.phase = .succeeded n)
    (value : v = (s.value? n).getD ⟨c.run.getD 0, c.wanted⟩) :
    Effect s i c succeeds (s.setSlot n fun slot => { slot with value := some v })
      (.releasing n (answer c v))
  | discard {n : Nat} (phase : c.phase = .broken n) :
    Effect s i c succeeds (s.discardUnused c.key n) (.releasing n .failed)
  | release {n : Nat} {a : Answer κ} (phase : c.phase = .releasing n a) :
    Effect s i c succeeds (s.setSlot n fun slot => { slot with holder := none }) (.leaving n a)
  | leave {n : Nat} {a : Answer κ} (phase : c.phase = .leaving n a) :
    Effect s i c succeeds s (.returned a)

theorem effect_of_advance (h : s.advance i succeeds = some t) :
    ∃ c u q, s.callers[i]? = some c ∧ Effect s i c succeeds u q ∧ t = u.setPhase i q := by
  unfold advance at h
  cases hc : s.callers[i]? with
  | none =>
    rw [hc] at h
    cases h
  | some c =>
    have effect (u : State K κ) (q : Phase κ) (heffect : Effect s i c succeeds u q)
        (ht : some (u.setPhase i q) = some t) :
        ∃ d u q, some c = some d ∧ Effect s i d succeeds u q ∧ t = u.setPhase i q :=
      ⟨c, u, q, rfl, heffect, (Option.some.inj ht).symm⟩
    rw [hc] at h
    dsimp only at h
    cases hphase : c.phase with
    | start =>
      rw [hphase] at h
      cases hslot : s.slot? c.key with
      | none =>
        rw [hslot] at h
        exact effect _ _ (.miss hphase hslot) h
      | some n =>
        rw [hslot] at h
        exact effect _ _ (.find (Or.inl hphase) hslot) h
    | missed =>
      rw [hphase] at h
      cases hslot : s.slot? c.key with
      | none =>
        rw [hslot] at h
        exact effect _ _ (.create hphase hslot) h
      | some n =>
        rw [hslot] at h
        exact effect _ _ (.find (Or.inr hphase) hslot) h
    | found n =>
      rw [hphase] at h
      cases hvalue : s.value? n with
      | none =>
        simp only [hvalue] at h
        exact effect _ _ (.queue hphase hvalue) h
      | some v =>
        simp only [hvalue] at h
        exact effect _ _ (.look hphase hvalue) h
    | waiting n =>
      rw [hphase] at h
      cases hfree : s.holder? n with
      | none =>
        simp only [hfree] at h
        exact effect _ _ (.acquire hphase hfree) h
      | some j =>
        simp only [hfree] at h
        cases h
    | locked n =>
      rw [hphase] at h
      cases hvalue : s.value? n with
      | none =>
        simp only [hvalue] at h
        exact effect _ _ (.prepare hphase hvalue) h
      | some v =>
        simp only [hvalue] at h
        exact effect _ _ (.lookAgain hphase hvalue) h
    | ready n =>
      rw [hphase] at h
      exact effect _ _ (.begin hphase) h
    | running n =>
      rw [hphase] at h
      cases succeeds with
      | false => exact effect _ _ (.fail hphase rfl) h
      | true => exact effect _ _ (.succeed hphase rfl) h
    | succeeded n =>
      rw [hphase] at h
      exact effect _ _ (.publish hphase rfl) h
    | broken n =>
      rw [hphase] at h
      exact effect _ _ (.discard hphase) h
    | releasing n a =>
      rw [hphase] at h
      exact effect _ _ (.release hphase) h
    | leaving n a =>
      rw [hphase] at h
      exact effect _ _ (.leave hphase) h
    | returned a =>
      rw [hphase] at h
      cases h

end Steps

end State

end RecordMapping.Interleaving
