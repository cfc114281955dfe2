import RecordMapping.Proofs.CacheSlots
import Mathlib.Data.Finmap
import Mathlib.Data.List.Induction

/-!
# RecordMapping.Proofs.CacheContents — a cache is a finite map

Between calls a cache is `Settled`: no slot is empty and no key has two.  A call on a settled cache
finds the value of its key, or runs its maker and appends a slot, or runs its maker and leaves the
slots as they were.  So the cache does what `Contents` does, a finite map from fingerprints to values
of some type, after any calls: the same answers, the same events, the same runs.
-/

namespace RecordMapping

/-- A call for the value of a key as one of a type. -/
structure Cache.Call (τ : Type) {κ : Type} (El : κ → Type) where
  type : κ
  key : Fingerprint τ
  make : Nat → Logged (Except String (El type))

variable {τ κ : Type} {El : κ → Type}

/-! ### Finite maps of values -/

/-- How a call ends: its key has a value of its type, or of another, or its maker runs. -/
inductive Cache.Ending
  | present
  | otherType
  | made
  | failed
  deriving DecidableEq, Repr

/-- Did the maker run? -/
def Cache.Ending.ran : Cache.Ending → Bool
  | present | otherType => false
  | made | failed => true

/-- The values by key, and how the calls so far ended. -/
structure Contents (τ : Type) {κ : Type} (El : κ → Type) where
  entries : Finmap fun _ : Fingerprint τ => CacheEntry El
  endings : List Cache.Ending

namespace Contents

open Cache (Call Ending)

def empty : Contents τ El := ⟨∅, []⟩

/-- The number of runs. -/
def runs (m : Contents τ El) : Nat := m.endings.countP Ending.ran

variable [DecidableEq τ] [DecidableEq κ]

/-- A call on a finite map: what is there is given if it is of the right type; what is not there is
made, and inserted if making it succeeds. -/
def serve (m : Contents τ El) (call : Call τ El) :
    Logged (Except MappingError (Shared (El call.type)) × Ending × Contents τ El) :=
  match m.entries.lookup call.key with
  | some e =>
    if h : e.type = call.type then
      ⟨[], .ok ⟨e.serial, h ▸ e.value⟩, .present, ⟨m.entries, m.endings ++ [.present]⟩⟩
    else
      ⟨[], .error (.typeMismatch call.key.hex), .otherType,
        ⟨m.entries, m.endings ++ [.otherType]⟩⟩
  | none =>
    let run := call.make m.runs
    match run.value with
    | .ok v =>
      ⟨run.events ++ [.projectorCached call.key.hex call.key.typeName], .ok ⟨m.runs, v⟩, .made,
        ⟨m.entries.insert call.key ⟨call.type, m.runs, v⟩, m.endings ++ [.made]⟩⟩
    | .error cause =>
      ⟨run.events ++ [.compilationFailed call.key.hex call.key.typeName cause],
        .error (.compilation call.key.hex call.key.typeName cause), .failed,
        ⟨m.entries, m.endings ++ [.failed]⟩⟩

theorem endings_serve (m : Contents τ El) (call : Call τ El) :
    (m.serve call).value.2.2.endings = m.endings ++ [(m.serve call).value.2.1] := by
  unfold serve
  split
  · split <;> rfl
  · dsimp only
    split <;> rfl

/-- An empty map after calls. -/
def after (calls : List (Call τ El)) : Contents τ El :=
  calls.foldl (fun m call => (m.serve call).value.2.2) empty

theorem after_concat (calls : List (Call τ El)) (call : Call τ El) :
    after (calls ++ [call]) = ((after calls).serve call).value.2.2 := by
  simp [after, List.foldl_append]

end Contents

namespace Cache

theorem castEntry_eq [DecidableEq κ] (t : κ) (key : Fingerprint τ) (e : CacheEntry El) :
    castEntry t key e =
      if h : e.type = t then .ok ⟨e.serial, h ▸ e.value⟩ else .error (.typeMismatch key.hex) := by
  unfold castEntry CacheEntry.cast?
  by_cases h : e.type = t
  · rw [dif_pos h, dif_pos h]
  · rw [dif_neg h, dif_neg h]

/-! ### Settled caches -/

/-- No slot is empty, and no key has two. -/
structure Settled (c : Cache τ El) : Prop where
  full : ∀ s ∈ c.slots, s.2.isSome = true
  nodup : (c.slots.map Prod.fst).Nodup

variable [DecidableEq τ] {c : Cache τ El} {key : Fingerprint τ}

theorem slot?_eq_none_iff : c.slot? key = none ↔ ∀ s ∈ c.slots, s.1 ≠ key := by
  simp [slot?]

/-- Looking among the keys with the same digest alone, by comparing whole fingerprints, finds the
same slot. -/
theorem slot?_eq_of_digest (c : Cache τ El) (key : Fingerprint τ) :
    c.slot? key = ((c.slots.filter fun s => decide (s.1.digest = key.digest)).find? fun s =>
      s.1.agrees key).map Prod.snd := by
  have hagrees (s : Fingerprint τ × Option (CacheEntry El)) :
      decide (s.1 = key) = decide (decide (s.1.digest = key.digest) = true ∧ s.1.agrees key = true) := by
    rw [decide_eq_decide, Fingerprint.agrees_iff_eq]
    constructor
    · rintro rfl
      exact ⟨decide_eq_true rfl, rfl⟩
    · exact And.right
  unfold slot?
  rw [List.find?_filter, funext hagrees]

theorem Settled.slot?_eq_none (h : c.Settled) (hentry : c.get? key = none) :
    c.slot? key = none := by
  cases hslot : c.slot? key with
  | none => rfl
  | some slot =>
    obtain ⟨s, hs, rfl⟩ := Option.map_eq_some_iff.mp hslot
    have hfull : s.2.isSome = true := h.full s (List.mem_of_find?_eq_some hs)
    rw [get?, hslot, Option.join_some] at hentry
    rw [hentry] at hfull
    cases hfull

theorem reserve_of_entry {e : CacheEntry El} (hentry : c.get? key = some e) :
    c.reserve key = c := by
  have hslot : c.slot? key = some (some e) := Option.join_eq_some_iff.mp hentry
  rw [reserve, hslot]
  rfl

theorem reserve_of_none (hslot : c.slot? key = none) :
    c.reserve key = { c with slots := c.slots ++ [(key, none)] } := by
  rw [reserve, hslot]
  rfl

theorem keep_of_none (hslot : c.slot? key = none) (t : κ) (v : El t) :
    c.keep key t v =
      ⟨c.slots ++ [(key, some ⟨t, c.compilations, v⟩)], c.compilations + 1⟩ := by
  have hothers : c.slots.map (fun s =>
      if s.1 = key then (s.1, some ⟨t, c.compilations, v⟩) else s) = c.slots := by
    refine List.map_congr_left ?_ |>.trans (List.map_id _)
    intro s hs
    exact if_neg (slot?_eq_none_iff.mp hslot s hs)
  rw [keep, reserve_of_none hslot, publish, List.map_append, hothers]
  simp

theorem discard_of_none (hslot : c.slot? key = none) (n : Nat) :
    discard { c.reserve key with compilations := n } key = ⟨c.slots, n⟩ := by
  have hothers : c.slots.filter (fun s => !(decide (s.1 = key) && s.2.isNone)) = c.slots := by
    refine List.filter_eq_self.mpr ?_
    intro s hs
    rw [decide_eq_false (slot?_eq_none_iff.mp hslot s hs)]
    rfl
  rw [reserve_of_none hslot, discard]
  dsimp only
  rw [List.filter_append, hothers]
  simp

/-! ### One call -/

section Calls

variable [DecidableEq κ]

def serve (c : Cache τ El) (call : Call τ El) : Logged (Fetched τ El call.type) :=
  c.getOrMake call.type call.key call.make

variable {call : Call τ El}

theorem serve_of_entry {e : CacheEntry El} (hentry : c.get? call.key = some e) :
    c.serve call = ⟨[], castEntry call.type call.key e, c, false⟩ := by
  simp only [serve, getOrMake, hentry, reserve_of_entry hentry]
  rfl

section Made

variable {v : El call.type}

theorem value_serve_of_made (hentry : c.get? call.key = none) (hslot : c.slot? call.key = none)
    (hmake : (call.make c.compilations).value = .ok v) :
    (c.serve call).value = ⟨.ok ⟨c.compilations, v⟩,
      ⟨c.slots ++ [(call.key, some ⟨call.type, c.compilations, v⟩)], c.compilations + 1⟩, true⟩ := by
  rw [serve, getOrMake_of_made hentry hmake, keep_of_none hslot]

theorem events_serve_of_made (hentry : c.get? call.key = none)
    (hmake : (call.make c.compilations).value = .ok v) :
    (c.serve call).events = (call.make c.compilations).events ++
      [.projectorCached call.key.hex call.key.typeName] := by
  simp only [serve, getOrMake, get?_reserve, hentry, compilations_reserve, Logged.events_bind,
    hmake]
  rfl

end Made

section Failed

variable {cause : String}

theorem value_serve_of_failed (hentry : c.get? call.key = none) (hslot : c.slot? call.key = none)
    (hmake : (call.make c.compilations).value = .error cause) :
    (c.serve call).value = ⟨.error (.compilation call.key.hex call.key.typeName cause),
      ⟨c.slots, c.compilations + 1⟩, true⟩ := by
  rw [← discard_of_none hslot]
  simp only [serve, getOrMake, get?_reserve, hentry, compilations_reserve, Logged.value_bind,
    hmake]
  rfl

theorem events_serve_of_failed (hentry : c.get? call.key = none)
    (hmake : (call.make c.compilations).value = .error cause) :
    (c.serve call).events = (call.make c.compilations).events ++
      [.compilationFailed call.key.hex call.key.typeName cause] := by
  simp only [serve, getOrMake, get?_reserve, hentry, compilations_reserve, Logged.events_bind,
    hmake]
  rfl

end Failed

/-- Only a call that makes a value changes the slots. -/
theorem Settled.slots_serve (h : c.Settled) (call : Call τ El) :
    ((c.serve call).value.ran = false → (c.serve call).value.cache = c) ∧
      ∀ e, (c.serve call).value.answer = .error e → (c.serve call).value.cache.slots = c.slots := by
  cases hentry : c.get? call.key with
  | some e =>
    rw [serve_of_entry hentry]
    exact ⟨fun _ => rfl, fun _ _ => rfl⟩
  | none =>
    have hslot := h.slot?_eq_none hentry
    cases hmake : (call.make c.compilations).value with
    | error cause =>
      rw [value_serve_of_failed hentry hslot hmake]
      constructor
      · rintro ⟨⟩
      · intro e he
        rfl
    | ok v =>
      rw [value_serve_of_made hentry hslot hmake]
      constructor
      · rintro ⟨⟩
      · rintro e ⟨⟩

end Calls

/-! ### The cache and the finite map -/

/-- A settled cache with the values of a finite map and a count of its runs. -/
structure Represents (c : Cache τ El) (m : Contents τ El) : Prop where
  settled : c.Settled
  entries : ∀ key, c.get? key = m.entries.lookup key
  size : c.size = m.endings.count .made
  card : m.entries.keys.card = m.endings.count .made
  compilations : c.compilations = m.runs

theorem represents_empty : Represents (.empty : Cache τ El) .empty where
  settled := ⟨by simp [empty], List.nodup_nil⟩
  entries _ := rfl
  size := rfl
  card := rfl
  compilations := rfl

section Steps

variable {m : Contents τ El}

/-- A call that makes no value leaves slots and entries alone. -/
theorem Represents.unchanged (h : Represents c m) {e : Ending} (he : e ≠ .made) {n : Nat}
    (hn : n = c.compilations + if e.ran then 1 else 0) :
    Represents ⟨c.slots, n⟩ ⟨m.entries, m.endings ++ [e]⟩ where
  settled := ⟨h.settled.full, h.settled.nodup⟩
  entries := h.entries
  size := by
    rw [List.count_append, List.count_singleton, beq_false_of_ne he]
    exact h.size
  card := by
    rw [List.count_append, List.count_singleton, beq_false_of_ne he]
    exact h.card
  compilations := by
    rw [hn, h.compilations, Contents.runs, Contents.runs, List.countP_append, List.countP_singleton]

/-- A call that makes a value adds a slot and an entry. -/
theorem Represents.added (h : Represents c m) (hslot : c.slot? key = none) (t : κ) (v : El t) :
    Represents ⟨c.slots ++ [(key, some ⟨t, c.compilations, v⟩)], c.compilations + 1⟩
      ⟨m.entries.insert key ⟨t, c.compilations, v⟩, m.endings ++ [.made]⟩ where
  settled := by
    constructor
    · rw [List.forall_mem_append]
      exact ⟨h.settled.full, by simp⟩
    · rw [List.map_append, List.map_singleton, List.nodup_append]
      refine ⟨h.settled.nodup, List.nodup_singleton key, ?_⟩
      rintro k hk _ hkey rfl
      obtain rfl := List.mem_singleton.mp hkey
      obtain ⟨s, hs, hsk⟩ := List.mem_map.mp hk
      exact slot?_eq_none_iff.mp hslot s hs hsk
  entries k := by
    rw [← keep_of_none hslot, get?_keep, h.entries]
    split
    · rename_i hk
      rw [hk, Finmap.lookup_insert]
    · rename_i hk
      rw [Finmap.lookup_insert_of_ne _ hk]
  size := by
    have hsize : c.slots.countP (fun s => s.2.isSome) = m.endings.count .made := h.size
    rw [Cache.size, List.countP_append, hsize, List.count_append]
    rfl
  card := by
    have hnew : key ∉ m.entries.keys := by
      rw [Finmap.mem_keys, ← Finmap.lookup_eq_none, ← h.entries key, get?, hslot]
      rfl
    have hkeys (e : CacheEntry El) : (m.entries.insert key e).keys = insert key m.entries.keys := by
      ext k
      simp [Finmap.mem_keys]
    rw [hkeys, Finset.card_insert_of_notMem hnew, h.card, List.count_append]
    rfl
  compilations := by
    rw [h.compilations, Contents.runs, Contents.runs, List.countP_append]
    rfl

variable [DecidableEq κ]

theorem Represents.serve (h : Represents c m) (call : Call τ El) :
    (c.serve call).events = (m.serve call).events ∧
      (c.serve call).value.answer = (m.serve call).value.1 ∧
      (c.serve call).value.ran = (m.serve call).value.2.1.ran ∧
      Represents (c.serve call).value.cache (m.serve call).value.2.2 := by
  have hlookup := h.entries call.key
  cases hentry : c.get? call.key with
  | some e =>
    rw [hentry] at hlookup
    simp only [serve_of_entry hentry, castEntry_eq, Contents.serve, ← hlookup]
    split
    · exact ⟨rfl, rfl, rfl, h.unchanged (by decide) rfl⟩
    · exact ⟨rfl, rfl, rfl, h.unchanged (by decide) rfl⟩
  | none =>
    rw [hentry] at hlookup
    have hslot := h.settled.slot?_eq_none hentry
    cases hmake : (call.make c.compilations).value with
    | error cause =>
      rw [events_serve_of_failed hentry hmake, value_serve_of_failed hentry hslot hmake]
      simp only [Contents.serve, ← hlookup, ← h.compilations, hmake]
      exact ⟨trivial, trivial, rfl, h.unchanged (by decide) rfl⟩
    | ok v =>
      rw [events_serve_of_made hentry hmake, value_serve_of_made hentry hslot hmake]
      simp only [Contents.serve, ← hlookup, ← h.compilations, hmake]
      exact ⟨trivial, trivial, rfl, h.added hslot call.type v⟩

end Steps

/-! ### Any calls -/

variable [DecidableEq κ]

/-- An empty cache after calls. -/
def after (calls : List (Call τ El)) : Cache τ El :=
  calls.foldl (fun c call => (c.serve call).value.cache) .empty

theorem after_concat (calls : List (Call τ El)) (call : Call τ El) :
    after (calls ++ [call]) = ((after calls).serve call).value.cache := by
  simp [after, List.foldl_append]

theorem represents_after (calls : List (Call τ El)) : Represents (after calls) (.after calls) := by
  induction calls using List.reverseRecOn with
  | nil => exact represents_empty
  | append_singleton calls call ih =>
    rw [after_concat, Contents.after_concat]
    exact (ih.serve call).2.2.2

theorem size_after_le (calls more : List (Call τ El)) :
    (after calls).size ≤ (after (calls ++ more)).size := by
  induction more using List.reverseRecOn with
  | nil => rw [List.append_nil]
  | append_singleton more call ih =>
    have hbefore := represents_after (calls ++ more)
    have hafter := (hbefore.serve call).2.2.2
    calc (after calls).size
        ≤ (after (calls ++ more)).size := ih
      _ = (Contents.after (calls ++ more)).endings.count .made := hbefore.size
      _ ≤ ((Contents.after (calls ++ more)).serve call).value.2.2.endings.count .made := by
        rw [Contents.endings_serve, List.count_append]
        exact Nat.le_add_right _ _
      _ = (after (calls ++ (more ++ [call]))).size := by
        rw [← hafter.size, ← after_concat, List.append_assoc]

/-- After any calls a cache holds what the finite map holds: one value for each key, as many as were
made, and no empty slot; keys may be looked up by digest first.  The next call has the events, the
answer and the run that it has on the finite map; it changes nothing unless its maker runs, and no
slot unless a value is made. -/
theorem after_serves_as_finite_map (calls : List (Call τ El)) :
    (∀ key, (after calls).get? key = (Contents.after calls).entries.lookup key) ∧
      (∀ key, (after calls).slot? key =
        (((after calls).slots.filter fun s => decide (s.1.digest = key.digest)).find? fun s =>
          s.1.agrees key).map Prod.snd) ∧
      (∀ s ∈ (after calls).slots, s.2.isSome = true) ∧
      (after calls).size = (Contents.after calls).entries.keys.card ∧
      (after calls).size = (Contents.after calls).endings.count .made ∧
      (after calls).compilations = (Contents.after calls).runs ∧
      (∀ more, (after calls).size ≤ (after (calls ++ more)).size) ∧
      ∀ call,
        ((after calls).serve call).events = ((Contents.after calls).serve call).events ∧
        ((after calls).serve call).value.answer = ((Contents.after calls).serve call).value.1 ∧
        ((after calls).serve call).value.ran =
          ((Contents.after calls).serve call).value.2.1.ran ∧
        (((after calls).serve call).value.ran = false →
          ((after calls).serve call).value.cache = after calls) ∧
        ∀ e, ((after calls).serve call).value.answer = .error e →
          ((after calls).serve call).value.cache.slots = (after calls).slots := by
  have h := represents_after calls
  refine ⟨h.entries, (after calls).slot?_eq_of_digest, h.settled.full, h.size.trans h.card.symm,
    h.size, h.compilations, size_after_le calls, ?_⟩
  intro call
  obtain ⟨hevents, hanswer, hran, -⟩ := h.serve call
  obtain ⟨hidle, herror⟩ := h.settled.slots_serve call
  exact ⟨hevents, hanswer, hran, hidle, herror⟩

/-- A failure leaves the next call its own run; a value is kept for calls of its own type alone. -/
example :
    let key : Fingerprint Unit := ⟨(), "Order", [], false, "orders"⟩
    let calls : List (Call Unit fun _ : Bool => Nat) :=
      [⟨true, key, fun _ => pure (.error "no")⟩, ⟨true, key, fun _ => pure (.ok 5)⟩,
        ⟨true, key, fun _ => pure (.ok 6)⟩, ⟨false, key, fun _ => pure (.ok 7)⟩]
    (Contents.after calls).endings = [.failed, .made, .present, .otherType] ∧
      (after calls).size = 1 ∧ (after calls).compilations = 2 :=
  ⟨rfl, rfl, rfl⟩

end Cache

end RecordMapping
