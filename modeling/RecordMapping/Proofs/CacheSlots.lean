import RecordMapping.Cache
import RecordMapping.Proofs.Projection

/-!
# RecordMapping.Proofs.CacheSlots — what each step of a call does to the slots of a cache

One equation for each operation through `slot?` and `get?`: reserving shows no new value, and
publishing changes the slot of its own key alone.  A call is then a hit, which answers with what is
kept, or a run of the maker, whose value is kept from then on.
-/

namespace RecordMapping.Cache

variable {τ κ : Type} {El : κ → Type}

/-- An entry of the type that is asked for is given as it is. -/
theorem castEntry_self [DecidableEq κ] {t : κ} (key : Fingerprint τ) (serial : Nat) (v : El t) :
    castEntry t key ⟨t, serial, v⟩ = .ok ⟨serial, v⟩ := by
  unfold castEntry CacheEntry.cast?
  rw [dif_pos rfl]

variable [DecidableEq τ] {c : Cache τ El} {key : Fingerprint τ}

/-! ### Reserving -/

theorem slot?_reserve_of_ne {k : Fingerprint τ} (hk : k ≠ key) :
    (c.reserve key).slot? k = c.slot? k := by
  unfold reserve slot?
  split
  · rfl
  · have hnone : [(key, none)].find?
        (fun s : Fingerprint τ × Option (CacheEntry El) => decide (s.1 = k)) = none := by
      simp [hk.symm]
    rw [List.find?_append, hnone, Option.or_none]

theorem slot?_reserve_self (c : Cache τ El) (key : Fingerprint τ) :
    (c.reserve key).slot? key = some ((c.slot? key).getD none) := by
  unfold reserve
  split
  · rename_i h
    obtain ⟨s, hs⟩ := Option.isSome_iff_exists.mp h
    rw [hs, Option.getD_some]
  · rename_i h
    have hnone : c.slot? key = none := by simpa using h
    rw [hnone, Option.getD_none]
    unfold slot? at hnone ⊢
    rw [List.find?_append, Option.map_eq_none_iff.mp hnone]
    simp

@[simp] theorem get?_reserve (c : Cache τ El) (key k : Fingerprint τ) :
    (c.reserve key).get? k = c.get? k := by
  unfold get?
  by_cases hk : k = key
  · subst hk
    rw [slot?_reserve_self]
    cases c.slot? k <;> rfl
  · rw [slot?_reserve_of_ne hk]

/-! ### Publishing -/

theorem slot?_publish (c : Cache τ El) (key k : Fingerprint τ) (e : CacheEntry El) :
    (c.publish key e).slot? k = (c.slot? k).map fun old => if k = key then some e else old := by
  unfold publish slot?
  rw [List.find?_map]
  have hkey : (fun s : Fingerprint τ × Option (CacheEntry El) => decide (s.1 = k)) ∘
      (fun s => if s.1 = key then (s.1, some e) else s) = fun s => decide (s.1 = k) := by
    funext s
    simp only [Function.comp]
    split <;> rfl
  rw [hkey]
  cases hfound : c.slots.find? fun s => decide (s.1 = k) with
  | none => rfl
  | some s =>
    obtain rfl : s.1 = k := by simpa using List.find?_some hfound
    simp only [Option.map_some]
    split <;> rfl

/-- A reserved key holds what is published under it. -/
theorem get?_publish_reserve (c : Cache τ El) (key k : Fingerprint τ) (e : CacheEntry El) :
    ((c.reserve key).publish key e).get? k = if k = key then some e else c.get? k := by
  by_cases hk : k = key
  · subst hk
    rw [get?, slot?_publish, slot?_reserve_self, if_pos rfl, Option.map_some, if_pos rfl]
    rfl
  · rw [get?, slot?_publish, slot?_reserve_of_ne hk, if_neg hk, get?]
    simp only [if_neg hk, Option.map_id']

/-! ### Calls -/

@[simp] theorem compilations_reserve (c : Cache τ El) (key : Fingerprint τ) :
    (c.reserve key).compilations = c.compilations := by
  unfold reserve
  split <;> rfl

/-- The cache with the value that a call made for its key. -/
def keep (c : Cache τ El) (key : Fingerprint τ) (t : κ) (v : El t) : Cache τ El :=
  { c.reserve key with compilations := c.compilations + 1 }.publish key ⟨t, c.compilations, v⟩

theorem get?_keep (c : Cache τ El) (key k : Fingerprint τ) (t : κ) (v : El t) :
    (c.keep key t v).get? k = if k = key then some ⟨t, c.compilations, v⟩ else c.get? k :=
  c.get?_publish_reserve key k ⟨t, c.compilations, v⟩

section Calls

variable [DecidableEq κ] {t : κ} {make : Nat → Logged (Except String (El t))}

/-- A call for a key that has a value. -/
theorem getOrMake_of_entry {e : CacheEntry El} (h : c.get? key = some e) :
    (c.getOrMake t key make).value = ⟨castEntry t key e, c.reserve key, false⟩ := by
  simp only [getOrMake, get?_reserve, h]
  rfl

/-- A call that makes the value of its key. -/
theorem getOrMake_of_made (h : c.get? key = none) {v : El t}
    (hmake : (make c.compilations).value = .ok v) :
    (c.getOrMake t key make).value = ⟨.ok ⟨c.compilations, v⟩, c.keep key t v, true⟩ := by
  simp only [getOrMake, get?_reserve, h, compilations_reserve, Logged.value_bind, hmake]
  rfl

end Calls

/-! ### Calls for projectors -/

section Fetching

variable {ρ : Type} [DecidableEq ρ] [TargetFamily τ] {Other : ρ → Type}
  {c : Cache τ (@EntryType.Carrier τ ρ _ Other)} {t : τ} {s : RuleSet (TargetFamily.State t)}
  {command : String}

theorem fetch_of_entry {e : CacheEntry (@EntryType.Carrier τ ρ _ Other)}
    (h : c.get? (.ofRuleSet t s command) = some e) :
    (c.fetch t s command).value.answer =
        castEntry (.projector t) (.ofRuleSet t s command) e ∧
      ∀ k, (c.fetch t s command).value.cache.get? k = c.get? k := by
  rw [fetch, getOrMake_of_entry h]
  exact ⟨rfl, c.get?_reserve (.ofRuleSet t s command)⟩

/-- Compiling under a rule set's own fingerprint succeeds, so a call without a value makes one. -/
theorem fetch_of_none (h : c.get? (.ofRuleSet t s command) = none) :
    ∃ p, (Projector.compile c.compilations t s (.ofRuleSet t s command)).value = .ok p ∧
      (c.fetch t s command).value.answer = .ok ⟨c.compilations, p⟩ ∧
      ∀ k, (c.fetch t s command).value.cache.get? k =
        if k = .ofRuleSet t s command then some ⟨.projector t, c.compilations, p⟩
        else c.get? k := by
  have htarget : (Fingerprint.ofRuleSet t s command).target = t := rfl
  have hcompile := Projector.compile_of_target c.compilations s htarget
  refine ⟨_, hcompile, ?_⟩
  rw [fetch, getOrMake_of_made h]
  · exact ⟨rfl, fun k => c.get?_keep (.ofRuleSet t s command) k (.projector t) _⟩
  · rw [Logged.value_bind, hcompile]
    rfl

/-- A call makes a projector exactly if there is no value for its key. -/
theorem ran_fetch :
    (c.fetch t s command).value.ran = (c.get? (.ofRuleSet t s command)).isNone := by
  cases h : c.get? (.ofRuleSet t s command) with
  | some e =>
    rw [fetch, getOrMake_of_entry h]
    rfl
  | none =>
    have htarget : (Fingerprint.ofRuleSet t s command).target = t := rfl
    rw [fetch, getOrMake_of_made h]
    · rfl
    · rw [Logged.value_bind, Projector.compile_of_target c.compilations s htarget]
      rfl

/-- A call leaves the values under other keys as they are, and its own key has one after it. -/
theorem get?_fetch (k : Fingerprint τ) :
    ((c.fetch t s command).value.cache.get? k).isSome =
      (decide (k = .ofRuleSet t s command) || (c.get? k).isSome) := by
  cases h : c.get? (.ofRuleSet t s command) with
  | some e =>
    rw [(fetch_of_entry h).2 k]
    by_cases hk : k = .ofRuleSet t s command
    · simp [hk, h]
    · simp [hk]
  | none =>
    obtain ⟨p, -, -, hcache⟩ := fetch_of_none h
    rw [hcache k]
    by_cases hk : k = .ofRuleSet t s command <;> simp [hk]

end Fetching

end RecordMapping.Cache
