import RecordMapping.Stream

/-!
# RecordMapping.Cache — compiled projectors kept for later

A cache maps fingerprints to values of several types; each entry knows the type of its value.  A
value is made at most once as long as making it succeeds; a failure leaves nothing behind.
-/

namespace RecordMapping

/-- A value of the cache together with its number: equal numbers mean the one same value. -/
structure Shared (α : Type) where
  serial : Nat
  value : α

/-- A value with its type, which is one of the types `El`. -/
structure CacheEntry {κ : Type} (El : κ → Type) where
  type : κ
  serial : Nat
  value : El type

/-- The value of an entry as one of type `t`. -/
def CacheEntry.cast? {κ : Type} {El : κ → Type} [DecidableEq κ] (t : κ) (e : CacheEntry El) :
    Option (Shared (El t)) :=
  if h : e.type = t then some ⟨e.serial, h ▸ e.value⟩ else none

/-- A slot is empty from the moment its key is met until its value is there. -/
structure Cache (τ : Type) {κ : Type} (El : κ → Type) where
  slots : List (Fingerprint τ × Option (CacheEntry El))
  compilations : Nat

namespace Cache

variable {τ κ : Type} {El : κ → Type}

def empty : Cache τ El := ⟨[], 0⟩

section Slots

variable [DecidableEq τ]

def slot? (c : Cache τ El) (key : Fingerprint τ) : Option (Option (CacheEntry El)) :=
  (c.slots.find? fun s => decide (s.1 = key)).map Prod.snd

/-- The value kept under a key. -/
def get? (c : Cache τ El) (key : Fingerprint τ) : Option (CacheEntry El) :=
  (c.slot? key).join

/-- Gives the key an empty slot unless it has one. -/
def reserve (c : Cache τ El) (key : Fingerprint τ) : Cache τ El :=
  if (c.slot? key).isSome then c else { c with slots := c.slots ++ [(key, none)] }

/-- Puts a value into the slot of a key. -/
def publish (c : Cache τ El) (key : Fingerprint τ) (e : CacheEntry El) : Cache τ El :=
  { c with slots := c.slots.map fun s => if s.1 = key then (s.1, some e) else s }

/-- Takes the slot of a key away if it is empty. -/
def discard (c : Cache τ El) (key : Fingerprint τ) : Cache τ El :=
  { c with slots := c.slots.filter fun s => !(decide (s.1 = key) && s.2.isNone) }

end Slots

/-- The number of values kept. -/
def size (c : Cache τ El) : Nat := c.slots.countP fun s => s.2.isSome

def isEmpty (c : Cache τ El) : Bool := c.size == 0

def castEntry [DecidableEq κ] (t : κ) (key : Fingerprint τ) (e : CacheEntry El) :
    Except MappingError (Shared (El t)) :=
  match e.cast? t with
  | some v => .ok v
  | none => .error (.typeMismatch key.hex)

/-- What a call on a cache gives: the answer, the cache after it, and whether a value was made. -/
structure Fetched (τ : Type) {κ : Type} (El : κ → Type) (t : κ) where
  answer : Except MappingError (Shared (El t))
  cache : Cache τ El
  ran : Bool

/-- The value kept under `key` as one of type `t`, or else the one that `make` makes.  `make` is
given the number of its run; a failure is a message. -/
def getOrMake [DecidableEq τ] [DecidableEq κ] (c : Cache τ El) (t : κ) (key : Fingerprint τ)
    (make : Nat → Logged (Except String (El t))) : Logged (Fetched τ El t) :=
  let reserved := c.reserve key
  match reserved.get? key with
  | some e => pure ⟨castEntry t key e, reserved, false⟩
  | none => do
    let started := { reserved with compilations := reserved.compilations + 1 }
    match ← make reserved.compilations with
    | .ok v =>
      .emit (.projectorCached key.hex key.typeName)
      return ⟨.ok ⟨reserved.compilations, v⟩,
        started.publish key ⟨t, reserved.compilations, v⟩, true⟩
    | .error cause =>
      .emit (.compilationFailed key.hex key.typeName cause)
      return ⟨.error (.compilation key.hex key.typeName cause), started.discard key, true⟩

end Cache

/-! ### Projectors in a cache -/

/-- A family of target types, each with a tag; different tags are different types. -/
class TargetFamily (τ : Type) where
  State : τ → Type
  target : (t : τ) → Target (State t)

instance {τ : Type} [TargetFamily τ] (t : τ) : Target (TargetFamily.State t) :=
  TargetFamily.target t

/-- What a cache may hold: the projectors of a target type, or values of another type. -/
inductive EntryType (τ ρ : Type)
  | projector (t : τ)
  | other (r : ρ)
  deriving DecidableEq

/-- The values of an entry type. -/
def EntryType.Carrier {τ ρ : Type} [TargetFamily τ] (Other : ρ → Type) : EntryType τ ρ → Type
  | projector t => Projector τ (TargetFamily.State t)
  | other r => Other r

namespace Cache

variable {τ ρ : Type} [DecidableEq τ] [DecidableEq ρ] [TargetFamily τ] {Other : ρ → Type}

/-- The projector of a rule set: the cached one of its fingerprint, or a new one. -/
def fetch (c : Cache τ (@EntryType.Carrier τ ρ _ Other)) (t : τ)
    (s : RuleSet (TargetFamily.State t)) (command : String) :
    Logged (Fetched τ (@EntryType.Carrier τ ρ _ Other) (.projector t)) :=
  let key := Fingerprint.ofRuleSet t s command
  c.getOrMake (.projector t) key fun serial => do
    match ← Projector.compile serial t s key with
    | .ok p => return .ok p
    | .error e => return .error e.message

end Cache

end RecordMapping
