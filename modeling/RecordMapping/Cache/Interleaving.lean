/-!
# RecordMapping.Cache.Interleaving — many callers of one cache at once

Each caller asks for the value of one key and makes it if nobody has.  A caller proceeds in small
steps, between which any other caller may move.  `State.advance` is one step of one caller; the
states that such steps lead to are `Reachable`.

The table of slots has a lock of its own, held only within a step.  A caller that has found or made
a slot keeps a handle to it until its call ends, and the lock of the slot while it makes the value.
-/

namespace RecordMapping.Interleaving

/-- A value in a slot: the number of the run that made it, and its type. -/
structure Made (κ : Type) where
  serial : Nat
  type : κ
  deriving DecidableEq, Repr

/-- What a call gives. -/
inductive Answer (κ : Type)
  | value (v : Made κ)
  | typeMismatch
  | failed
  deriving DecidableEq, Repr

/-- Where a caller stands.  The number is that of its slot. -/
inductive Phase (κ : Type)
  | start
  /-- The key was not in the table. -/
  | missed
  /-- A handle is held; the value has not been looked at. -/
  | found (slot : Nat)
  /-- There was no value; the lock of the slot is wanted. -/
  | waiting (slot : Nat)
  /-- The lock is held; the value has not been looked at again. -/
  | locked (slot : Nat)
  /-- There was still no value. -/
  | ready (slot : Nat)
  | running (slot : Nat)
  | succeeded (slot : Nat)
  | broken (slot : Nat)
  | releasing (slot : Nat) (answer : Answer κ)
  /-- The lock is free again; the handle is still held. -/
  | leaving (slot : Nat) (answer : Answer κ)
  | returned (answer : Answer κ)
  deriving DecidableEq, Repr

namespace Phase

variable {κ : Type}

/-- The slot to which a handle is held. -/
def handle? : Phase κ → Option Nat
  | start | missed | returned _ => none
  | found n | waiting n | locked n | ready n | running n | succeeded n | broken n => some n
  | releasing n _ | leaving n _ => some n

/-- The slot whose lock is held. -/
def lock? : Phase κ → Option Nat
  | locked n | ready n | running n | succeeded n | broken n => some n
  | releasing n _ => some n
  | _ => none

/-- The answer of a call that has ended. -/
def answer? : Phase κ → Option (Answer κ)
  | returned a => some a
  | _ => none

/-- Has the call not begun, or ended? -/
def isIdle : Phase κ → Bool
  | start | returned _ => true
  | _ => false

end Phase

/-- A caller asks for the value of `key` as one of type `wanted`; `run` is the number of the run in
which it made the value itself. -/
structure Caller (K κ : Type) where
  key : K
  wanted : κ
  phase : Phase κ
  run : Option Nat
  deriving DecidableEq, Repr

/-- `holder` is the caller that has the lock. -/
structure Slot (κ : Type) where
  value : Option (Made κ)
  holder : Option Nat
  deriving DecidableEq, Repr

/-- `table` says which slot a key has now; a slot taken out of the table stays with those who hold
a handle to it. -/
structure State (K κ : Type) where
  callers : List (Caller K κ)
  table : List (K × Nat)
  slots : List (Slot κ)
  compilations : Nat
  deriving DecidableEq, Repr

namespace State

variable {K κ : Type}

/-- An empty cache and callers that have not begun. -/
def initial (calls : List (K × κ)) : State K κ :=
  ⟨calls.map fun c => ⟨c.1, c.2, .start, none⟩, [], [], 0⟩

def value? (s : State K κ) (n : Nat) : Option (Made κ) := (s.slots[n]?).bind Slot.value

def holder? (s : State K κ) (n : Nat) : Option Nat := (s.slots[n]?).bind Slot.holder

/-- How many callers hold a handle to a slot. -/
def handles (s : State K κ) (n : Nat) : Nat :=
  s.callers.countP fun c => decide (c.phase.handle? = some n)

/-- Is no call under way? -/
def isQuiet (s : State K κ) : Bool := s.callers.all fun c => c.phase.isIdle

/-! ### Changes -/

def setPhase (s : State K κ) (i : Nat) (p : Phase κ) : State K κ :=
  { s with callers := s.callers.modify i fun c => { c with phase := p } }

def setSlot (s : State K κ) (n : Nat) (f : Slot κ → Slot κ) : State K κ :=
  { s with slots := s.slots.modify n f }

/-- Gives a key a new slot. -/
def addSlot (s : State K κ) (key : K) : State K κ :=
  { s with table := s.table ++ [(key, s.slots.length)], slots := s.slots ++ [⟨none, none⟩] }

/-- Notes that caller `i` begins a run. -/
def startRun (s : State K κ) (i : Nat) : State K κ :=
  { s with
    callers := s.callers.modify i fun c => { c with run := some s.compilations }
    compilations := s.compilations + 1 }

section

variable [DecidableEq K]

def slot? (s : State K κ) (key : K) : Option Nat :=
  (s.table.find? fun entry => decide (entry.1 = key)).map Prod.snd

/-- Takes the slot of a key out of the table if it is empty and nobody else holds a handle. -/
def discardUnused (s : State K κ) (key : K) (n : Nat) : State K κ :=
  if s.slot? key = some n ∧ s.handles n = 1 ∧ s.value? n = none then
    { s with table := s.table.filter fun entry => !decide (entry.1 = key) }
  else s

variable [DecidableEq κ]

/-- A value as the answer to a caller. -/
def answer (c : Caller K κ) (v : Made κ) : Answer κ :=
  if v.type = c.wanted then .value v else .typeMismatch

/-- One step of caller `i`; none if it has to wait or has ended.  Should the step end its run, the
run succeeds if `succeeds`. -/
def advance (s : State K κ) (i : Nat) (succeeds : Bool) : Option (State K κ) :=
  match s.callers[i]? with
  | none => none
  | some c =>
    match c.phase with
    | .start =>
      match s.slot? c.key with
      | some n => some (s.setPhase i (.found n))
      | none => some (s.setPhase i .missed)
    | .missed =>
      match s.slot? c.key with
      | some n => some (s.setPhase i (.found n))
      | none => some ((s.addSlot c.key).setPhase i (.found s.slots.length))
    | .found n =>
      match s.value? n with
      | some v => some (s.setPhase i (.leaving n (answer c v)))
      | none => some (s.setPhase i (.waiting n))
    | .waiting n =>
      match s.holder? n with
      | some _ => none
      | none => some ((s.setSlot n fun slot => { slot with holder := some i }).setPhase i (.locked n))
    | .locked n =>
      match s.value? n with
      | some v => some (s.setPhase i (.releasing n (answer c v)))
      | none => some (s.setPhase i (.ready n))
    | .ready n => some ((s.startRun i).setPhase i (.running n))
    | .running n => some (s.setPhase i (if succeeds then .succeeded n else .broken n))
    | .succeeded n =>
      let made : Made κ := ⟨c.run.getD 0, c.wanted⟩
      let kept := (s.value? n).getD made
      some ((s.setSlot n fun slot => { slot with value := some kept }).setPhase i
        (.releasing n (answer c kept)))
    | .broken n => some ((s.discardUnused c.key n).setPhase i (.releasing n .failed))
    | .releasing n a =>
      some ((s.setSlot n fun slot => { slot with holder := none }).setPhase i (.leaving n a))
    | .leaving _ a => some (s.setPhase i (.returned a))
    | .returned _ => none

/-- The states to which the steps of these calls lead. -/
inductive Reachable (calls : List (K × κ)) : State K κ → Prop
  | initial : Reachable calls (State.initial calls)
  | step {s t : State K κ} (i : Nat) (succeeds : Bool) :
      Reachable calls s → s.advance i succeeds = some t → Reachable calls t

end

end State

end RecordMapping.Interleaving
