import RecordMapping.RuleSet
import RecordMapping.Sha256
import RecordMapping.Text.Hex
import RecordMapping.Text.Utf8

/-!
# RecordMapping.Fingerprint — what a compiled projector depends on

A fingerprint lists everything that decides what a projector does with a row: the target type, each
rule's column, condition and processors, strictness, and the command it belongs to.  Fingerprints
are equal when all of it is equal.  The digest is for display; two different fingerprints with one
digest stay different.
-/

namespace RecordMapping

/-- What can be compared of a condition or a processor. -/
structure ClosureIdentity where
  key : String
  code : CodeIdentity
  deriving DecidableEq, Repr

structure RuleSignature where
  property : String
  kind : Kind
  column : String
  condition : Option ClosureIdentity
  processors : List ClosureIdentity
  deriving DecidableEq, Repr

def Condition.identity (c : Condition) : ClosureIdentity := ⟨c.key, c.code⟩

def Processor.identity (p : Processor) : ClosureIdentity := ⟨p.key, p.code⟩

def Rule.signature {σ : Type} (r : Rule σ) : RuleSignature where
  property := r.name
  kind := r.kind
  column := r.column
  condition := r.condition.map Condition.identity
  processors := r.processors.map Processor.identity

/-- `τ` tells the target types apart. -/
structure Fingerprint (τ : Type) where
  target : τ
  typeName : String
  rules : List RuleSignature
  strict : Bool
  command : String
  deriving DecidableEq, Repr

namespace Fingerprint

def ofRuleSet {τ σ : Type} (target : τ) (s : RuleSet σ) (command : String) : Fingerprint τ :=
  ⟨target, s.typeName, s.rules.map Rule.signature, s.strict, command⟩

/-! ### Encoding

Every text and list is preceded by its length, so that the bytes determine the fingerprint apart
from its target type. -/

/-- A length as eight bytes, the lowest first. -/
def encodeLength (n : Nat) : List UInt8 :=
  [0, 8, 16, 24, 32, 40, 48, 56].map fun shift => UInt8.ofNat (n >>> shift)

def encodeText (s : String) : List UInt8 :=
  let bytes := Text.encode s
  encodeLength bytes.length ++ bytes

def encodeIdentity (c : ClosureIdentity) : List UInt8 :=
  encodeText c.key ++ encodeText c.code.label

def encodeList {α : Type} (encode : α → List UInt8) (items : List α) : List UInt8 :=
  encodeLength items.length ++ items.flatMap encode

def encodeOption {α : Type} (encode : α → List UInt8) : Option α → List UInt8
  | some a => 1 :: encode a
  | none => [0]

def encodeRule (r : RuleSignature) : List UInt8 :=
  encodeText r.property ++ encodeText r.kind.name ++ encodeText r.column ++
    encodeOption encodeIdentity r.condition ++ encodeList encodeIdentity r.processors

variable {τ : Type}

def encode (f : Fingerprint τ) : List UInt8 :=
  encodeText f.typeName ++ encodeText f.command ++ (if f.strict then 1 else 0) ::
    encodeList encodeRule f.rules

/-- The first sixteen bytes of the SHA-256 digest of the encoding. -/
def digest (f : Fingerprint τ) : List UInt8 := (Sha256.digest f.encode).take 16

def hex (f : Fingerprint τ) : String := Text.hex f.digest

/-! ### Comparison -/

/-- Do two fingerprints agree?  The digests are compared first, then everything they stand for. -/
def agrees [DecidableEq τ] (f g : Fingerprint τ) : Bool :=
  decide (f.digest = g.digest) && decide (f.target = g.target) &&
    decide (f.typeName = g.typeName) && decide (f.strict = g.strict) &&
    decide (f.command = g.command) && decide (f.rules = g.rules)

/-- The digests decide nothing that the rest does not. -/
theorem agrees_iff_eq [DecidableEq τ] {f g : Fingerprint τ} : f.agrees g = true ↔ f = g := by
  constructor
  · intro h
    simp only [agrees, Bool.and_eq_true, decide_eq_true_eq] at h
    obtain ⟨⟨⟨⟨⟨-, htarget⟩, htype⟩, hstrict⟩, hcommand⟩, hrules⟩ := h
    cases f
    cases g
    subst htarget htype hstrict hcommand hrules
    rfl
  · rintro rfl
    simp [agrees]

end Fingerprint

end RecordMapping
