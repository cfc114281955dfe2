import RecordMapping.Fingerprint
import Mathlib.Data.Nat.Init

/-!
# RecordMapping.Proofs.FingerprintEncoding — the bytes determine the fingerprint

A code is `SelfDelimiting` when nothing that follows it changes how it is read.  Lengths are, because
they take eight bytes; a text is, because its length comes first; a flag, an optional part and a
counted list of self-delimiting items are.  So is the code of a whole fingerprint, provided that each
length `Fits` its eight bytes: of two fingerprints with the same bytes only the target types can
differ, and two that list different things share a digest only where SHA-256, cut to sixteen bytes,
takes two messages to one digest.
-/

namespace RecordMapping

/-- Two codes that become equal by what is written after them are codes of the same item. -/
def SelfDelimiting {α : Type} (Fits : α → Prop) (code : α → List UInt8) : Prop :=
  ∀ ⦃a b : α⦄, Fits a → Fits b → ∀ ⦃x y : List UInt8⦄, code a ++ x = code b ++ y → a = b ∧ x = y

theorem SelfDelimiting.inj {α : Type} {Fits : α → Prop} {code : α → List UInt8}
    (h : SelfDelimiting Fits code) {a b : α} (ha : Fits a) (hb : Fits b) (hcode : code a = code b) :
    a = b := by
  have happend : code a ++ [] = code b ++ [] := by rw [hcode]
  exact (h ha hb happend).1

namespace Fingerprint

/-! ### Lengths and texts -/

/-- The first number that eight bytes do not hold. -/
def lengthLimit : Nat := 0x10000000000000000

/-- One byte and the number above it give the number from that byte on. -/
theorem shiftRight_eq_of_byte {n m k : Nat}
    (hbyte : UInt8.ofNat (n >>> k) = UInt8.ofNat (m >>> k))
    (habove : n >>> (k + 8) = m >>> (k + 8)) : n >>> k = m >>> k := by
  rw [Nat.shiftRight_add, Nat.shiftRight_add] at habove
  have hlow : n >>> k % 256 = m >>> k % 256 := by
    simpa using congrArg UInt8.toNat hbyte
  omega

theorem encodeLength_inj {n m : Nat} (hn : n < lengthLimit) (hm : m < lengthLimit)
    (h : encodeLength n = encodeLength m) : n = m := by
  unfold lengthLimit at hn hm
  simp only [encodeLength, List.map_cons, List.map_nil, List.cons.injEq, and_true] at h
  obtain ⟨h0, h8, h16, h24, h32, h40, h48, h56⟩ := h
  have h64 : n >>> 64 = m >>> 64 := by omega
  have hall : n >>> 0 = m >>> 0 :=
    shiftRight_eq_of_byte h0 <| shiftRight_eq_of_byte h8 <| shiftRight_eq_of_byte h16 <|
      shiftRight_eq_of_byte h24 <| shiftRight_eq_of_byte h32 <| shiftRight_eq_of_byte h40 <|
        shiftRight_eq_of_byte h48 <| shiftRight_eq_of_byte h56 h64
  exact hall

theorem selfDelimiting_length : SelfDelimiting (· < lengthLimit) encodeLength := by
  intro n m hn hm x y h
  obtain ⟨hlength, hrest⟩ := List.append_inj h rfl
  exact ⟨encodeLength_inj hn hm hlength, hrest⟩

theorem encode_text_inj {s t : String} (h : Text.encode s = Text.encode t) : s = t :=
  String.toByteArray_inj.mp (ByteArray.ext (Array.toList_inj.mp h))

/-- The length of a text in bytes fits. -/
def TextFits (s : String) : Prop := (Text.encode s).length < lengthLimit

instance (s : String) : Decidable (TextFits s) := inferInstanceAs (Decidable (_ < _))

theorem selfDelimiting_text : SelfDelimiting TextFits encodeText := by
  intro s t hs ht x y h
  simp only [encodeText, List.append_assoc] at h
  obtain ⟨hlength, hrest⟩ := selfDelimiting_length hs ht h
  obtain ⟨hbytes, hrest⟩ := List.append_inj hrest hlength
  exact ⟨encode_text_inj hbytes, hrest⟩

theorem textFits_kindName (k : Kind) : TextFits k.name := by
  cases k <;> decide

theorem kindName_inj {k k' : Kind} (h : k.name = k'.name) : k = k' := by
  revert h
  cases k <;> cases k' <;> decide

end Fingerprint

/-! ### Options and lists -/

section Containers

open Fingerprint

variable {α : Type} {Fits : α → Prop} {code : α → List UInt8}

/-- The first byte tells whether something follows. -/
theorem SelfDelimiting.option (h : SelfDelimiting Fits code) :
    SelfDelimiting (fun o => ∀ a ∈ o, Fits a) (encodeOption code) := by
  intro o o' ho ho' x y hxy
  cases o with
  | none =>
    cases o' with
    | none => exact ⟨rfl, (List.cons.inj hxy).2⟩
    | some b => cases hxy
  | some a =>
    cases o' with
    | none => cases hxy
    | some b =>
      obtain ⟨rfl, hrest⟩ := h (ho a rfl) (ho' b rfl) (List.cons.inj hxy).2
      exact ⟨rfl, hrest⟩

/-- Lists of one length need no more than self-delimiting items. -/
theorem SelfDelimiting.flatMap (h : SelfDelimiting Fits code) {as bs : List α}
    (hlength : as.length = bs.length) (has : ∀ a ∈ as, Fits a) (hbs : ∀ b ∈ bs, Fits b)
    {x y : List UInt8} (hxy : as.flatMap code ++ x = bs.flatMap code ++ y) : as = bs ∧ x = y := by
  induction as generalizing bs with
  | nil =>
    obtain rfl : bs = [] := List.length_eq_zero_iff.mp hlength.symm
    exact ⟨rfl, hxy⟩
  | cons a as ih =>
    cases bs with
    | nil => cases hlength
    | cons b bs =>
      simp only [List.flatMap_cons, List.append_assoc] at hxy
      obtain ⟨hab, htail⟩ := h (has a List.mem_cons_self) (hbs b List.mem_cons_self) hxy
      obtain ⟨hasbs, hrest⟩ := ih (Nat.succ.inj hlength)
        (fun c hc => has c (List.mem_cons_of_mem a hc))
        (fun c hc => hbs c (List.mem_cons_of_mem b hc)) htail
      exact ⟨by rw [hab, hasbs], hrest⟩

theorem SelfDelimiting.list (h : SelfDelimiting Fits code) :
    SelfDelimiting (fun as => as.length < lengthLimit ∧ ∀ a ∈ as, Fits a) (encodeList code) := by
  intro as bs has hbs x y hxy
  simp only [encodeList, List.append_assoc] at hxy
  obtain ⟨hlength, hrest⟩ := selfDelimiting_length has.1 hbs.1 hxy
  exact h.flatMap hlength has.2 hbs.2 hrest

end Containers

namespace Fingerprint

/-! ### Signatures -/

structure IdentityFits (c : ClosureIdentity) : Prop where
  key : TextFits c.key
  code : TextFits c.code.label

theorem selfDelimiting_identity : SelfDelimiting IdentityFits encodeIdentity := by
  rintro ⟨key, ⟨label⟩⟩ ⟨key', ⟨label'⟩⟩ hfits hfits' x y h
  simp only [encodeIdentity, List.append_assoc] at h
  obtain ⟨rfl, hlabel⟩ := selfDelimiting_text hfits.key hfits'.key h
  obtain ⟨rfl, hrest⟩ := selfDelimiting_text hfits.code hfits'.code hlabel
  exact ⟨rfl, hrest⟩

structure RuleFits (r : RuleSignature) : Prop where
  property : TextFits r.property
  column : TextFits r.column
  condition : ∀ c ∈ r.condition, IdentityFits c
  processors : r.processors.length < lengthLimit ∧ ∀ p ∈ r.processors, IdentityFits p

theorem selfDelimiting_rule : SelfDelimiting RuleFits encodeRule := by
  rintro ⟨property, kind, column, condition, processors⟩
    ⟨property', kind', column', condition', processors'⟩ hfits hfits' x y h
  simp only [encodeRule, List.append_assoc] at h
  -- each step reads one part and leaves the equation of what is written after it
  obtain ⟨rfl, hkind⟩ := selfDelimiting_text hfits.property hfits'.property h
  obtain ⟨hname, hcolumn⟩ :=
    selfDelimiting_text (textFits_kindName kind) (textFits_kindName kind') hkind
  obtain rfl := kindName_inj hname
  obtain ⟨rfl, hcondition⟩ := selfDelimiting_text hfits.column hfits'.column hcolumn
  obtain ⟨rfl, hprocessors⟩ :=
    selfDelimiting_identity.option hfits.condition hfits'.condition hcondition
  obtain ⟨rfl, hrest⟩ :=
    selfDelimiting_identity.list hfits.processors hfits'.processors hprocessors
  exact ⟨rfl, hrest⟩

/-! ### Fingerprints -/

section Whole

variable {τ : Type} {f g : Fingerprint τ}

/-- All that a fingerprint lists apart from its target type. -/
def listing (f : Fingerprint τ) : String × List RuleSignature × Bool × String :=
  (f.typeName, f.rules, f.strict, f.command)

theorem eq_iff_listing_eq (htarget : f.target = g.target) : f = g ↔ f.listing = g.listing := by
  cases f
  cases g
  obtain rfl := htarget
  simp [listing]

/-- Every length in the encoding fits its eight bytes. -/
structure Fits (f : Fingerprint τ) : Prop where
  typeName : TextFits f.typeName
  command : TextFits f.command
  rules : f.rules.length < lengthLimit ∧ ∀ r ∈ f.rules, RuleFits r

theorem listing_eq_of_encode {τ' : Type} {g : Fingerprint τ'} (hf : f.Fits) (hg : g.Fits)
    (h : f.encode = g.encode) : f.listing = g.listing := by
  simp only [encode, List.append_assoc] at h
  obtain ⟨htype, hafterType⟩ := selfDelimiting_text hf.typeName hg.typeName h
  obtain ⟨hcommand, hafterCommand⟩ := selfDelimiting_text hf.command hg.command hafterType
  obtain ⟨hflag, hlist⟩ := List.cons.inj hafterCommand
  have hstrict : f.strict = g.strict := by
    revert hflag
    cases f.strict <;> cases g.strict <;> decide
  have hrules : f.rules = g.rules := selfDelimiting_rule.list.inj hf.rules hg.rules hlist
  simp only [listing, htype, hrules, hstrict, hcommand]

theorem encode_eq_of_listing {τ' : Type} {g : Fingerprint τ'} (h : f.listing = g.listing) :
    f.encode = g.encode := by
  simp only [listing, Prod.mk.injEq] at h
  obtain ⟨htype, hrules, hstrict, hcommand⟩ := h
  simp only [encode, htype, hrules, hstrict, hcommand]

/-- The bytes are the same exactly when the same things are listed, so for one target type
fingerprints agree exactly then; their digests are then the same too, and otherwise only where two
different messages have one digest. -/
theorem encode_determines_listing [DecidableEq τ] (hf : f.Fits) (hg : g.Fits) :
    (f.encode = g.encode ↔ f.listing = g.listing) ∧
      (f.target = g.target → (f.agrees g = true ↔ f.listing = g.listing)) ∧
      (f.listing = g.listing → f.digest = g.digest) ∧
      (f.listing ≠ g.listing → f.digest = g.digest → f.encode ≠ g.encode ∧
        (Sha256.digest f.encode).take 16 = (Sha256.digest g.encode).take 16) := by
  refine ⟨⟨listing_eq_of_encode hf hg, encode_eq_of_listing⟩, ?_, ?_, ?_⟩
  · intro htarget
    rw [agrees_iff_eq, eq_iff_listing_eq htarget]
  · intro hlisting
    unfold digest
    rw [encode_eq_of_listing hlisting]
  · intro hne hdigest
    exact ⟨fun hencode => hne (listing_eq_of_encode hf hg hencode), hdigest⟩

/-- The same name and code stand for a condition in one rule and for a processor in the other. -/
theorem encode_determines_listing_moved_condition :
    ∃ f g : Fingerprint Unit, f.Fits ∧ g.Fits ∧ f.target = g.target ∧
      f.rules = [⟨"Id", .int, "id", some ⟨"key", ⟨"code"⟩⟩, []⟩] ∧
      g.rules = [⟨"Id", .int, "id", none, [⟨"key", ⟨"code"⟩⟩]⟩] ∧
      f.encode ≠ g.encode ∧ f.agrees g = false := by
  let named : ClosureIdentity := ⟨"key", ⟨"code"⟩⟩
  have hnamed : IdentityFits named := ⟨by decide, by decide⟩
  let f : Fingerprint Unit := ⟨(), "Order", [⟨"Id", .int, "id", some named, []⟩], true, "orders"⟩
  let g : Fingerprint Unit := ⟨(), "Order", [⟨"Id", .int, "id", none, [named]⟩], true, "orders"⟩
  have hf : f.Fits := by
    refine ⟨by decide, by decide, by decide, ?_⟩
    intro r hr
    obtain rfl := List.mem_singleton.mp hr
    refine ⟨by decide, by decide, ?_, by decide, ?_⟩
    · rintro c ⟨⟩
      exact hnamed
    · intro p hp
      exact absurd hp List.not_mem_nil
  have hg : g.Fits := by
    refine ⟨by decide, by decide, by decide, ?_⟩
    intro r hr
    obtain rfl := List.mem_singleton.mp hr
    refine ⟨by decide, by decide, ?_, by decide, ?_⟩
    · rintro c ⟨⟩
    · intro p hp
      obtain rfl := List.mem_singleton.mp hp
      exact hnamed
  have hlisting : f.listing ≠ g.listing := by decide
  obtain ⟨hencode, hagrees, -, -⟩ := encode_determines_listing hf hg
  refine ⟨f, g, hf, hg, rfl, rfl, rfl, fun h => hlisting (hencode.mp h), ?_⟩
  rw [← Bool.not_eq_true, hagrees rfl]
  exact hlisting

end Whole

end Fingerprint

end RecordMapping
