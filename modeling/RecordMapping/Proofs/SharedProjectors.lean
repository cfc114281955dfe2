import RecordMapping.Proofs.CacheSlots
import RecordMapping.Proofs.Signatures
import RecordMapping.Proofs.Traversal
import Mathlib.Data.List.Induction

/-!
# RecordMapping.Proofs.SharedProjectors — a cached projector maps like a new one

A stock rule set is made from a schema, or from the properties that a type declares for itself.  Two
of them with one fingerprint have alike rules, so their projectors agree on every row.  Every value
of a cache is the projector of an earlier call with the same fingerprint (`Serves`), whatever calls
came in between; a call that finds a value is answered as if it had compiled its own rules.
-/

namespace RecordMapping

/-! ### Stock rule sets -/

/-- Types that list their own properties, each with a tag. -/
class DeclaredTypes (δ : Type) where
  State : δ → Type
  initial : (d : δ) → State d
  typeName : δ → String
  properties : (d : δ) → List (Property (State d))

/-- The target of a stock rule set. -/
inductive StockTarget (δ : Type)
  | record
  | declared (d : δ)
  deriving DecidableEq

/-- No declared types: all targets are records. -/
instance : DeclaredTypes Empty := ⟨nofun, nofun, nofun, nofun⟩

namespace StockTarget

variable {δ : Type} [DeclaredTypes δ]

def State : StockTarget δ → Type
  | record => Record
  | declared d => DeclaredTypes.State d

def initial : (t : StockTarget δ) → t.State
  | record => Record.empty
  | declared d => DeclaredTypes.initial d

instance : TargetFamily (StockTarget δ) where
  State := State
  target t := ⟨t.initial⟩

end StockTarget

open TargetFamily (State)

variable {δ : Type} [DeclaredTypes δ]

/-- Where the descriptor of a stock rule set comes from. -/
inductive Extractor : StockTarget δ → Type
  | schema (schema : Schema) : Extractor .record
  | declared (d : δ) : Extractor (.declared d)

def Extractor.describe {t : StockTarget δ} :
    Extractor t → Except ConfigurationError (Descriptor (State t))
  | schema s => s.describe
  | declared d => Descriptor.make (DeclaredTypes.typeName d) (DeclaredTypes.properties d)

def Stock (t : StockTarget δ) (s : RuleSet (State t)) : Prop :=
  ∃ (e : Extractor t) (overrides : List Override) (strict : Bool),
    (RuleSet.build e.describe overrides strict).value = .ok s

/-- The rules are those of a rules file. -/
inductive FromFile : (t : StockTarget δ) → RuleSet (State t) → Prop
  | intro (f : RulesFile) (strict : Bool) (s : RuleSet Record)
    (h : (f.ruleSet strict).value = .ok s) : FromFile .record s

/-- What bears one name is one function in both; in rules files nothing is left to assume. -/
def SameCode {t t' : StockTarget δ} (s : RuleSet (State t)) (s' : RuleSet (State t')) : Prop :=
  (FromFile t s ∧ FromFile t' s') ∨ s.Coherent s'

theorem SameCode.coherent {t : StockTarget δ} {s s' : RuleSet (State t)} (h : SameCode s s') :
    s.Coherent s' := by
  rcases h with ⟨hs, hs'⟩ | h
  · cases hs with
    | intro f strict _ hf =>
      cases hs' with
      | intro f' strict' _ hf' =>
        exact RuleSet.coherent_of_plain (RulesFile.plain_ruleSet hf) (RulesFile.plain_ruleSet hf')
  · exact h

/-- Rules of one name and one kind are bound to one property. -/
theorem Stock.accessors {t : StockTarget δ} {s s' : RuleSet (State t)} (h : Stock t s)
    (h' : Stock t s') {r r' : Rule (State t)} (hr : r ∈ s.rules) (hr' : r' ∈ s'.rules)
    (hname : r.name = r'.name) (hkind : r.kind = r'.kind) :
    r.property.get = r'.property.get ∧ r.property.set = r'.property.set := by
  obtain ⟨e, overrides, strict, hs⟩ := h
  obtain ⟨e', overrides', strict', hs'⟩ := h'
  cases e with
  | schema schema =>
    cases e' with
    | schema schema' =>
      exact ((RuleSet.ofSchema_build hs).fills r hr).accessors
        ((RuleSet.ofSchema_build hs').fills r' hr') hname hkind
  | declared d =>
    cases e' with
    | declared =>
      obtain ⟨p, hp, hprules⟩ := RuleSet.build_ok hs
      obtain ⟨p', hp', hprules'⟩ := RuleSet.build_ok hs'
      obtain rfl : p = p' := Except.ok.inj (hp.symm.trans hp')
      rw [RuleSet.property_eq_of_name hprules hprules' hr hr' hname]
      exact ⟨rfl, rfl⟩

/-! ### Equal fingerprints -/

/-- Both projectors give the same for every row, whatever the index has seen before. -/
def Projector.Agree {τ σ : Type} [Target σ] (p p' : Projector τ σ) : Prop :=
  ∀ (row : Row) (index : PresenceIndex), index.Reachable →
    (p.project row index).value.1 = (p'.project row index).value.1

theorem Projector.Agree.collect {γ τ σ : Type} [Cursor γ] [Target σ] {p p' : Projector τ σ}
    (h : p.Agree p') (flag : Bool) (c : γ) :
    (Stream.collect flag c p).value = (Stream.collect flag c p').value := by
  refine Stream.collect_congr ?_ flag c
  intro row
  have hindex : (PresenceIndex.empty p.table).Reachable := .new p.table
  rw [← p.project_eq_projectOne row hindex.faithful, h row _ hindex,
    p'.project_eq_projectOne row hindex.faithful]

theorem agree_of_fingerprint [DecidableEq δ] {t : StockTarget δ} {s s' : RuleSet (State t)}
    (hs : Stock t s) (hs' : Stock t s') (hcode : SameCode s s') {command command' : String}
    (hkey : Fingerprint.ofRuleSet t s command = Fingerprint.ofRuleSet t s' command')
    {n n' : Nat} {f f' : Fingerprint (StockTarget δ)} {p p' : Projector (StockTarget δ) (State t)}
    (hp : (Projector.compile n t s f).value = .ok p)
    (hp' : (Projector.compile n' t s' f').value = .ok p') : p.Agree p' := by
  have htype : s.typeName = s'.typeName := congrArg Fingerprint.typeName hkey
  have hstrict : s.strict = s'.strict := congrArg Fingerprint.strict hkey
  have halike : List.Forall₂ Rule.Alike s.rules s'.rules :=
    hcode.coherent.forall₂_alike (congrArg Fingerprint.rules hkey)
      fun r hr r' hr' => hs.accessors hs' hr hr'
  intro row index hindex
  rw [Projector.result_compile hp hindex.faithful, Projector.result_compile hp' hindex.faithful,
    htype, hstrict, Projector.fillAll_alike halike]

/-! ### Calls on a shared cache -/

/-- A stock rule set for which a projector is wanted. -/
structure Request (δ : Type) [DeclaredTypes δ] where
  target : StockTarget δ
  rules : RuleSet (State target)
  command : String
  stock : Stock target rules

/-- A cache of projectors for stock targets, and of other values. -/
abbrev SharedCache (δ : Type) [DeclaredTypes δ] {ρ : Type} (Other : ρ → Type) : Type :=
  Cache (StockTarget δ) (@EntryType.Carrier (StockTarget δ) ρ _ Other)

def Request.key (r : Request δ) : Fingerprint (StockTarget δ) :=
  .ofRuleSet r.target r.rules r.command

section Calls

variable [DecidableEq δ] {ρ : Type} [DecidableEq ρ] {Other : ρ → Type}

/-- What a request gets from a cache. -/
def Request.fetch (r : Request δ) (c : SharedCache δ Other) :
    Cache.Fetched (StockTarget δ) (@EntryType.Carrier (StockTarget δ) ρ _ Other)
      (.projector r.target) :=
  (c.fetch r.target r.rules r.command).value

/-- An empty cache after requests. -/
def SharedCache.after (Other : ρ → Type) (history : List (Request δ)) : SharedCache δ Other :=
  history.foldl (fun c r => (r.fetch c).cache) .empty

theorem SharedCache.after_concat (history : List (Request δ)) (r : Request δ) :
    after Other (history ++ [r]) = (r.fetch (after Other history)).cache := by
  simp [after, List.foldl_append]

/-- Every value of the cache is the projector of a request with that key. -/
def Serves (c : SharedCache δ Other) (history : List (Request δ)) : Prop :=
  ∀ key e, c.get? key = some e → ∃ a ∈ history, a.key = key ∧
    ∃ n p, (Projector.compile n a.target a.rules key).value = .ok p ∧
      e = ⟨.projector a.target, n, p⟩

variable {c : SharedCache δ Other} {history : List (Request δ)}

/-- A request gets a projector of rules with its own fingerprint, which some request so far had. -/
theorem Serves.answer (h : Serves c history) (r : Request δ) :
    ∃ s n p, Stock r.target s ∧ Fingerprint.ofRuleSet r.target s r.command = r.key ∧
      (s = r.rules ∨ ∃ hs, (⟨r.target, s, r.command, hs⟩ : Request δ) ∈ history) ∧
      (Projector.compile n r.target s r.key).value = .ok p ∧ (r.fetch c).answer = .ok ⟨n, p⟩ := by
  cases hentry : c.get? r.key with
  | none =>
    obtain ⟨p, hp, hanswer, -⟩ := Cache.fetch_of_none hentry
    exact ⟨r.rules, _, p, r.stock, rfl, Or.inl rfl, hp, hanswer⟩
  | some e =>
    obtain ⟨⟨target, s, command, hs⟩, hmem, hkey, n, p, hp, rfl⟩ := h r.key e hentry
    obtain rfl : target = r.target := congrArg Fingerprint.target hkey
    obtain rfl : command = r.command := congrArg Fingerprint.command hkey
    refine ⟨s, n, p, hs, hkey, Or.inr ⟨hs, hmem⟩, hp, ?_⟩
    exact (Cache.fetch_of_entry hentry).1.trans (Cache.castEntry_self _ n _)

theorem Serves.fetch (h : Serves c history) (r : Request δ) :
    Serves (r.fetch c).cache (history ++ [r]) := by
  have hold : Serves c (history ++ [r]) := by
    intro key e he
    obtain ⟨a, ha, hmade⟩ := h key e he
    exact ⟨a, List.mem_append_left _ ha, hmade⟩
  intro key e he
  cases hentry : c.get? r.key with
  | none =>
    obtain ⟨p, hp, -, hcache⟩ := Cache.fetch_of_none hentry
    by_cases hkey : key = r.key
    · have he' : some e = some _ := he.symm.trans ((hcache key).trans (if_pos hkey))
      obtain rfl := Option.some.inj he'
      exact ⟨r, List.mem_append_right _ List.mem_cons_self, hkey.symm, _, p, hkey ▸ hp, rfl⟩
    · exact hold key e (((hcache key).trans (if_neg hkey)).symm.trans he)
  | some e' =>
    exact hold key e (((Cache.fetch_of_entry hentry).2 key).symm.trans he)

theorem serves_after (Other : ρ → Type) (history : List (Request δ)) :
    Serves (SharedCache.after Other history) history := by
  induction history using List.reverseRecOn with
  | nil =>
    intro key e he
    cases he
  | append_singleton history r ih =>
    rw [SharedCache.after_concat]
    exact ih.fetch r

/-- After any requests, a request gets a projector that agrees with the one of its own rules, on
every row and so on every cursor.  Two stock rule sets with one fingerprint have projectors that
agree. -/
theorem fetch_agrees_with_own_rules (Other : ρ → Type) :
    (∀ (history : List (Request δ)) (r : Request δ), ∃ shared,
      (r.fetch (SharedCache.after Other history)).answer = .ok shared ∧
      ((∀ a ∈ history, SameCode a.rules r.rules) → ∀ n, ∃ own,
        (Projector.compile n r.target r.rules r.key).value = .ok own ∧
        Projector.Agree shared.value own ∧
        ∀ {γ : Type} [Cursor γ] (flag : Bool) (c : γ),
          (Stream.collect flag c shared.value).value = (Stream.collect flag c own).value)) ∧
    ∀ {t : StockTarget δ} {s s' : RuleSet (State t)}, Stock t s → Stock t s' → SameCode s s' →
      ∀ command command',
        Fingerprint.ofRuleSet t s command = Fingerprint.ofRuleSet t s' command' → ∀ n n' p p',
          (Projector.compile n t s (.ofRuleSet t s command)).value = .ok p →
          (Projector.compile n' t s' (.ofRuleSet t s' command')).value = .ok p' → p.Agree p' := by
  constructor
  · intro history r
    obtain ⟨s, m, p, hs, hkey, hfrom, hp, hanswer⟩ := (serves_after Other history).answer r
    refine ⟨⟨m, p⟩, hanswer, ?_⟩
    intro hcode n
    have htarget : r.key.target = r.target := rfl
    obtain ⟨own, hown⟩ : ∃ own, (Projector.compile n r.target r.rules r.key).value = .ok own :=
      ⟨_, Projector.compile_of_target n r.rules htarget⟩
    have hagree : p.Agree own := by
      rcases hfrom with rfl | ⟨hs, hmem⟩
      · intro row index hindex
        rw [Projector.result_compile hp hindex.faithful,
          Projector.result_compile hown hindex.faithful]
      · exact agree_of_fingerprint hs r.stock (hcode _ hmem) hkey hp hown
    exact ⟨own, hown, hagree, fun flag c => hagree.collect flag c⟩
  · intro t s s' hs hs' hcode command command' hkey n n' p p' hp hp'
    exact agree_of_fingerprint hs hs' hcode hkey hp hp'

/-- Two rules files, of which the second spells out the column that the first leaves to its default:
the projector of the first serves the second. -/
theorem fetch_agrees_with_own_rules_spelled_out :
    ∃ (s s' : RuleSet Record) (hs : @Stock Empty _ .record s) (hs' : @Stock Empty _ .record s'),
      (RulesFile.ruleSet ⟨"Order", none, false, [⟨"Id", .int, none, [], false⟩]⟩ false).value =
        .ok s ∧
      (RulesFile.ruleSet ⟨"Order", none, false, [⟨"Id", .int, some "Id", [], false⟩]⟩ false).value =
        .ok s' ∧
      ∃ shared own,
        (Request.fetch ⟨.record, s', "orders", hs'⟩
          (SharedCache.after Empty.elim [⟨.record, s, "orders", hs⟩])).answer = .ok shared ∧
        shared.serial = 0 ∧
        (Projector.compile 1 .record s' (.ofRuleSet .record s' "orders")).value = .ok own ∧
        Projector.Agree shared.value own := by
  let s : RuleSet Record := ⟨"Order",
    [⟨SchemaProperty.toProperty ⟨"Id", .int, none, false⟩, "Id", none, []⟩], false⟩
  have hfile : (RulesFile.ruleSet ⟨"Order", none, false, [⟨"Id", .int, none, [], false⟩]⟩
    false).value = .ok s := rfl
  have hfile' : (RulesFile.ruleSet ⟨"Order", none, false, [⟨"Id", .int, some "Id", [], false⟩]⟩
    false).value = .ok s := rfl
  have hstock : @Stock Empty _ .record s :=
    ⟨.schema ⟨"Order", [⟨"Id", .int, none, false⟩]⟩, [], false, rfl⟩
  let a : Request Empty := ⟨.record, s, "orders", hstock⟩
  obtain ⟨shared, hanswer, hagrees⟩ := (fetch_agrees_with_own_rules Empty.elim).1 [a] a
  have hcode : ∀ b ∈ [a], SameCode b.rules a.rules := by
    intro b hb
    obtain rfl := List.mem_singleton.mp hb
    exact Or.inl ⟨.intro _ _ _ hfile, .intro _ _ _ hfile'⟩
  obtain ⟨own, hown, hagree, -⟩ := hagrees hcode 1
  have hserial :
      (a.fetch (SharedCache.after Empty.elim [a])).answer.map Shared.serial = .ok 0 := rfl
  rw [hanswer] at hserial
  exact ⟨s, s, hstock, hstock, hfile, hfile', shared, own, hanswer, Except.ok.inj hserial, hown,
    hagree⟩

end Calls

end RecordMapping
