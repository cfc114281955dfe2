import RecordMapping.Event
import RecordMapping.Rule

/-!
# RecordMapping.RuleSet — the rules of a target type

One rule for each property that rows can fill, in declaration order.  `RuleSet.build` starts from
the defaults and applies the overrides; each property may be overridden once, and no rule may end
with a blank column name.
-/

namespace RecordMapping

structure RuleSet (σ : Type) where
  typeName : String
  rules : List (Rule σ)
  strict : Bool

/-- The changes to the rule of one property. -/
structure Override where
  property : String
  actions : List Rule.Action

namespace RuleSet

variable {σ : Type}

def rule? (s : RuleSet σ) (property : String) : Option (Rule σ) :=
  s.rules.find? fun r => decide (r.name = property)

/-- Changes the first rule of that name; none if there is no such rule. -/
def configure (o : Override) : List (Rule σ) → Option (List (Rule σ))
  | [] => none
  | r :: rest =>
    if r.name = o.property then some (r.applyAll o.actions :: rest)
    else (configure o rest).map (r :: ·)

/-- Applies the overrides in turn; `seen` are the properties already overridden. -/
def configureAll (typeName : String) :
    List String → List Override → List (Rule σ) → Except ConfigurationError (List (Rule σ))
  | _, [], rules => .ok rules
  | seen, o :: rest, rules =>
    if o.property ∈ seen then .error (.duplicateRule typeName o.property)
    else
      match configure o rules with
      | none => .error (.unknownProperty typeName o.property)
      | some next => configureAll typeName (o.property :: seen) rest next

def firstBlankColumn (rules : List (Rule σ)) : Option (Rule σ) :=
  rules.find? fun r => Text.isBlankText r.column

def ofDescriptor (d : Descriptor σ) (overrides : List Override) (strict : Bool) :
    Except ConfigurationError (RuleSet σ) :=
  match configureAll d.typeName [] overrides (d.eligible.map Rule.ofProperty) with
  | .error e => .error e
  | .ok rules =>
    match firstBlankColumn rules with
    | some r => .error (.blankColumn d.typeName r.name)
    | none => .ok ⟨d.typeName, rules, strict⟩

/-- The rule set of a described type, or the reason why there is none. -/
def build (described : Except ConfigurationError (Descriptor σ)) (overrides : List Override)
    (strict : Bool) : Logged (Except ConfigurationError (RuleSet σ)) :=
  match described with
  | .error e => pure (.error e)
  | .ok d =>
    match ofDescriptor d overrides strict with
    | .error e => pure (.error e)
    | .ok s => do
      .emit (.ruleSetBuilt s.typeName s.rules.length overrides.length strict)
      return .ok s

end RuleSet

end RecordMapping
