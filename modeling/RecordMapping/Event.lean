/-!
# RecordMapping.Event — what the library reports while it works

An `Event` is one thing worth a log line.  Its level, source, message and fields are functions of
it.  No event holds a cell value.  `Logged α` is a result together with the events on the way to it.
-/

namespace RecordMapping

inductive Level
  | error
  | warn
  | info
  | debug
  | trace
  deriving DecidableEq, Repr

namespace Level

def all : List Level := [error, warn, info, debug, trace]

/-- The more detailed a level is, the larger its rank. -/
def rank : Level → Nat
  | error => 1
  | warn => 2
  | info => 3
  | debug => 4
  | trace => 5

def name : Level → String
  | error => "ERROR"
  | warn => "WARN"
  | info => "INFO"
  | debug => "DEBUG"
  | trace => "TRACE"

end Level

/-- The part of the library that an event comes from. -/
inductive Source
  | ruleSet
  | compiler
  | presence
  | cache
  | materializer
  | rulesFile
  | csvCursor
  | command
  deriving DecidableEq, Repr

/-- The name by which log filters select a source. -/
def Source.path : Source → String
  | ruleSet => "rowmap_map::rule_set"
  | compiler => "rowmap_map::compiler"
  | presence => "rowmap_map::presence"
  | cache => "rowmap_map::cache"
  | materializer => "rowmap_map::materializer"
  | rulesFile => "rowmap_map::config"
  | csvCursor => "rowmap_ingest::csv_cursor"
  | command => "rowmap_cli::commands"

inductive Event
  | ruleSetBuilt (targetType : String) (rules overrides : Nat) (strict : Bool)
  | projectorCompiled (targetType fingerprint : String) (fields : Nat)
  | ordinalsResolved (width present names : Nat)
  | columnAbsent (property column : String)
  | nullSkipped (property column : String)
  | fieldDeclined (property : String)
  | projectorCached (fingerprint targetType : String)
  | compilationFailed (fingerprint targetType cause : String)
  | rowsMaterialized (targetType : String) (rows shapes : Nat)
  | rulesLoaded (path targetType : String) (properties : Nat)
  | rulesReady (targetType : String) (strict : Bool)
  | csvOpened (path : String) (columns : Nat)
  | bindingsInspected (targetType : String) (properties absent : Nat)
  | rowsMapped (targetType : String) (records : Nat)
  deriving DecidableEq, Repr

/-- What a field of an event holds.  `elapsed` is the time since the work began, which only the
clock of the running program knows. -/
inductive FieldValue
  | text (s : String)
  | number (n : Nat)
  | flag (b : Bool)
  | elapsed
  deriving DecidableEq, Repr

namespace Event

def level : Event → Level
  | ruleSetBuilt .. | projectorCompiled .. | projectorCached .. | rowsMaterialized ..
  | rulesLoaded .. | rulesReady .. | csvOpened .. => .debug
  | ordinalsResolved .. | columnAbsent .. | nullSkipped .. | fieldDeclined .. => .trace
  | compilationFailed .. => .warn
  | bindingsInspected .. | rowsMapped .. => .info

def source : Event → Source
  | ruleSetBuilt .. => .ruleSet
  | projectorCompiled .. | columnAbsent .. | nullSkipped .. | fieldDeclined .. => .compiler
  | ordinalsResolved .. => .presence
  | projectorCached .. | compilationFailed .. => .cache
  | rowsMaterialized .. => .materializer
  | rulesLoaded .. => .rulesFile
  | csvOpened .. => .csvCursor
  | rulesReady .. | bindingsInspected .. | rowsMapped .. => .command

def message : Event → String
  | ruleSetBuilt .. => "built mapping rule set"
  | projectorCompiled .. => "compiled projector"
  | ordinalsResolved .. => "resolved column ordinals for row shape"
  | columnAbsent .. => "column absent, skipped"
  | nullSkipped .. => "null value, skipped"
  | fieldDeclined .. => "condition declined field"
  | projectorCached .. => "cached compiled projector"
  | compilationFailed .. => "projector compilation failed; nothing cached"
  | rowsMaterialized .. => "materialized rows"
  | rulesLoaded .. => "loaded rules file"
  | rulesReady .. => "rules file ready"
  | csvOpened .. => "opened csv cursor"
  | bindingsInspected .. => "inspected bindings"
  | rowsMapped .. => "mapped rows"

def fields : Event → List (String × FieldValue)
  | ruleSetBuilt targetType rules overrides strict =>
    [("target_type", .text targetType), ("rules", .number rules),
      ("overrides", .number overrides), ("strict_columns", .flag strict)]
  | projectorCompiled targetType fingerprint fields =>
    [("target_type", .text targetType), ("fingerprint", .text fingerprint),
      ("fields", .number fields)]
  | ordinalsResolved width present names =>
    [("columns", .number width), ("present", .number present), ("aliases", .number names)]
  | columnAbsent property column => [("property", .text property), ("alias", .text column)]
  | nullSkipped property column => [("property", .text property), ("alias", .text column)]
  | fieldDeclined property => [("property", .text property)]
  | projectorCached fingerprint targetType =>
    [("fingerprint", .text fingerprint), ("target_type", .text targetType)]
  | compilationFailed fingerprint targetType cause =>
    [("fingerprint", .text fingerprint), ("target_type", .text targetType),
      ("error", .text cause)]
  | rowsMaterialized targetType rows shapes =>
    [("target_type", .text targetType), ("rows", .number rows), ("shapes", .number shapes)]
  | rulesLoaded path targetType properties =>
    [("path", .text path), ("target_type", .text targetType), ("properties", .number properties)]
  | rulesReady targetType strict =>
    [("target_type", .text targetType), ("strict_columns", .flag strict)]
  | csvOpened path columns => [("path", .text path), ("columns", .number columns)]
  | bindingsInspected targetType properties absent =>
    [("target_type", .text targetType), ("properties", .number properties),
      ("absent", .number absent)]
  | rowsMapped targetType records =>
    [("target_type", .text targetType), ("records", .number records), ("elapsed_ms", .elapsed)]

end Event

/-! ### Results with events -/

/-- A result and the events on the way to it, in order. -/
structure Logged (α : Type) where
  events : List Event
  value : α

namespace Logged

def emit (e : Event) : Logged Unit := ⟨[e], ()⟩

instance : Monad Logged where
  pure a := ⟨[], a⟩
  bind x f := ⟨x.events ++ (f x.value).events, (f x.value).value⟩

variable {α β : Type}

@[simp] theorem value_pure (a : α) : (pure a : Logged α).value = a := rfl

@[simp] theorem events_pure (a : α) : (pure a : Logged α).events = [] := rfl

@[simp] theorem value_bind (x : Logged α) (f : α → Logged β) :
    (x >>= f).value = (f x.value).value := rfl

@[simp] theorem events_bind (x : Logged α) (f : α → Logged β) :
    (x >>= f).events = x.events ++ (f x.value).events := rfl

@[simp] theorem value_map (f : α → β) (x : Logged α) : (f <$> x).value = f x.value := rfl

end Logged

end RecordMapping
