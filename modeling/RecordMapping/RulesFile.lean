import RecordMapping.Json.Reader
import RecordMapping.Rule.Builtin
import RecordMapping.RuleSet

/-!
# RecordMapping.RulesFile — rules written as a document

A rules file describes records: their type name, their properties with kinds, columns and
processors.  `RulesFile.parse?` reads it from a JSON text, `RulesFile.toJson` writes it back, and
`RulesFile.ruleSet` makes the rules.  A property that is read-only gets no rule, whatever else its
entry says.
-/

namespace RecordMapping

structure PropertyEntry where
  name : String
  kind : Kind := .any
  column : Option String := none
  processors : List String := []
  readOnly : Bool := false
  deriving DecidableEq, Repr

structure RulesFile where
  target : String
  command : Option String := none
  strict : Bool := false
  properties : List PropertyEntry
  deriving DecidableEq, Repr

/-! ### Writing -/

namespace PropertyEntry

def optionalText : Option String → Json
  | some s => .string s
  | none => .null

def toJson (p : PropertyEntry) : Json :=
  .object [("name", .string p.name), ("kind", .string p.kind.name), ("alias", optionalText p.column),
    ("processors", .array (p.processors.map .string)), ("read_only", .bool p.readOnly)]

end PropertyEntry

namespace RulesFile

def toJson (f : RulesFile) : Json :=
  .object [("target", .string f.target), ("command", PropertyEntry.optionalText f.command),
    ("strict_columns", .bool f.strict), ("properties", .array (f.properties.map PropertyEntry.toJson))]

end RulesFile

/-! ### Reading -/

namespace Json

/-- The members of an object as values of the named fields, in their order; none if a member is
repeated or has a name that is not listed. -/
def fieldValues? (names : List String) (members : List (String × Json)) :
    Option (List (Option Json)) :=
  let given := members.map Prod.fst
  if given.all (fun name => decide (name ∈ names)) = true ∧ given.Nodup then
    some (names.map fun name => (members.find? fun m => decide (m.1 = name)).map Prod.snd)
  else none

/-- The fields of a structure, written as an object or as an array of the fields in order.  An
array may stop early. -/
def structure? (names : List String) : Json → Option (List (Option Json))
  | object members => fieldValues? names members
  | array items =>
    if items.length ≤ names.length then
      some (items.map some ++ List.replicate (names.length - items.length) none)
    else none
  | _ => none

def string? : Json → Option String
  | string s => some s
  | _ => none

def bool? : Json → Option Bool
  | bool b => some b
  | _ => none

def array? : Json → Option (List Json)
  | array items => some items
  | _ => none

/-- A field that may be left out. -/
def orDefault {α : Type} (default : α) (read : Json → Option α) : Option Json → Option α
  | none => some default
  | some j => read j

/-- A field that may be left out or null. -/
def orNull {α : Type} (read : Json → Option α) : Option Json → Option (Option α)
  | none => some none
  | some null => some none
  | some j => (read j).map some

end Json

namespace PropertyEntry

/-- A kind is written by its name, or as the one member of an object whose value is null. -/
def kind? : Json → Option Kind
  | .string s => Kind.ofName? s
  | .object [(name, .null)] => Kind.ofName? name
  | _ => none

def fieldNames : List String := ["name", "kind", "alias", "processors", "read_only"]

def ofJson? (j : Json) : Option PropertyEntry := do
  match ← j.structure? fieldNames with
  | [some name, kind, column, processors, readOnly] =>
    return {
      name := ← name.string?
      kind := ← Json.orDefault .any kind? kind
      column := ← Json.orNull Json.string? column
      processors := ← Json.orDefault [] (fun j => do (← j.array?).mapM Json.string?) processors
      readOnly := ← Json.orDefault false Json.bool? readOnly }
  | _ => none

end PropertyEntry

namespace RulesFile

def fieldNames : List String := ["target", "command", "strict_columns", "properties"]

def ofJson? (j : Json) : Option RulesFile := do
  match ← j.structure? fieldNames with
  | [some target, command, strict, some properties] =>
    return {
      target := ← target.string?
      command := ← Json.orNull Json.string? command
      strict := ← Json.orDefault false Json.bool? strict
      properties := ← (← properties.array?).mapM PropertyEntry.ofJson? }
  | _ => none

def parse? (text : String) : Option RulesFile := (Json.parse? text).bind ofJson?

def read (text : String) : Except ConfigurationError RulesFile :=
  match parse? text with
  | some f => .ok f
  | none => .error .invalidRules

/-! ### Rules -/

/-- The command that a rules file belongs to; its target's name unless it names one. -/
def commandId (f : RulesFile) : String := f.command.getD f.target

def schema (f : RulesFile) : Schema :=
  ⟨f.target, f.properties.map fun p => ⟨p.name, p.kind, none, p.readOnly⟩⟩

/-- Does the entry change the default rule of its property? -/
def isOverride (p : PropertyEntry) : Bool :=
  !p.readOnly && (p.column.isSome || !p.processors.isEmpty)

def processors (property : String) : List String → Except ConfigurationError (List Processor)
  | [] => .ok []
  | name :: rest =>
    match Processor.builtin? name with
    | none => .error (.unknownProcessor property name)
    | some p => (processors property rest).map (p :: ·)

def override (p : PropertyEntry) : Except ConfigurationError Override :=
  (processors p.name p.processors).map fun ps =>
    ⟨p.name, (p.column.map Rule.Action.column).toList ++ ps.map Rule.Action.process⟩

def overrides (f : RulesFile) : Except ConfigurationError (List Override) :=
  (f.properties.filter isOverride).mapM override

/-- The rules of the file; `strict` makes them strict even if the file does not. -/
def ruleSet (f : RulesFile) (strict : Bool) :
    Logged (Except ConfigurationError (RuleSet Record)) :=
  match f.overrides with
  | .error e => pure (.error e)
  | .ok overrides => RuleSet.build f.schema.describe overrides (f.strict || strict)

end RulesFile

end RecordMapping
