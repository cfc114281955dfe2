import RecordMapping.Target.Record
import RecordMapping.Value.Conversion
import RecordMapping.Text.Blank

/-!
# RecordMapping.Target.Property — the properties of a target type

A target is a type `σ` with an initial value; a `Property σ` reads and writes one part of it.  A
`Descriptor σ` lists the properties of a target in declaration order, no name twice.
-/

namespace RecordMapping

/-- Why rules cannot be made or compiled. -/
inductive ConfigurationError
  | blankTypeName (typeName : String)
  | duplicateProperty (typeName property : String)
  | duplicateRule (typeName property : String)
  | unknownProperty (typeName property : String)
  | blankColumn (typeName property : String)
  | unknownProcessor (property name : String)
  | fingerprintMismatch (typeName fingerprintType : String)
  | unreadableRules (path cause : String)
  | invalidRules
  deriving DecidableEq, Repr

namespace ConfigurationError

def message : ConfigurationError → String
  | blankTypeName typeName =>
    "failed to describe result type " ++ typeName ++ ": target type name is empty"
  | duplicateProperty typeName property =>
    "result type " ++ typeName ++ " declares property " ++ property ++ " more than once"
  | duplicateRule typeName property =>
    "property " ++ property ++ " of " ++ typeName ++ " is configured more than once"
  | unknownProperty typeName property =>
    typeName ++ " has no mappable property named " ++ property
  | blankColumn typeName property =>
    "property " ++ property ++ " of " ++ typeName ++ " has an empty alias"
  | unknownProcessor property name =>
    "unknown value processor '" ++ name ++ "' configured for property " ++ property
  | fingerprintMismatch typeName fingerprintType =>
    "fingerprint for " ++ fingerprintType ++ " cannot compile rules of " ++ typeName
  | unreadableRules path _ => "failed to read rules file " ++ path
  | invalidRules => "invalid rules file"

/-- The messages of the causes behind the error, the nearest first. -/
def causes : ConfigurationError → List String
  | unreadableRules _ cause => [cause]
  | _ => []

end ConfigurationError

/-- A type that rows are mapped into. -/
class Target (σ : Type) where
  initial : σ

instance : Target Record := ⟨Record.empty⟩

structure Property (σ : Type) where
  name : String
  kind : Kind
  settable : Bool
  column : Option String
  get : σ → Value
  /-- Writes in place: what the caller is told, and the target as it is left, also by a failure. -/
  put : σ → Value → Except ConversionError Unit × σ

namespace Property

variable {σ : Type}

/-- The target that a value was written into. -/
def set (p : Property σ) (s : σ) (v : Value) : Except ConversionError σ :=
  match p.put s v with
  | (.ok (), next) => .ok next
  | (.error e, _) => .error e

/-- Converts a value and stores what it converts to. -/
def storing {α : Type} (convert : Value → Except ConversionError α) (store : σ → α → σ) (s : σ)
    (v : Value) : Except ConversionError Unit × σ :=
  match convert v with
  | .ok a => (.ok (), store s a)
  | .error e => (.error e, s)

theorem set_of_storing {α : Type} {convert : Value → Except ConversionError α} {store : σ → α → σ}
    {p : Property σ} (h : p.put = storing convert store) (s : σ) (v : Value) :
    p.set s v = (convert v).map (store s) := by
  rw [set, h, storing]
  cases convert v <;> rfl

/-- A property that is a field of type `t`, converted on the way in and out. -/
def ofField (name : String) (t : FieldType) (get : σ → t.Carrier) (set : σ → t.Carrier → σ) :
    Property σ where
  name
  kind := t.kind
  settable := true
  column := none
  get s := t.write (get s)
  put := storing t.read set

theorem set_ofField (name : String) (t : FieldType) (get : σ → t.Carrier)
    (store : σ → t.Carrier → σ) (s : σ) (v : Value) :
    (ofField name t get store).set s v = (t.read v).map (store s) :=
  set_of_storing rfl s v

def withColumn (p : Property σ) (column : String) : Property σ := { p with column := some column }

def readOnly (p : Property σ) : Property σ := { p with settable := false }

/-- The column that a property is read from unless a rule names another. -/
def defaultColumn (p : Property σ) : String := p.column.getD p.name

end Property

structure Descriptor (σ : Type) where
  typeName : String
  properties : List (Property σ)
  nodup : (properties.map Property.name).Nodup

namespace Descriptor

variable {σ : Type}

/-- The first name that repeats an earlier one. -/
def firstRepeated (seen : List String) : List String → Option String
  | [] => none
  | name :: rest => if name ∈ seen then some name else firstRepeated (name :: seen) rest

/-- Looking past a new name is to have seen it. -/
theorem unseen_cons {seen names : List String} {name : String} :
    ((name :: names).Nodup ∧ ∀ n ∈ name :: names, n ∉ seen) ↔
      name ∉ seen ∧ names.Nodup ∧ ∀ n ∈ names, n ∉ name :: seen := by
  rw [List.nodup_cons, List.forall_mem_cons]
  simp only [List.mem_cons, not_or]
  constructor
  · rintro ⟨⟨hnew, hnodup⟩, hname, hnames⟩
    refine ⟨hname, hnodup, fun n hn => ⟨?_, hnames n hn⟩⟩
    rintro rfl
    exact hnew hn
  · rintro ⟨hname, hnodup, hnames⟩
    exact ⟨⟨fun hmem => (hnames name hmem).1 rfl, hnodup⟩, hname, fun n hn => (hnames n hn).2⟩

theorem firstRepeated_eq_none {seen names : List String} :
    firstRepeated seen names = none ↔ names.Nodup ∧ ∀ n ∈ names, n ∉ seen := by
  induction names generalizing seen with
  | nil => simp [firstRepeated]
  | cons name rest ih =>
    rw [unseen_cons, ← ih, firstRepeated]
    by_cases hname : name ∈ seen
    · simp [hname]
    · simp [hname]

theorem firstRepeated_nil {names : List String} : firstRepeated [] names = none ↔ names.Nodup := by
  simp [firstRepeated_eq_none]

def make (typeName : String) (properties : List (Property σ)) :
    Except ConfigurationError (Descriptor σ) :=
  match h : firstRepeated [] (properties.map Property.name) with
  | some name => .error (.duplicateProperty typeName name)
  | none => .ok ⟨typeName, properties, firstRepeated_nil.mp h⟩

/-- The properties that rows can fill. -/
def eligible (d : Descriptor σ) : List (Property σ) := d.properties.filter Property.settable

end Descriptor

/-! ### Records described by a schema -/

structure SchemaProperty where
  name : String
  kind : Kind
  column : Option String
  readOnly : Bool
  deriving DecidableEq, Repr

structure Schema where
  typeName : String
  properties : List SchemaProperty
  deriving DecidableEq, Repr

namespace SchemaProperty

/-- Writing coerces to the declared kind; a field never written reads as null. -/
def toProperty (p : SchemaProperty) : Property Record where
  name := p.name
  kind := p.kind
  settable := !p.readOnly
  column := p.column
  get r := (r.get? p.name).getD .null
  put := Property.storing (coerce p.kind) fun r v => r.set p.name v

theorem set_toProperty (p : SchemaProperty) (r : Record) (v : Value) :
    p.toProperty.set r v = (coerce p.kind v).map (r.set p.name) := by
  have hput : p.toProperty.put = Property.storing (coerce p.kind) fun r v => r.set p.name v := rfl
  exact Property.set_of_storing hput r v

end SchemaProperty

namespace Schema

def describe (s : Schema) : Except ConfigurationError (Descriptor Record) :=
  if Text.isBlankText s.typeName then .error (.blankTypeName s.typeName)
  else Descriptor.make s.typeName (s.properties.map SchemaProperty.toProperty)

end Schema

end RecordMapping
