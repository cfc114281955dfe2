import RecordMapping.Cache
import RecordMapping.Outline
import RecordMapping.Row.Csv.Cursor

/-!
# RecordMapping.Outline.Library — outlines of shapes, cursors, rules, projectors and caches

Conditions and processors show their keys; what they do cannot be shown.
-/

namespace RecordMapping

def Kind.outline : Kind → Outline
  | bool => .word "Bool"
  | int => .word "Int"
  | float => .word "Float"
  | text => .word "Text"
  | bytes => .word "Bytes"
  | any => .word "Any"

def Shape.outline (s : Shape) : Outline := Outline.texts s.columns

def CsvOptions.outline (o : CsvOptions) : Outline :=
  .record "CsvOptions" [("delimiter", .number o.delimiter.toNat),
    ("empty_as_null", .flag o.emptyAsNull), ("trim", .flag o.trim)] true

def CsvCursor.outline (c : CsvCursor) : Outline :=
  .record "CsvCursor" [("shape", c.shape.outline), ("options", c.options.outline),
    ("rows", .number c.rows)] false

variable {τ σ : Type}

def Property.outline (p : Property σ) : Outline :=
  .record "PropertyDescriptor" [("name", .text p.name), ("kind", p.kind.outline),
    ("settable", .flag p.settable), ("alias", .optional (p.column.map .text))] false

def Descriptor.outline (d : Descriptor σ) : Outline :=
  .record "ResultTypeDescriptor" [("type_name", .text d.typeName),
    ("properties", .list (d.properties.map Property.outline))] true

def Condition.outline (c : Condition) : Outline := .apply "Condition" [.text c.key]

def Processor.outline (p : Processor) : Outline := .apply "ValueProcessor" [.text p.key]

def Rule.outline (r : Rule σ) : Outline :=
  .record "PropertyMappingRule" [("property", .text r.name), ("alias", .text r.column),
    ("condition", .optional (r.condition.map Condition.outline)),
    ("processors", .list (r.processors.map Processor.outline))] true

def RuleSet.outline (s : RuleSet σ) : Outline :=
  .record "MappingRuleSet" [("type_name", .text s.typeName),
    ("rules", .list (s.rules.map Rule.outline)), ("strict_columns", .flag s.strict)] true

def Projector.outline (p : Projector τ σ) : Outline :=
  .record "CompiledProjector" [("fingerprint", .text p.fingerprint.hex),
    ("target_type", .text p.targetType), ("aliases", .texts p.columns),
    ("strict_columns", .flag p.strict)] false

def Cache.outline {κ : Type} {El : κ → Type} (c : Cache τ El) : Outline :=
  .record "ProjectorCache" [("entries", .number c.size), ("compilations", .number c.compilations)]
    true

end RecordMapping
