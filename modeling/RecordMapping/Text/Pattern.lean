import RecordMapping.Text.Pattern.Reader
import RecordMapping.Text.Pattern.Search

/-!
# RecordMapping.Text.Pattern — patterns of texts

A pattern is looked for anywhere in a text.  It fits if the occurrence that is found ends with the
text: the one that begins first, and of those the one that the order of alternatives and
repetitions prefers.  So `a` fits `ba` but not `ab`, and `a*` does not fit `ba`, where it occurs at
the front with nothing in it.
-/

namespace RecordMapping.Text

structure Pattern where
  source : List Char
  expression : Pattern.Expression
  read_source : Pattern.expression? source = some expression

namespace Pattern

def parse? (cs : List Char) : Option Pattern :=
  match h : expression? cs with
  | some e => some ⟨cs, e, h⟩
  | none => none

/-- Patterns that are written alike are equal. -/
theorem ext_source {p q : Pattern} (h : p.source = q.source) : p = q := by
  obtain ⟨cs, d, hd⟩ := p
  obtain ⟨ds, e, he⟩ := q
  cases h
  cases hd.symm.trans he
  rfl

instance : DecidableEq Pattern := fun p q =>
  if h : p.source = q.source then isTrue (ext_source h)
  else isFalse fun e => h (congrArg Pattern.source e)

instance : Repr Pattern where
  reprPrec p := reprPrec (String.ofList p.source)

def program (p : Pattern) : Program := Program.search p.expression

def fits (p : Pattern) (cs : List Char) : Bool := p.program.foundAtEnd cs

end Pattern

end RecordMapping.Text
