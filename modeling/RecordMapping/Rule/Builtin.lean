import RecordMapping.Rule
import RecordMapping.Text.Case

/-!
# RecordMapping.Rule.Builtin — processors that rules files can name

They change text alone.  Trimming and the two case maps are one piece of code with different keys.
-/

namespace RecordMapping.Processor

/-- Applies `f` to text and leaves every other value as it is. -/
def onText (f : String → Value) : Kind → Value → Value → Except String Value
  | _, .text s, _ => .ok (f s)
  | _, v, _ => .ok v

def textCode : CodeIdentity := ⟨"text map"⟩

def emptyCode : CodeIdentity := ⟨"empty text"⟩

def trim : Processor := ⟨"trim", textCode, onText fun s => .text (Text.trim s)⟩

def uppercase : Processor := ⟨"uppercase", textCode, onText fun s => .text (Text.upper s)⟩

def lowercase : Processor := ⟨"lowercase", textCode, onText fun s => .text (Text.lower s)⟩

def emptyAsNull : Processor :=
  ⟨"empty_as_null", emptyCode, onText fun s => if Text.isBlankText s then .null else .text s⟩

def builtins : List Processor := [trim, uppercase, lowercase, emptyAsNull]

def builtin? (name : String) : Option Processor := builtins.find? fun p => decide (p.key = name)

end RecordMapping.Processor
