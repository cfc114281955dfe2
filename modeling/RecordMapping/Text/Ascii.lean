/-!
# RecordMapping.Text.Ascii — comparison that ignores the case of ASCII letters

Letters outside ASCII compare as they are, so `É` and `é` stay different.
-/

namespace RecordMapping.Text

def lowerAscii (s : String) : String := String.ofList (s.toList.map Char.toLower)

def sameIgnoringCase (s t : String) : Bool :=
  decide (s.toList.map Char.toLower = t.toList.map Char.toLower)

end RecordMapping.Text
