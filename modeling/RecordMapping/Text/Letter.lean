import RecordMapping.Text.CharSet
import RecordMapping.Text.LetterTable

/-!
# RecordMapping.Text.Letter — letters and numbers of all scripts
-/

namespace RecordMapping.Text

def isAlphabetic (c : Char) : Bool := c.isAlpha || inRanges alphabeticRanges c

def isNumeric (c : Char) : Bool := c.isDigit || inRanges numericRanges c

def isAlphanumeric (c : Char) : Bool := isAlphabetic c || isNumeric c

end RecordMapping.Text
