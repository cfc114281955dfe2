import RecordMapping.Text.Utf8

/-!
# RecordMapping.Command.Files — the files that a command reads
-/

namespace RecordMapping.Command

/-- Why a file cannot be used. -/
inductive FileError
  | notFound
  | notPermitted
  | isDirectory
  | notDirectory
  | nameTooLong
  | other (message : String)
  deriving DecidableEq, Repr

namespace FileError

def message : FileError → String
  | notFound => "No such file or directory (os error 2)"
  | notPermitted => "Permission denied (os error 13)"
  | isDirectory => "Is a directory (os error 21)"
  | notDirectory => "Not a directory (os error 20)"
  | nameTooLong => "File name too long (os error 36)"
  | other message => message

end FileError

/-- What is known of the files that a run may name: their contents, and whether a log can be
appended to them. -/
structure Files where
  read : String → Except FileError (List UInt8)
  append : String → Except FileError Unit

namespace Files

/-- The text of a file, or the reason why it cannot be read as text. -/
def readText (f : Files) (path : String) : Except String String :=
  match f.read path with
  | .error e => .error e.message
  | .ok bytes =>
    match Text.decode? bytes with
    | some text => .ok text
    | none => .error "stream did not contain valid UTF-8"

end Files

end RecordMapping.Command
