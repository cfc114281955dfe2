import RecordMapping.Cache
import RecordMapping.Command.Files
import RecordMapping.Command.Settings
import RecordMapping.Row.Csv.Cursor
import RecordMapping.RulesFile

/-!
# RecordMapping.Command.Session — from the files of a command to a projector and a cursor

A command loads its rules file, makes the rules, compiles them and opens its table, in this order;
the first of these that fails ends it with a `Failure`.
-/

namespace RecordMapping.Command

/-- Why a command fails. -/
inductive Failure
  | loadRules (path : String) (error : ConfigurationError)
  | buildRules (error : ConfigurationError)
  | compile (error : MappingError)
  | delimiter
  | openTable (path : String) (error : CursorError)
  | mapRows (path : String) (error : MappingError)
  deriving DecidableEq, Repr

namespace Failure

/-- What was being done, and the messages of the causes, the nearest first. -/
def chain : Failure → List String
  | loadRules path error => ("load rules file " ++ path) :: error.message :: error.causes
  | buildRules error => "build mapping rules" :: error.message :: error.causes
  | compile error => "compile projector" :: error.message :: error.causes
  | delimiter => ["delimiter must be a single ASCII character"]
  | openTable path error => ("open csv " ++ path) :: error.message :: error.causes
  | mapRows path error => ("map rows of " ++ path) :: error.message :: error.causes

def message (f : Failure) : String := ": ".intercalate f.chain

end Failure

/-! ### Projectors of records -/

/-- The one type that rules files describe. -/
inductive RecordTarget
  | record
  deriving DecidableEq, Repr

instance : TargetFamily RecordTarget where
  State _ := Record
  target _ := inferInstanceAs (Target Record)

/-- A command keeps nothing but projectors. -/
abbrev RecordEntry : EntryType RecordTarget Empty → Type :=
  @EntryType.Carrier RecordTarget Empty _ fun e => nomatch e

abbrev RecordCache := Cache RecordTarget RecordEntry

abbrev RecordProjector := Projector RecordTarget Record

/-! ### Rules -/

def readRules (files : Files) (path : String) : Except ConfigurationError RulesFile :=
  match files.readText path with
  | .error cause => .error (.unreadableRules path cause)
  | .ok text => RulesFile.read text

def loadRules (files : Files) (path : String) : Logged (Except Failure RulesFile) :=
  match readRules files path with
  | .error e => pure (.error (.loadRules path e))
  | .ok f => do
    .emit (.rulesLoaded path f.target f.properties.length)
    .emit (.rulesReady f.target f.strict)
    return .ok f

/-- The projector of a rule set, by way of an empty cache. -/
def projectorOf (rules : RuleSet Record) (command : String) :
    Logged (Except Failure RecordProjector) := do
  let fetched ← Cache.fetch (Cache.empty : RecordCache) .record rules command
  match fetched.answer with
  | .error e => return .error (.compile e)
  | .ok shared => return .ok shared.value

/-! ### Tables -/

/-- The options of the reader; none if the delimiter is not an ASCII character. -/
def csvOptions? (i : Input) : Option CsvOptions :=
  if i.delimiter.toNat < 0x80 then
    some ⟨UInt8.ofNat i.delimiter.toNat, !i.keepEmpty, !i.keepBlanks⟩
  else none

def readTable (files : Files) (options : CsvOptions) (path : String) :
    Except CursorError CsvCursor :=
  match files.read path with
  | .error e => .error (.io e.message)
  | .ok bytes => CsvCursor.openInput options ⟨bytes, none⟩

def openTable (files : Files) (i : Input) : Logged (Except Failure CsvCursor) :=
  match csvOptions? i with
  | none => pure (.error .delimiter)
  | some options =>
    match readTable files options i.table with
    | .error e => pure (.error (.openTable i.table e))
    | .ok cursor => do
      .emit (.csvOpened i.table cursor.shape.width)
      return .ok cursor

/-! ### Sessions -/

/-- Everything that a command has made before it looks at the first row. -/
structure Session where
  rules : RuleSet Record
  command : String
  projector : RecordProjector
  cursor : CsvCursor

namespace Session

def start (files : Files) (i : Input) (strict : Bool) : Logged (Except Failure Session) := do
  match ← loadRules files i.rules with
  | .error e => return .error e
  | .ok file =>
    match ← file.ruleSet strict with
    | .error e => return .error (.buildRules e)
    | .ok rules =>
      match ← projectorOf rules file.commandId with
      | .error e => return .error e
      | .ok projector =>
        match ← openTable files i with
        | .error e => return .error e
        | .ok cursor => return .ok ⟨rules, file.commandId, projector, cursor⟩

end Session

end RecordMapping.Command
