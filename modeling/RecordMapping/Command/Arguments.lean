import RecordMapping.Command.Settings

/-!
# RecordMapping.Command.Arguments — reading the words of a command line

The words before the name of a command belong to the program, those after it to the command; the
options about logging may stand in either place, and then the one after the command counts.  An
option that takes a value has it after `=` or as its next word, which must not look like an option.
After `--` no word is an option.

A value is looked at when the next option or file is met, so of two faults the first is reported,
apart from an unknown word, which is reported at once.
-/

namespace RecordMapping.Command

/-- Why words do not ask for a run. -/
inductive Refusal
  | help
  | version
  | noArguments
  | missingCommand
  | unknownCommand
  | missingArgument
  | unknownArgument
  | unexpectedValue
  | conflict
  | invalidValue
  | malformedValue
  deriving DecidableEq, Repr

/-- What can be given at most once, with a value. -/
inductive Slot
  | colour
  | logLevel
  | logLayout
  | logFile
  | rules
  | delimiter
  | format
  | table
  deriving DecidableEq, Repr

inductive Switch
  | keepBlanks
  | keepEmpty
  | strict
  deriving DecidableEq, Repr

inductive Counter
  | verbose
  | quiet
  deriving DecidableEq, Repr

/-- What an option does. -/
inductive Flag
  | value (s : Slot)
  | switch (s : Switch)
  | counter (c : Counter)
  | help
  | version
  deriving DecidableEq, Repr

/-- Where an option stands: with the program, or with one of its commands. -/
inductive Scope
  | program
  | inspect
  | map
  deriving DecidableEq, Repr

namespace Scope

def commandOptions : List (String × Flag) :=
  [("rules", .value .rules), ("delimiter", .value .delimiter), ("no-trim", .switch .keepBlanks),
    ("keep-empty", .switch .keepEmpty)]

def mapOptions : List (String × Flag) := [("strict", .switch .strict), ("format", .value .format)]

/-- The options that may stand anywhere. -/
def globalOptions : List (String × Flag) :=
  [("verbose", .counter .verbose), ("quiet", .counter .quiet), ("color", .value .colour),
    ("log-level", .value .logLevel), ("log-format", .value .logLayout),
    ("log-file", .value .logFile), ("help", .help)]

def longOptions : Scope → List (String × Flag)
  | program => globalOptions ++ [("version", .version)]
  | inspect => globalOptions ++ commandOptions
  | map => globalOptions ++ commandOptions ++ mapOptions

def shortOptions : Scope → List (Char × Flag)
  | program => [('v', .counter .verbose), ('q', .counter .quiet), ('h', .help), ('V', .version)]
  | inspect | map => [('v', .counter .verbose), ('q', .counter .quiet), ('h', .help)]

def long? (s : Scope) (name : String) : Option Flag :=
  (s.longOptions.find? fun o => decide (o.1 = name)).map Prod.snd

def short? (s : Scope) (c : Char) : Option Flag :=
  (s.shortOptions.find? fun o => decide (o.1 = c)).map Prod.snd

/-- A command takes one file, the program none. -/
def takesTable : Scope → Bool
  | program => false
  | inspect | map => true

end Scope

/-! ### Values -/

/-- What has been given so far. -/
structure Given where
  verbose : Nat := 0
  quiet : Nat := 0
  colour : Option ColourChoice := none
  logLevel : Option Level := none
  logLayout : Option Log.Layout := none
  logFile : Option String := none
  rules : Option String := none
  table : Option String := none
  delimiter : Option Char := none
  keepBlanks : Bool := false
  keepEmpty : Bool := false
  strict : Bool := false
  format : Option OutputFormat := none
  deriving DecidableEq, Repr

namespace Given

def count (g : Given) : Counter → Given
  | .verbose => { g with verbose := min 255 (g.verbose + 1) }
  | .quiet => { g with quiet := min 255 (g.quiet + 1) }

/-- A switch may be given once. -/
def turnOn (g : Given) (s : Switch) : Except Refusal Given :=
  match s with
  | .keepBlanks => if g.keepBlanks then .error .conflict else .ok { g with keepBlanks := true }
  | .keepEmpty => if g.keepEmpty then .error .conflict else .ok { g with keepEmpty := true }
  | .strict => if g.strict then .error .conflict else .ok { g with strict := true }

def path? (s : String) : Except Refusal (Option String) :=
  if s.isEmpty then .error .invalidValue else .ok (some s)

def choice {α : Type} (read : String → Option α) (s : String) : Except Refusal (Option α) :=
  match read s with
  | some a => .ok (some a)
  | none => .error .invalidValue

def character (s : String) : Except Refusal (Option Char) :=
  match s.toList with
  | [c] => .ok (some c)
  | _ => .error .malformedValue

/-- Does the slot hold a value? -/
def holds (g : Given) : Slot → Bool
  | .colour => g.colour.isSome
  | .logLevel => g.logLevel.isSome
  | .logLayout => g.logLayout.isSome
  | .logFile => g.logFile.isSome
  | .rules => g.rules.isSome
  | .delimiter => g.delimiter.isSome
  | .format => g.format.isSome
  | .table => g.table.isSome

def store (g : Given) (s : Slot) (value : String) : Except Refusal Given :=
  match s with
  | .colour => (choice ColourChoice.ofName? value).map fun v => { g with colour := v }
  | .logLevel => (choice levelOfName? value).map fun v => { g with logLevel := v }
  | .logLayout => (choice layoutOfName? value).map fun v => { g with logLayout := v }
  | .logFile => (path? value).map fun v => { g with logFile := v }
  | .rules => (path? value).map fun v => { g with rules := v }
  | .delimiter => (character value).map fun v => { g with delimiter := v }
  | .format => (choice OutputFormat.ofName? value).map fun v => { g with format := v }
  | .table => (path? value).map fun v => { g with table := v }

def put (g : Given) (s : Slot) (value : String) : Except Refusal Given :=
  if g.holds s then .error .conflict else g.store s value

end Given

/-! ### Words -/

/-- `pending` is the slot met last with its value, if that has been read, which is still to be
looked at. -/
structure Reading where
  given : Given := {}
  pending : Option (Slot × Option String) := none
  filesOnly : Bool := false
  tableSeen : Bool := false
  deriving DecidableEq, Repr

namespace Reading

/-- Looks at the pending value. -/
def settle (r : Reading) : Except Refusal Reading :=
  match r.pending with
  | none => .ok r
  | some (_, none) => .error .invalidValue
  | some (s, some value) => (r.given.put s value).map fun given => { r with given, pending := none }

/-- The slot that waits for its value. -/
def waiting? (r : Reading) : Option Slot :=
  match r.pending with
  | some (s, none) => some s
  | _ => none

/-- Takes an option, with the value after its `=`. -/
def take (r : Reading) (o : Flag) (attached : Option String) : Except Refusal Reading :=
  match o, attached with
  | .value s, some value => do
    let r ← r.settle
    return { r with given := ← r.given.put s value }
  | .value s, none => do
    let r ← r.settle
    return { r with pending := some (s, none) }
  | _, some _ => .error .unexpectedValue
  | .switch s, none => do
    let r ← r.settle
    return { r with given := ← r.given.turnOn s }
  | .counter c, none => do
    let r ← r.settle
    return { r with given := r.given.count c }
  | .help, none => do
    let _ ← r.settle
    throw .help
  | .version, none => do
    let _ ← r.settle
    throw .version

def takeLong (scope : Scope) (r : Reading) (body : List Char) : Except Refusal Reading :=
  let name := String.ofList (body.takeWhile (· != '='))
  let attached := match body.dropWhile (· != '=') with
    | [] => none
    | _ :: value => some (String.ofList value)
  match scope.long? name with
  | some o => r.take o attached
  | none => .error .unknownArgument

def takeShort (scope : Scope) (r : Reading) : List Char → Except Refusal Reading
  | [] => .ok r
  | c :: rest =>
    match scope.short? c with
    | some o => do takeShort scope (← r.take o none) rest
    | none => .error .unknownArgument

/-- Takes a word that is no option. -/
def takeFile (scope : Scope) (r : Reading) (word : String) : Except Refusal Reading :=
  if scope.takesTable && !r.tableSeen then do
    let r ← r.settle
    return { r with pending := some (.table, some word), tableSeen := true }
  else .error (if scope.takesTable then .unknownArgument else .unknownCommand)

def takeWord (scope : Scope) (r : Reading) (word : String) : Except Refusal Reading :=
  if r.filesOnly then r.takeFile scope word
  else
    match word.toList with
    | ['-', '-'] => .ok { r with filesOnly := true }
    | '-' :: '-' :: body => r.takeLong scope body
    | '-' :: c :: body => r.takeShort scope (c :: body)
    | _ =>
      match r.waiting? with
      | some s => .ok { r with pending := some (s, some word) }
      | none => r.takeFile scope word

def takeAll (scope : Scope) : Reading → List String → Except Refusal Given
  | r, [] => r.settle.map Reading.given
  | r, word :: rest => do takeAll scope (← r.takeWord scope word) rest

end Reading

/-! ### Command lines -/

namespace Given

/-- More and less detail cannot be asked for in one place. -/
def checkVerbosity (g : Given) : Except Refusal Unit :=
  if g.verbose ≠ 0 ∧ g.quiet ≠ 0 then .error .conflict else .ok ()

/-- Has anything been given? -/
def isNothing (g : Given) : Bool := decide (g = {})

def input? (g : Given) : Except Refusal Input :=
  match g.rules, g.table with
  | some rules, some table =>
    .ok ⟨rules, table, g.delimiter.getD ',', g.keepBlanks, g.keepEmpty⟩
  | _, _ => .error .missingArgument

def request (g : Given) (scope : Scope) (input : Input) : Request :=
  match scope with
  | .map => .map input g.strict (g.format.getD .json)
  | _ => .inspect input

/-- Of an option given in both places the one with the command counts. -/
def run (outer inner : Given) (request : Request) : Run where
  request
  verbose := if inner.verbose = 0 then outer.verbose else inner.verbose
  quiet := if inner.quiet = 0 then outer.quiet else inner.quiet
  colour := (inner.colour.or outer.colour).getD .auto
  logLevel := inner.logLevel.or outer.logLevel
  logLayout := (inner.logLayout.or outer.logLayout).getD .pretty
  logFile := inner.logFile.or outer.logFile

end Given

def isCommandName (word : String) : Bool :=
  decide (word = "inspect" ∨ word = "map" ∨ word = "help")

/-- Help on a command, or on the program if none is named. -/
def readHelp : List String → Refusal
  | [] => .help
  | [word] => if isCommandName word then .help else .unknownCommand
  | _ => .unknownCommand

/-- The words of a command, and then the last value of the program. -/
def readCommand (scope : Scope) (outer : Reading) (words : List String) : Except Refusal Run := do
  let inner ← Reading.takeAll scope {} words
  inner.checkVerbosity
  let input ← inner.input?
  let outer ← outer.settle
  outer.given.checkVerbosity
  return outer.given.run inner (inner.request scope input)

/-- The words up to the name of a command. -/
def readProgram (r : Reading) : List String → Except Refusal Run
  | [] => do
    let r ← r.settle
    if r.given.isNothing then throw .noArguments else throw .missingCommand
  | word :: rest =>
    if isCommandName word && r.filesOnly then .error .unknownArgument
    else if isCommandName word && r.waiting?.isNone then
      if word = "map" then readCommand .map r rest
      else if word = "inspect" then readCommand .inspect r rest
      else .error (readHelp rest)
    else do readProgram (← r.takeWord .program word) rest

def readArguments (words : List String) : Except Refusal Run := readProgram {} words

end RecordMapping.Command
