import DecompilerBridge.Json.Scan
import DecompilerBridge.Number.Shortest
import DecompilerBridge.Resolver
import DecompilerBridge.Script.Engine

/-!
# The configuration file

The configuration file of the shell: a JSON object with up to four fields, or the array of their
values in order. The text is read from the left, and the first problem is the one that is reported,
be it that the text is no JSON or that a value does not fit its field.
-/

set_option autoImplicit false

namespace DecompilerBridge.Shell

open Json

/-- The fields of a configuration file. -/
inductive Field where
  | program
  | home
  | timeout
  | preferences
deriving DecidableEq, Repr

namespace Field

def name : Field → String
  | program => "r2"
  | home => "home"
  | timeout => "timeout_secs"
  | preferences => "preferences"

/-- The fields in the order of an array. -/
def all : List Field := [program, home, timeout, preferences]

/-- The field with a name. -/
def ofName? (name : String) : Option Field := all.find? fun f => decide (f.name = name)

end Field

/-- A JSON token that does not fit, as a diagnostic names it. -/
inductive Found where
  | null
  | integer (n : Int)
  | float (x : Number)
  | string (s : String)
  | boolean (b : Bool)
  | sequence
  | map
deriving DecidableEq, Repr

def Found.name : Found → String
  | null => "null"
  | integer n => "integer `" ++ toString n ++ "`"
  | float x => "floating point `" ++ x.text .diagnostic ++ "`"
  | string s => "string " ++ Text.shown s
  | boolean b => "boolean `" ++ (if b then "true" else "false") ++ "`"
  | sequence => "sequence"
  | map => "map"

/-- The token that a number literal is found as. -/
def Found.ofLiteral : Literal → Found
  | .natural n => .integer n
  | .negative n => .integer (-n)
  | .float x => .float x

/-- What a place in a configuration file expects. -/
inductive Expected where
  | config
  | path
  | seconds
  | map
  | string
deriving DecidableEq, Repr

def Expected.name : Expected → String
  | config => "struct ShellConfig"
  | path => "path string"
  | seconds => "u64"
  | map => "a map"
  | string => "a string"

/-- Why a text is no configuration file. -/
inductive ConfigError where
  | ended
  | malformed
  | unknownField (name : String)
  | duplicateField (field : Field)
  | wrongType (found : Found) (expected : Expected)
  | outOfRange (n : Int) (expected : Expected)
deriving DecidableEq, Repr

namespace ConfigError

/-- A fault of the JSON text itself. -/
def ofFault : Fault → ConfigError
  | .ended => .ended
  | .malformed => .malformed

/-- The detail of a problem with well-formed JSON. -/
def detail? : ConfigError → Option String
  | ended => none
  | malformed => none
  | unknownField name =>
    some ("unknown field `" ++ name ++ "`, expected one of " ++
      String.intercalate ", " (Field.all.map fun f => "`" ++ f.name ++ "`"))
  | duplicateField f => some ("duplicate field `" ++ f.name ++ "`")
  | wrongType found expected =>
    some ("invalid type: " ++ found.name ++ ", expected " ++ expected.name)
  | outOfRange n expected =>
    some ("invalid value: integer `" ++ toString n ++ "`, expected " ++ expected.name)

end ConfigError

/-- A configuration file. Absent fields are `none`, absent preferences the empty table. -/
structure ShellConfig where
  program : Option String := none
  home : Option String := none
  /-- Seconds until a run is interrupted. -/
  timeout : Option Nat := none
  preferences : Table String := []
deriving DecidableEq, Repr

namespace ShellConfig

/-- Use a scanner of JSON as a reader. -/
def scanned {α : Type} (x : Except Fault α) : Except ConfigError α := x.mapError ConfigError.ofFault

/-- Refuse the value that starts here. Texts, numbers and words are read to their ends first. -/
def refuse {α : Type} (expected : Expected) (cs : List Char) : Except ConfigError α :=
  match cs with
  | [] => .error .ended
  | 'n' :: rest => do
    let _ ← scanned (scanWord ['u', 'l', 'l'] rest)
    .error (.wrongType .null expected)
  | 't' :: rest => do
    let _ ← scanned (scanWord ['r', 'u', 'e'] rest)
    .error (.wrongType (.boolean true) expected)
  | 'f' :: rest => do
    let _ ← scanned (scanWord ['a', 'l', 's', 'e'] rest)
    .error (.wrongType (.boolean false) expected)
  | '"' :: rest => do
    let s ← scanned (scanString rest)
    .error (.wrongType (.string s.1) expected)
  | '[' :: _ => .error (.wrongType .sequence expected)
  | '\x7b' :: _ => .error (.wrongType .map expected)
  | c :: rest =>
    if c = '-' || c.isDigit then do
      let x ← scanned (scanNumber (c :: rest))
      .error (.wrongType (.ofLiteral x.1) expected)
    else .error .malformed

/-- Read a text. -/
def readText (expected : Expected) (cs : List Char) : Except ConfigError (String × List Char) :=
  match skipBlanks cs with
  | '"' :: rest => scanned (scanString rest)
  | other => refuse expected other

/-- Read a number of seconds. -/
def readSeconds (cs : List Char) : Except ConfigError (Nat × List Char) :=
  match skipBlanks cs with
  | [] => .error .ended
  | c :: rest =>
    if c = '-' || c.isDigit then do
      let x ← scanned (scanNumber (c :: rest))
      match x.1 with
      | .natural n => .ok (n, x.2)
      | .negative n => .error (.outOfRange (-n) .seconds)
      | .float y => .error (.wrongType (.float y) .seconds)
    else refuse .seconds (c :: rest)

/-- Read a value or `null`. -/
def readOptional {α : Type} (read : List Char → Except ConfigError (α × List Char))
    (cs : List Char) : Except ConfigError (Option α × List Char) :=
  match skipBlanks cs with
  | 'n' :: rest => do
    let after ← scanned (scanWord ['u', 'l', 'l'] rest)
    .ok (none, after)
  | other => do
    let x ← read other
    .ok (some x.1, x.2)

/-- The start of the next member of an object, after its opening quote. -/
def nextMember (first : Bool) (cs : List Char) : Except ConfigError (Bool × List Char) :=
  match skipBlanks cs with
  | [] => .error .ended
  | '\x7d' :: rest => .ok (false, rest)
  | ',' :: rest =>
    if first then .error .malformed
    else
      match skipBlanks rest with
      | [] => .error .ended
      | '"' :: after => .ok (true, after)
      | _ => .error .malformed
  | '"' :: rest => if first then .ok (true, rest) else .error .malformed
  | _ => .error .malformed

/-- Read the colon after the name of a member. -/
def readColon (cs : List Char) : Except ConfigError (List Char) :=
  match skipBlanks cs with
  | [] => .error .ended
  | ':' :: rest => .ok rest
  | _ => .error .malformed

/-- Read the members of the preferences up to the closing brace. Of a repeated name the last value
counts. The first argument bounds the number of members. -/
def readEntries :
    Nat → Bool → Table String → List Char → Except ConfigError (Table String × List Char)
  | 0, _, _, _ => .error .ended
  | fuel + 1, first, table, cs => do
    let next ← nextMember first cs
    if next.1 then
      let key ← scanned (scanString next.2)
      let afterColon ← readColon key.2
      let value ← readText .string afterColon
      readEntries fuel false (table.insert key.1 value.1) value.2
    else .ok (table, next.2)

/-- Read the preferences. -/
def readPreferences (cs : List Char) : Except ConfigError (Table String × List Char) :=
  match skipBlanks cs with
  | [] => .error .ended
  | '\x7b' :: rest => readEntries (rest.length + 1) true [] rest
  | other => refuse .map other

/-- Read the value of a field. -/
def readField (config : ShellConfig) (cs : List Char) :
    Field → Except ConfigError (ShellConfig × List Char)
  | .program => do
    let x ← readOptional (readText .path) cs
    .ok ({ config with program := x.1 }, x.2)
  | .home => do
    let x ← readOptional (readText .path) cs
    .ok ({ config with home := x.1 }, x.2)
  | .timeout => do
    let x ← readOptional readSeconds cs
    .ok ({ config with timeout := x.1 }, x.2)
  | .preferences => do
    let x ← readPreferences cs
    .ok ({ config with preferences := x.1 }, x.2)

/-- Read the members of a configuration object up to the closing brace. -/
def readMembers : Nat → Bool → List Field → ShellConfig → List Char →
    Except ConfigError (ShellConfig × List Char)
  | 0, _, _, _, _ => .error .ended
  | fuel + 1, first, seen, config, cs => do
    let next ← nextMember first cs
    if next.1 then
      let key ← scanned (scanString next.2)
      match Field.ofName? key.1 with
      | none => .error (.unknownField key.1)
      | some field =>
        if field ∈ seen then .error (.duplicateField field)
        else
          let afterColon ← readColon key.2
          let value ← readField config afterColon field
          readMembers fuel false (field :: seen) value.1 value.2
    else .ok (config, next.2)

/-- Read the end of an array that has nothing more to give. -/
def readArrayEnd (cs : List Char) : Except ConfigError (List Char) :=
  match skipBlanks cs with
  | [] => .error .ended
  | ']' :: rest => .ok rest
  | _ => .error .malformed

/-- Read the values of the fields in order, as far as the array goes. -/
def readValues : Bool → List Field → ShellConfig → List Char →
    Except ConfigError (ShellConfig × List Char)
  | _, [], config, cs => do
    let rest ← readArrayEnd cs
    .ok (config, rest)
  | first, field :: fields, config, cs =>
    match skipBlanks cs with
    | [] => .error .ended
    | ']' :: rest => .ok (config, rest)
    | c :: rest =>
      if first then do
        let value ← readField config (c :: rest) field
        readValues false fields value.1 value.2
      else if c = ',' then
        match skipBlanks rest with
        | [] => .error .ended
        | ']' :: _ => .error .malformed
        | other => do
          let value ← readField config other field
          readValues false fields value.1 value.2
      else .error .malformed

/-- Read the text of a configuration file. -/
def parse (text : String) : Except ConfigError ShellConfig := do
  let cs := text.toList
  let read : Except ConfigError (ShellConfig × List Char) := match skipBlanks cs with
    | [] => .error .ended
    | '[' :: rest => readValues true Field.all {} rest
    | '\x7b' :: rest => readMembers (rest.length + 1) true [] {} rest
    | other => refuse .config other
  let result ← read
  if (skipBlanks result.2).isEmpty then .ok result.1 else .error .malformed

end ShellConfig

/-- Why a configuration file cannot be used. -/
inductive LoadError where
  | unreadable (path : String)
  | invalid (path : String) (error : ConfigError)
deriving DecidableEq, Repr

def LoadError.message : LoadError → String
  | unreadable path => s!"failed to read config {path}"
  | invalid path _ => s!"invalid config {path}"

namespace ShellConfig

/-- Read the configuration file at a path, which has to be valid UTF-8. -/
def load (files : FileTree) (path : String) : Except LoadError ShellConfig :=
  match files.read path with
  | .error _ => .error (.unreadable path)
  | .ok bytes =>
    match Text.ofValidBytes? bytes with
    | none => .error (.unreadable path)
    | some text => (parse text).mapError (.invalid path)

end ShellConfig

/-- Values given on the command line. -/
structure Flags where
  program : Option String := none
  home : Option String := none
  timeout : Option Nat := none
deriving DecidableEq, Repr

/-- The settings of a shell. -/
structure Settings where
  program : String
  base : Base
  timeout : Option Nat
  preferences : Table String
deriving DecidableEq, Repr

/-- The settings of a configuration file under the command line, which wins. -/
def ShellConfig.resolve (config : ShellConfig) (flags : Flags) : Settings where
  program := ((flags.program <|> config.program)).getD "r2"
  base := ((flags.home <|> config.home)).elim .environment .fixed
  timeout := flags.timeout <|> config.timeout
  preferences := config.preferences

/-- The limits of the script engine under settings, whose time is in seconds. -/
def Settings.limits (s : Settings) : Limits := { timeout := s.timeout.map (· * 1000) }

end DecompilerBridge.Shell
