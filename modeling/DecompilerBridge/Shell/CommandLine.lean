import DecompilerBridge.Shell.ConfigFile
import DecompilerBridge.Text.Blank

/-!
# The command line of the shell

The command line of the shell. Arguments are taken from left to right; the first one that cannot be
used ends the reading.
-/

set_option autoImplicit false

namespace DecompilerBridge.Shell

/-- The options that take a value. -/
inductive CommandOption where
  | program
  | home
  | timeout
  | config
  | command
deriving DecidableEq, Repr

/-- The option with a long name. -/
def CommandOption.ofLong? (name : String) : Option CommandOption :=
  [("r2", program), ("home", home), ("timeout", timeout), ("config", config),
    ("command", command)].lookup name

/-- The arguments of the shell. -/
structure Arguments where
  file : Option String := none
  flags : Flags := {}
  config : Option String := none
  commands : List String := []
deriving DecidableEq, Repr

/-- What a command line asks for. -/
inductive Invoked where
  | run (file : String) (arguments : Arguments)
  | showVersion
  | showHelp
  | refused
deriving DecidableEq, Repr

/-- The number that a text of digits denotes, with an optional plus in front, if it has 64 bits. -/
def readWord64? (s : String) : Option Nat :=
  let ds := match s.toList with
    | '+' :: rest => rest
    | all => all
  if ds.isEmpty || !ds.all Char.isDigit then none
  else
    let n := ds.foldl (fun n c => n * 10 + (c.toNat - 48)) 0
    if n ≤ Json.greatestWord then some n else none

namespace Arguments

/-- Take in the value of an option. Paths are not empty, and only commands can be repeated. -/
def takeValue (a : Arguments) (o : CommandOption) (value : String) : Option Arguments :=
  match o with
  | .program =>
    if a.flags.program.isSome || value = "" then none
    else some { a with flags := { a.flags with program := some value } }
  | .home =>
    if a.flags.home.isSome || value = "" then none
    else some { a with flags := { a.flags with home := some value } }
  | .timeout =>
    if a.flags.timeout.isSome then none
    else (readWord64? value).map fun n => { a with flags := { a.flags with timeout := some n } }
  | .config =>
    if a.config.isSome || value = "" then none else some { a with config := some value }
  | .command => some { a with commands := a.commands ++ [value] }

/-- Take in the file. -/
def takeFile (a : Arguments) (value : String) : Option Arguments :=
  if a.file.isSome || value = "" then none else some { a with file := some value }

/-- What arguments that were read to their end ask for. -/
def finish (a : Arguments) : Invoked :=
  match a.file with
  | some file => .run file a
  | none => .refused

end Arguments

/-- Whether an argument is an option and no value. -/
def isOption (arg : String) : Bool :=
  match arg.toList with
  | '-' :: _ :: _ => true
  | _ => false

/-- What an argument that starts with a dash says. -/
inductive OptionWord where
  /-- An option with its value. -/
  | withValue (o : CommandOption) (value : String)
  /-- An option whose value is the next argument. -/
  | awaiting (o : CommandOption)
  | version
  | help
  | unknown
deriving DecidableEq, Repr

namespace OptionWord

/-- Read a long option, without its dashes. -/
def ofLong (text : String) : OptionWord :=
  match Text.splitFirst '=' text with
  | some (name, value) =>
    match CommandOption.ofLong? name with
    | some o => .withValue o value
    | none => .unknown
  | none =>
    if text = "version" then .version
    else if text = "help" then .help
    else
      match CommandOption.ofLong? text with
      | some o => .awaiting o
      | none => .unknown

/-- Read a group of short options, without its dash. The first of them decides, since each ends the
group. -/
def ofShort : List Char → OptionWord
  | 'c' :: '=' :: value => .withValue .command (String.ofList value)
  | ['c'] => .awaiting .command
  | 'c' :: value => .withValue .command (String.ofList value)
  | 'V' :: _ => .version
  | 'h' :: _ => .help
  | _ => .unknown

/-- Read an argument that starts with a dash. -/
def ofArgument (arg : String) : OptionWord :=
  match arg.toList with
  | '-' :: '-' :: rest => ofLong (String.ofList rest)
  | '-' :: rest => ofShort rest
  | _ => .unknown

end OptionWord

/-- Read the arguments after a double dash: they are all taken as files. -/
def readFiles : List String → Arguments → Invoked
  | [], a => a.finish
  | arg :: rest, a =>
    match a.takeFile arg with
    | some taken => readFiles rest taken
    | none => .refused

/-- Read arguments from left to right. `pending` is an option that waits for its value. -/
def readArguments : Option CommandOption → List String → Arguments → Invoked
  | some _, [], _ => .refused
  | none, [], a => a.finish
  | some o, arg :: rest, a =>
    if isOption arg then .refused
    else
      match a.takeValue o arg with
      | some taken => readArguments none rest taken
      | none => .refused
  | none, arg :: rest, a =>
    if arg = "--" then readFiles rest a
    else if isOption arg then
      match OptionWord.ofArgument arg with
      | .withValue o value =>
        match a.takeValue o value with
        | some taken => readArguments none rest taken
        | none => .refused
      | .awaiting o => readArguments (some o) rest a
      | .version => .showVersion
      | .help => .showHelp
      | .unknown => .refused
    else
      match a.takeFile arg with
      | some taken => readArguments none rest taken
      | none => .refused

/-- What a command line asks for. -/
def Invoked.ofArguments (args : List String) : Invoked := readArguments none args {}

end DecompilerBridge.Shell
