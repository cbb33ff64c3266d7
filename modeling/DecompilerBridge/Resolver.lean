import DecompilerBridge.Command
import DecompilerBridge.FileTree
import DecompilerBridge.Text.Blank

/-!
# Module lookup

Looking up script modules. All modules live below one base directory, which is fixed or taken from
the environment at every request, and files are read afresh every time.
-/

set_option autoImplicit false

namespace DecompilerBridge

/-- The variables of a process environment that the bridge looks at. -/
structure Environment where
  /-- The directory of the scripts, if set. -/
  scriptHome : Option String := none
  /-- The user's home directory, if set. -/
  home : Option String := none
  /-- The user's data directory, if set. -/
  dataHome : Option String := none
deriving DecidableEq, Repr

namespace Environment

/-- The user data directory: an absolute one that is set, else the usual place below a home
directory that is not empty. -/
def dataDirectory (env : Environment) : Option String :=
  match env.dataHome with
  | some dir => if Path.isAbsolute dir then some dir else fallback
  | none => fallback
where
  fallback : Option String :=
    match env.home with
    | some home => if home = "" then none else some (Path.join home ".local/share")
    | none => none

end Environment

/-- Where the package is installed below the data directory. -/
def installParts : List String := ["radare2", "r2pm", "git", "r2dec-js"]

/-- The base directory: a non-empty setting is taken as it is, otherwise the install place below the
data directory. -/
def baseDirectory (setting dataDirectory : Option String) : Option String :=
  match setting with
  | some dir => if dir = "" then installed else some dir
  | none => installed
where
  installed : Option String := dataDirectory.map fun dir => installParts.foldl Path.join dir

/-- Where a resolver takes its base directory from. -/
inductive Base where
  | environment
  | fixed (dir : String)
deriving DecidableEq, Repr

/-- How a module name becomes a file name. -/
inductive ModuleKind where
  /-- The name as it is. -/
  | load
  /-- The name with the script ending. -/
  | require
deriving DecidableEq, Repr

def ModuleKind.fileName : ModuleKind → String → String
  | load, name => name
  | require, name => name ++ ".js"

/-- Why a module cannot be had. -/
inductive ResolveError where
  | notFound (name path : String)
  | noBaseDirectory (name : String)
deriving DecidableEq, Repr

def ResolveError.message : ResolveError → String
  | notFound name _ => s!"'{name}' not found"
  | noBaseDirectory name =>
    s!"'{name}' not found (R2DEC_HOME is unset and there is no user data directory)"

/-- A module that was read. -/
structure Module where
  file : String
  path : String
  text : String
deriving DecidableEq, Repr

/-- A way to find modules: the source of the base directory, the environment and the files. -/
structure Resolver where
  base : Base := .environment
  environment : Environment := {}
  files : FileTree := {}

/-- What stands before the path in the record of a lookup. -/
def lookupLead : String := "load: "

/-- The record of a lookup. -/
def LogRecord.lookup (path : String) : LogRecord := .debug (lookupLead ++ path)

/-- The path that a record says is being looked up. -/
def LogRecord.lookedUpPath? (r : LogRecord) : Option String := Text.stripLead lookupLead r.message

namespace Resolver

/-- The base directory at this moment. -/
def directory (r : Resolver) : Option String :=
  match r.base with
  | .fixed dir => some dir
  | .environment => baseDirectory r.environment.scriptHome r.environment.dataDirectory

/-- The path of a module. -/
def path (r : Resolver) (kind : ModuleKind) (name : String) : Except ResolveError String :=
  match r.directory with
  | some dir => .ok (Path.join dir (kind.fileName name))
  | none => .error (.noBaseDirectory (kind.fileName name))

/-- Read a module, noting each step. An empty file counts as missing. -/
def read (r : Resolver) (kind : ModuleKind) (name : String) :
    Except ResolveError Module × List LogRecord :=
  match r.path kind name with
  | .error e => (.error e, [])
  | .ok path =>
    let file := kind.fileName name
    let start := LogRecord.lookup path
    match r.files.read path with
    | .error e =>
      (.error (.notFound file path),
        [start, .debug ("cannot read " ++ path ++ ": " ++ e.message)])
    | .ok [] => (.error (.notFound file path), [start, .debug (path ++ " is empty")])
    | .ok bytes =>
      (.ok ⟨file, path, Text.ofBytes bytes⟩,
        [start, .trace ("read " ++ toString bytes.length ++ " bytes from " ++ path)])

end Resolver

end DecompilerBridge
