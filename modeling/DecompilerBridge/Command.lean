import DecompilerBridge.Preferences.Registry
import DecompilerBridge.Text.Quoted

/-!
# Commands

The commands that start with `pdd`. The character after these three letters picks the command; after
a space the rest of the line is the argument text of the decompiler.
-/

set_option autoImplicit false

namespace DecompilerBridge

/-- A command of the plugin. -/
inductive Command where
  | decompile (args : String)
  | withAssembly
  | blocksOnly
  | issueReport
  | upgrade
  | help
deriving DecidableEq, Repr

namespace Command

/-- The letters that all commands start with. -/
def lead : String := "pdd"

/-- What the host runs to install or upgrade the scripts. -/
def upgradeLine : String := "!r2pm -ci r2dec"

/-- The variable that names the directory of the scripts. -/
def homeVariable : String := "R2DEC_HOME"

/-- The command for the text after `pdd`. -/
def ofRest (rest : String) : Command :=
  match rest.toList with
  | [] => .decompile ""
  | ' ' :: args => .decompile (String.ofList args)
  | 'u' :: _ => .upgrade
  | 'i' :: _ => .issueReport
  | 'a' :: _ => .withAssembly
  | 'b' :: _ => .blocksOnly
  | _ :: _ => .help

/-- The argument text a command hands to the scripts, if it runs them. -/
def scriptArgs : Command → Option String
  | .decompile args => some args
  | .withAssembly => some "--assembly"
  | .blocksOnly => some "--blocks"
  | .issueReport => some "--issue"
  | .upgrade => none
  | .help => none

/-- The name of a command in log records. -/
def name : Command → String
  | .decompile _ => "Decompile"
  | .withAssembly => "DecompileWithAssembly"
  | .blocksOnly => "BlocksOnly"
  | .issueReport => "IssueReport"
  | .upgrade => "Upgrade"
  | .help => "Help"

/-- A command in log records: its name, and its argument text if it carries one. -/
def shown : Command → String
  | .decompile args => "Decompile(" ++ Text.shown args ++ ")"
  | c => c.name

/-- What is noted when the text after `pdd` is routed. -/
def routeRecord (rest : String) : LogRecord :=
  .debug (lead ++ Text.shown rest ++ " -> " ++ (ofRest rest).shown)

/-- Pad a text with spaces on the right to a width. -/
def padTo (width : Nat) (s : String) : String :=
  s ++ String.ofList (List.replicate (width - s.length) ' ')

/-- The help text. -/
def usage : String :=
  "Usage: pdd [args] - core plugin for r2dec\n" ++
  " pdd   - decompile current function\n" ++
  " pdd?  - show this help\n" ++
  " pdda  - decompile current function with side assembly\n" ++
  " pddb  - decompile current function but shows only scopes\n" ++
  " pddu  - install/upgrade r2dec via r2pm\n" ++
  " pddi  - generates the issue data\n" ++
  "Evaluable Variables:\n" ++
  String.join (Preference.all.map fun p =>
    " " ++ padTo 14 p.key ++ "- " ++ p.description ++ "\n") ++
  "Environment\n" ++
  " " ++ homeVariable ++ "  defaults to the root directory of the r2dec repo\n"

end Command

end DecompilerBridge
