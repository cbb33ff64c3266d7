import DecompilerBridge.Plugin
import DecompilerBridge.Shell.Pipe

/-!
# Shell sessions

The shell's host session: radare2 behind a transport, with the preference store and the completion
registry that the shell keeps itself, and the execution of typed lines.
-/

set_option autoImplicit false

namespace DecompilerBridge.Shell

/-- A way to run radare2 commands. The error is the text of what went wrong. -/
structure Transport (τ : Type) where
  send : String → τ → Except String String × τ

/-- The transport over a pipe. -/
def Transport.ofPeer {π : Type} (peer : Peer π) : Transport (Pipe π) where
  send command p :=
    let outcome := p.command peer command
    (outcome.1.mapError PipeError.message, outcome.2)

/-- What is wrong with an output stream, if anything: texts cannot be written, or cannot be flushed
once they are written. -/
inductive OutputFault where
  | onWrite (message : String)
  | onFlush (message : String)
deriving DecidableEq, Repr

structure Output where
  written : String := ""
  fault : Option OutputFault := none
deriving DecidableEq, Repr

namespace Output

/-- Write a text and flush it. Nothing is written of an empty text. -/
def print (o : Output) (text : String) : Except String Unit × Output :=
  match o.fault with
  | some (.onWrite message) => if text = "" then (.ok (), o) else (.error message, o)
  | some (.onFlush message) => (.error message, { o with written := o.written ++ text })
  | none => (.ok (), { o with written := o.written ++ text })

end Output

structure Session (τ : Type) where
  transport : τ
  output : Output := {}
  preferences : Preferences := {}
  completions : Completions := {}

/-- The expression of a command `e …` on a preference of the decompiler. -/
def preferenceExpression? (command : String) : Option String :=
  match Text.stripLead "e " (Text.trim command) with
  | some rest =>
    let expression := Text.trim rest
    if Text.startsWith expression Preference.keyLead then some expression else none
  | none => none

/-- The lines of the preferences whose keys start with a text. -/
def preferenceListing (p : Preferences) (lead : String) : String :=
  String.join ((p.listing.filter fun e => Text.startsWith e.1 lead).map
    fun e => e.1 ++ " = " ++ e.2 ++ "\n")

/-- Carry out a preference expression: a write, a listing, or a read. -/
def preferenceReply (p : Preferences) (expression : String) : String × Preferences :=
  match Text.splitFirst '=' expression with
  | some (key, value) =>
    match p.set (Text.trim key) (Text.trim value) with
    | .ok changed => ("", changed)
    | .error e => ("ERROR: " ++ e.message ++ "\n", p)
  | none =>
    if expression.toList.getLast? = some '.' then (preferenceListing p expression, p)
    else
      match p.get? expression with
      | some value => (value ++ "\n", p)
      | none => ("ERROR: unknown config key '" ++ expression ++ "'\n", p)

namespace Session

variable {τ : Type}

/-- Run a command: preferences are served here, everything else by radare2. A failure is noted and
gives the empty text. -/
def command (t : Transport τ) (text : String) (s : Session τ) :
    String × List LogRecord × Session τ :=
  match preferenceExpression? text with
  | some expression =>
    let reply := preferenceReply s.preferences expression
    (reply.1, [], { s with preferences := reply.2 })
  | none =>
    match t.send text s.transport with
    | (.ok output, after) => (output, [], { s with transport := after })
    | (.error e, after) =>
      ("", [.warn ("r2 command " ++ Text.shown text ++ " failed: " ++ e)],
        { s with transport := after })

/-- Print a text. A failure is noted. -/
def print (text : String) (s : Session τ) : List LogRecord × Session τ :=
  match s.output.print text with
  | (.ok (), after) => ([], { s with output := after })
  | (.error e, after) => ([.warn ("output failed: " ++ e)], { s with output := after })

/-- Write preferences in order, passing over those that are refused. -/
def applyPreferences : List (String × String) → Session τ → List LogRecord × Session τ
  | [], s => ([], s)
  | (key, value) :: rest, s =>
    match s.preferences.set key value with
    | .ok changed =>
      let later := applyPreferences rest { s with preferences := changed }
      (.debug (key ++ " = " ++ value) :: later.1, later.2)
    | .error e =>
      let later := applyPreferences rest s
      (.warn ("ignoring preference " ++ key ++ ": " ++ e.message) :: later.1, later.2)

end Session

/-- Note records from inside a host. -/
def noteEach {η α : Type} (records : List LogRecord) (after : HostAction η α) : HostAction η α :=
  match records with
  | [] => after
  | r :: rest => .ask (.note r) fun _ => noteEach rest after

/-- The session as a host. It never panics and never calls back. -/
def sessionHost {τ : Type} (t : Transport τ) : Host (Session τ) where
  command text _ s :=
    let served := s.command t text
    noteEach served.2.1 (.done (.ok served.1, served.2.2))
  print text _ s :=
    let printed := s.print text
    noteEach printed.1 (.done (.ok (), printed.2))
  preferences s := s.preferences
  setPreferences p s := { s with preferences := p }
  addCompletion e s := { s with completions := s.completions.add e }

/-- Whether a shell reads on after a line. -/
inductive Flow where
  | proceed
  | quit
deriving DecidableEq, Repr

/-- What a shell works with: how it reaches radare2 and how it runs scripts. -/
structure Frontend (τ : Type) where
  transport : Transport τ
  setup : Setup

namespace Frontend

variable {τ : Type}

/-- The way from the scripts to the session. -/
def channel (f : Frontend τ) : HostChannel (Session τ) := (sessionHost f.transport).channel f.setup

/-- Print on the session. -/
def printText (text : String) (w : World (Session τ)) : World (Session τ) :=
  let printed := w.host.print text
  { w.noteAll printed.1 with host := printed.2 }

/-- Run a command on the session and print its output. -/
def passOn (f : Frontend τ) (line : String) (w : World (Session τ)) : World (Session τ) :=
  let served := w.host.command f.transport line
  printText served.1 { w.noteAll served.2.1 with host := served.2.2 }

/-- The listing of the completions of a text. -/
def completionListing (c : Completions) (text : String) : String :=
  String.join ((c.complete text).map (· ++ "\n"))

/-- Execute a typed line: the shell's own commands first, then the plugin, then radare2. -/
def execute (f : Frontend τ) (line : String) (w : World (Session τ)) :
    Outcome Flow × World (Session τ) :=
  let trimmed := Text.trim line
  if trimmed = "" then (.finished .proceed, w)
  else if trimmed = "q" ∨ trimmed = "quit" then (.finished .quit, w)
  else
    match Text.stripLead ".complete" trimmed with
    | some rest =>
      (.finished .proceed,
        printText (completionListing w.host.completions (Text.trimStart rest)) w)
    | none =>
      match Plugin.call f.setup (some f.channel) trimmed w with
      | (.finished true, after) => (.finished .proceed, after)
      | (.finished false, after) => (.finished .proceed, f.passOn trimmed after)
      | (.panicked p, after) => (.panicked p, after)
      | (.halted h, after) => (.halted h, after)

/-- Write configured preferences, in key order. -/
def applyPreferences (values : Table String) (w : World (Session τ)) : World (Session τ) :=
  let applied := w.host.applyPreferences values
  { w.noteAll applied.1 with host := applied.2 }

/-- Register the plugin with the session. -/
def init (f : Frontend τ) (w : World (Session τ)) :
    Except PreferenceError Unit × World (Session τ) :=
  Plugin.init (sessionHost f.transport) w

end Frontend

end DecompilerBridge.Shell
