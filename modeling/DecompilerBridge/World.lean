import DecompilerBridge.Completion
import DecompilerBridge.Invocation
import DecompilerBridge.Preferences.Registry

/-!
# Hosts and their world

Hosts and the world around a run.

A host is a state machine that serves commands and prints texts. While it serves a request it is in
use, and it may call the scripts or the plugin again; whatever such a call wants from the host is
then refused as busy.
-/

set_option autoImplicit false

namespace DecompilerBridge

/-- The link from the natives to the host session of the running command. -/
inductive Linkage where
  | unlinked
  | linked
  /-- The link is set but the session behind it is gone. -/
  | stale
deriving DecidableEq, Repr

/-- What a script host remembers between runs. -/
structure ScriptStatus where
  linkage : Linkage := .unlinked
  state : EngineState := .idle
  /-- The number of engines created so far. -/
  invocations : Nat := 0
deriving DecidableEq, Repr

/-- Whether the link is set. -/
def ScriptStatus.isLinked (s : ScriptStatus) : Bool := s.linkage != .unlinked

/-- A script host, a host session of state `η`, and the records noted so far. -/
structure World (η : Type) where
  scripts : ScriptStatus := {}
  host : η
  /-- Whether the host is in use. -/
  borrowed : Bool := false
  log : List LogRecord := []
  /-- What the engines to come are going to read, in order. -/
  readings : Nat → Readings := fun _ => {}

/-- What a host may do while it serves a request. -/
inductive Reentry where
  /-- Run the scripts again. -/
  | run (args : String)
  /-- Hand a line to the plugin again. -/
  | call (line : String)
  /-- Run the scripts through a new script host with the same setup. -/
  | other (args : String)
  | note (record : LogRecord)

/-- The answers to a host's own requests, with the state of the scripts afterwards. -/
def Reentry.Reply : Reentry → Type
  | .run _ => Except Panic (Except ScriptError Unit) × EngineState
  | .call _ => Except Panic Bool × EngineState
  | .other _ => Except Panic (Except ScriptError Unit) × EngineState
  | .note _ => Unit

/-- The requests of a host that serves a request. -/
abbrev reentrySignature : Signature := ⟨Reentry, Reentry.Reply⟩

/-- What a host of state `η` does to serve a request: it ends with a result or a panic, and its
state. -/
abbrev HostAction (η α : Type) := Interaction reentrySignature (Except Panic α × η)

/-- A host of state `η`. Commands and prints see how far the scripts have come. -/
structure Host (η : Type) where
  command : String → EngineState → η → HostAction η String
  print : String → EngineState → η → HostAction η Unit
  preferences : η → Preferences
  setPreferences : Preferences → η → η
  addCompletion : CompletionEntry → η → η

/-- A way to reach the host from inside a run. -/
structure HostChannel (η : Type) where
  command : String → World η → Outcome String × World η
  print : String → World η → Outcome Unit × World η

namespace World

variable {η : Type}

/-- Note a record. -/
def note (w : World η) (r : LogRecord) : World η := { w with log := w.log ++ [r] }

/-- Note records in order. -/
def noteAll (w : World η) (rs : List LogRecord) : World η := { w with log := w.log ++ rs }

/-- Move the scripts to a state. -/
def enter (w : World η) (state : EngineState) : World η :=
  let noted := w.note
    (.trace ("engine state: " ++ w.scripts.state.name ++ " -> " ++ state.name))
  { noted with scripts := { noted.scripts with state := state } }

/-- Set the link of the scripts. -/
def withLinkage (w : World η) (l : Linkage) : World η :=
  { w with scripts := { w.scripts with linkage := l } }

/-- Count one more engine. -/
def countEngine (w : World η) : World η :=
  { w with scripts := { w.scripts with invocations := w.scripts.invocations + 1 } }

/-- Hand out what the next engine is going to read. -/
def handReadings (w : World η) : World η := { w with readings := fun n => w.readings (n + 1) }

/-- Print a line on the host, unless it is in use. Without a channel the caller holds the host. -/
def printLine (channel : Option (HostChannel η)) (line : String) (w : World η) :
    Outcome Unit × World η :=
  match channel with
  | some p =>
    if w.borrowed then (.finished (), w.note (.warn ("host busy, dropped output: " ++ line)))
    else p.print (line ++ "\n") w
  | none => (.finished (), w.note (.warn ("host busy, dropped output: " ++ line)))

/-- Let a native use the host, if one is linked and not in use. -/
def access {α : Type} (channel : Option (HostChannel η))
    (use : HostChannel η → World η → Outcome α × World η) (w : World η) :
    Except Halt (Access α) × World η :=
  match w.scripts.linkage, channel with
  | .linked, some p =>
    if w.borrowed then (.ok .busy, w)
    else
      match use p w with
      | (.finished a, after) => (.ok (.granted a), after)
      | (.panicked panic, after) => (.ok (.panicked panic), after)
      | (.halted h, after) => (.error h, after)
  | .linked, none => (.ok .busy, w)
  | _, _ => (.ok .unlinked, w)

/-- Print a diagnostic line, if a host is linked. -/
def diagnose (channel : Option (HostChannel η)) (line : String) (w : World η) :
    Except Halt (Except Panic Unit) × World η :=
  match w.scripts.linkage with
  | .linked =>
    match printLine channel line w with
    | (.finished (), after) => (.ok (.ok ()), after)
    | (.panicked p, after) => (.ok (.error p), after)
    | (.halted h, after) => (.error h, after)
  | _ => (.ok (.ok ()), w.note (.warn ("no host linked, dropped output: " ++ line)))

/-- Answer a request of a run. -/
def answer (channel : Option (HostChannel η)) :
    (q : HostRequest) → World η → Except Halt q.Reply × World η
  | .command text, w => w.access channel fun p => p.command text
  | .print text, w => w.access channel fun p => p.print text
  | .diagnose line, w => w.diagnose channel line
  | .log record, w => (.ok (), w.note record)
  -- Nobody listens to what becomes of an exception inside an engine.
  | .event _, w => (.ok (), w)
  | .enter state, w => (.ok (), w.enter state)
  | .countEngine, w => (.ok w.countEngine.scripts.invocations, w.countEngine)
  | .readings, w => (.ok (w.readings 0), w.handReadings)

end World

end DecompilerBridge
