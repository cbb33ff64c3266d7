import DecompilerBridge.Bridge
import DecompilerBridge.Entry

/-!
# Invocations

One invocation of the scripts: a new engine with the natives evaluates the driver file and then
calls the entry function. A failure of the driver is printed and otherwise passed over, since the
entry call reports a broken installation anyway.
-/

set_option autoImplicit false

namespace DecompilerBridge

/-- Why a run of the scripts failed. -/
inductive ScriptError where
  | busy
  | evaluation (detail : String)
  | fatal (text : String)
deriving DecidableEq, Repr

def ScriptError.message : ScriptError → String
  | busy => "a decompiler script is already running"
  | evaluation detail => s!"script evaluation failed: {detail}"
  | fatal text => s!"fatal engine error: {text}"

/-- What to do about a fault that is no script error. -/
inductive FatalPolicy where
  /-- Report it on the host's output and go on. -/
  | contain
  /-- Report it on standard error and end the process. -/
  | abort
deriving DecidableEq, Repr

/-- Why a process goes no further. -/
inductive Halt where
  | aborted (stderr : String)
  | hung
  | crashed
deriving DecidableEq, Repr

/-- How a piece of work ended. -/
inductive Outcome (α : Type) where
  | finished (a : α)
  | panicked (p : Panic)
  | halted (h : Halt)
deriving DecidableEq, Repr

/-- The file that is evaluated before the entry call. -/
def driverFile : String := "require.js"

/-- Everything an invocation depends on besides its argument text. -/
structure Setup where
  machine : Machine
  policy : FatalPolicy := .contain
  /-- The reading of the clock when a run starts, in seconds. -/
  clock : Nat := 1

/-- The panic raised when the deadline lies beyond what the clock can count. -/
def deadlinePanic : Panic := ⟨some "overflow when adding duration to instant"⟩

namespace Invocation

open Bridge

/-- A run in progress. -/
abbrev Progress := Interaction hostSignature

/-- Print and note a failed evaluation. -/
def report (m : Machine) (what : String) (fault : EngineFault m.engine.Value) :
    m.Work ScriptError := do
  let detail ← m.engine.describe m.natives fault
  let shown := what ++ ": " ++ detail
  log (.error ("script failed: " ++ shown))
  diagnose ("Error: " ++ shown)
  pure (.evaluation shown)

/-- Evaluate the driver file. -/
def loadDriver (m : Machine) : m.Work Unit := do
  match ← m.lookUp .load driverFile with
  | .error e => diagnose ("Error: " ++ e.message ++ ".")
  | .ok found =>
    log (.debug ("evaluating " ++ found.path))
    match ← m.engine.evaluateText m.natives found.text with
    | .ok () => pure ()
    | .error fault =>
      let _ ← report m found.file fault
      pure ()

/-- Call the entry function. -/
def callEntry (m : Machine) (args : String) : m.Work (Except ScriptError Unit) := do
  let outcome ← m.engine.evaluateText m.natives (Entry.expression args)
  let _ ← ask (.enter .entryInvoked)
  match outcome with
  | .ok () => pure (.ok ())
  | .error fault => .error <$> report m Entry.functionName fault

/-- The natives in the order in which they are added. -/
def allNatives : List Native := [.command, .load, .require, .console]

/-- Add the natives to a new engine. The error describes what went wrong. -/
def register (m : Machine) : m.Work (Except String Unit) := do
  match ← m.engine.defineAll m.natives allNatives with
  | .ok () =>
    log registrationRecord
    pure (.ok ())
  | .error fault => .error <$> m.engine.describe m.natives fault

/-- Work through a new engine. The error is the message of a fatal fault. -/
def session (m : Machine) (args : String) : m.Work (Except String (Except ScriptError Unit)) := do
  let number : Nat ← ask .countEngine
  let _ ← ask (.enter .engineCreated)
  log (.debug ("engine #" ++ toString number ++ " created"))
  match ← register m with
  | .error detail => pure (.error ("cannot register natives: " ++ detail))
  | .ok () =>
    let _ ← ask (.enter .nativesRegistered)
    loadDriver m
    let _ ← ask (.enter .driverLoaded)
    .ok <$> callEntry m args

/-- The line that reports a fatal fault. -/
def fatalLine (message : String) : String := "*** FATAL ERROR: " ++ message

/-- How the record of a fatal fault starts. -/
def fatalLead : String := "fatal engine error: "

/-- Report a fatal fault. -/
def fatal (policy : FatalPolicy) (message : String) :
    Progress (Outcome (Except ScriptError Unit)) :=
  match policy with
  | .abort => .done (.halted (.aborted (fatalLine message ++ "\n")))
  | .contain =>
    .ask (.log (.error (fatalLead ++ message))) fun _ =>
      .ask (.diagnose (fatalLine message)) fun
        | .ok () => .done (.finished (.error (.fatal message)))
        | .error p => .done (.panicked p)

/-- How an engine's work ends for the run around it. The bridge lets no thrown value out. -/
def conclude {V : Type} (policy : FatalPolicy) :
    Except (Stop V) (Except String (Except ScriptError Unit)) →
      Progress (Outcome (Except ScriptError Unit))
  | .ok (.ok result) => .done (.finished result)
  | .ok (.error message) => fatal policy message
  | .error (.unwound p) => .done (.panicked p)
  | .error .hung => .done (.halted .hung)
  | .error .crashed => .done (.halted .crashed)
  | .error (.thrown _) => .done (.panicked ⟨none⟩)

/-- One invocation with an argument text. -/
def invoke (s : Setup) (args : String) : Progress (Outcome (Except ScriptError Unit)) :=
  .ask .readings fun readings =>
    match s.machine.engine.newRuntime readings with
    | .error e => fatal s.policy ("cannot create the script runtime: " ++ e)
    | .ok runtime =>
      if !s.machine.limits.deadlineExists s.clock then .done (.panicked deadlinePanic)
      else
        match s.machine.engine.newContext s.machine.limits runtime with
        | .error e => fatal s.policy ("cannot create the script context: " ++ e)
        | .ok context =>
          Interaction.bind ((session s.machine args).run ⟨context, none⟩) fun (result, _) =>
            conclude s.policy result

end Invocation

end DecompilerBridge
