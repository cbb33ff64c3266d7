import DecompilerBridge.Engine
import DecompilerBridge.Log
import DecompilerBridge.Resolver
import DecompilerBridge.Text.Blank

/-!
# The bridge

The bridge between a script engine and the host: the natives, the evaluation of source texts, and
the description of their failures.

A wrong argument throws a `TypeError`. A module that cannot be found or fails to evaluate under
`___internal_require` throws an `EvalError`, so scripts can tell the two apart.

A panic of the host must not run through the engine. A native that panics parks the panic and ends
for the engine with an exception, and whoever has called the engine goes on with the panic when the
exception has come out.
-/

set_option autoImplicit false

namespace DecompilerBridge

/-- How far a run has come. -/
inductive EngineState where
  | idle | engineCreated | nativesRegistered | driverLoaded | entryInvoked
deriving DecidableEq, Repr

def EngineState.name : EngineState → String
  | idle => "Idle"
  | engineCreated => "EngineCreated"
  | nativesRegistered => "NativesRegistered"
  | driverLoaded => "DriverLoaded"
  | entryInvoked => "EntryInvoked"

/-- A panic of the host: its text, if it carries one. -/
structure Panic where
  text : Option String
deriving DecidableEq, Repr

/-- The text under which a panic is reported. -/
def Panic.message (p : Panic) : String := p.text.getD "panic in script engine"

/-- How the host answers when a native wants to use it. -/
inductive Access (α : Type) where
  | granted (result : α)
  /-- No host is linked. -/
  | unlinked
  /-- The host is in use. -/
  | busy
  /-- The host panicked while it served the request. -/
  | panicked (p : Panic)

/-- What a run asks of its surroundings. -/
inductive HostRequest where
  /-- Run a host command. -/
  | command (text : String)
  /-- Print the output of a script. -/
  | print (text : String)
  /-- Print a diagnostic line, if a host can take it. -/
  | diagnose (line : String)
  | log (record : LogRecord)
  /-- Tell what an engine has told of an exception. -/
  | event (e : EngineEvent)
  /-- Move to a state. -/
  | enter (state : EngineState)
  /-- Count one more engine, and tell its number. -/
  | countEngine
  /-- Tell what the next engine is going to read. -/
  | readings
deriving DecidableEq

/-- The answers to the requests of a run. -/
def HostRequest.Reply : HostRequest → Type
  | .command _ => Access String
  | .print _ => Access Unit
  | .diagnose _ => Except Panic Unit
  | .log _ => Unit
  | .event _ => Unit
  | .enter _ => Unit
  | .countEngine => Nat
  | .readings => Readings

/-- The requests of a run and their answers. -/
abbrev hostSignature : Signature := ⟨HostRequest, HostRequest.Reply⟩

/-- An engine at work: its state, and a panic that was thrown into it and not resumed yet. -/
structure Live (σ : Type) where
  state : σ
  parked : Option Panic := none

/-- Why a computation of the bridge did not end with a value. -/
inductive Stop (V : Type) where
  | thrown (v : V)
  | unwound (p : Panic)
  | hung
  | crashed

/-- What stops an operation of the engine stops the bridge too. -/
def EngineStop.toStop {V : Type} : EngineStop V → Stop V
  | thrown v => .thrown v
  | hung => .hung
  | crashed => .crashed

/-- A computation of the bridge, around an engine with states `σ` and values `V`. -/
abbrev Bridge (σ V : Type) := ExceptT (Stop V) (StateT (Live σ) (Interaction hostSignature))

/-- What serves the natives of an engine. -/
abbrev Natives (σ V : Type) := Native → List V → Bridge σ V V

-- Proofs ask whether a text has a NUL, and never have it computed.
/-- The byte offset of the first NUL in a text. -/
@[irreducible]
def nulOffset? (s : String) : Option Nat := s.toUTF8.data.toList.findIdx? (· == 0)

namespace Bridge

variable {σ V α : Type}

/-! ### Requests -/

/-- Make a request to the host. -/
def ask (q : HostRequest) : Bridge σ V q.Reply :=
  ExceptT.mk fun live =>
    (Interaction.ask q fun r => .done (.ok r, live) : Interaction hostSignature _)

/-- Note a record. -/
def log (r : LogRecord) : Bridge σ V Unit := do
  let _ ← ask (.log r)
  pure ()

/-- Note records in order. -/
def logAll : List LogRecord → Bridge σ V Unit
  | [] => pure ()
  | r :: rest => do
    log r
    logAll rest

/-- Print a diagnostic line. A panic of the host goes on from here. -/
def diagnose (line : String) : Bridge σ V Unit := do
  match ← ask (.diagnose line) with
  | .ok () => pure ()
  | .error p => throw (.unwound p)

/-! ### The engine -/

/-- Carry out an operation that has got to some point, with a panic parked or none. A native that
panics parks its panic. -/
def carry (natives : Natives σ V) :
    Interaction (engineSignature σ V) (Except (EngineStop V) α × σ) → Option Panic →
      Interaction hostSignature (Except (Stop V) α × Live σ)
  | .done (.ok a, state), parked => .done (.ok a, ⟨state, parked⟩)
  | .done (.error stop, state), parked => .done (.error stop.toStop, ⟨state, parked⟩)
  | .ask (.native n args state) next, parked =>
    Interaction.bind ((natives n args).run ⟨state, parked⟩) fun (outcome, after) =>
      match outcome with
      | .ok v => carry natives (next (.value v, after.state)) after.parked
      | .error (.thrown v) => carry natives (next (.thrown v, after.state)) after.parked
      | .error (.unwound p) => carry natives (next (.panicked, after.state)) (some p)
      | .error .hung => .done (.error .hung, after)
      | .error .crashed => .done (.error .crashed, after)
  | .ask (.event e) next, parked => .ask (.event e) fun _ => carry natives (next ()) parked

/-- Carry out an operation of the engine. -/
def within (natives : Natives σ V) (x : Operation σ V α) : Bridge σ V α :=
  ExceptT.mk fun live => carry natives (x.run live.state) live.parked

/-- How a computation ended, as its caller sees it. -/
inductive Ending (V α : Type) where
  | value (a : α)
  | thrown (v : V)

/-- Run a computation and see how it ends. If it ends with an exception while a panic is parked, the
panic goes on from here instead. -/
def attempt (x : Bridge σ V α) : Bridge σ V (Ending V α) :=
  ExceptT.mk fun live =>
    Interaction.bind (x.run live) fun (outcome, after) =>
      match outcome with
      | .ok a => .done (.ok (.value a), after)
      | .error (.thrown v) =>
        match after.parked with
        | some p => .done (.error (.unwound p), { after with parked := none })
        | none => .done (.ok (.thrown v), after)
      | .error (.unwound p) => .done (.error (.unwound p), after)
      | .error .hung => .done (.error .hung, after)
      | .error .crashed => .done (.error .crashed, after)

/-- Run a computation and pass its exception on. -/
def check (x : Bridge σ V α) : Bridge σ V α := do
  match ← attempt x with
  | .value a => pure a
  | .thrown v => throw (.thrown v)

/-- The state of the engine. -/
def state : Bridge σ V σ := do
  let live ← get
  pure live.state

end Bridge

/-- Why an evaluation failed: an exception came out of it, or its text has a NUL and was never
evaluated. -/
inductive EngineFault (V : Type) where
  | exception (v : V)
  | nul (offset : Nat)

namespace ScriptEngine

open Bridge

variable (E : ScriptEngine) (serve : Natives E.State E.Value) {α : Type}

/-- Throw a new error. A panic that is parked stays so. -/
def raise (cls : ErrorClass) (message : String) : Bridge E.State E.Value α := do
  let none ← within serve (E.throwNew cls message)
  none.elim

/-- The spelling of a text. -/
def spell (v : E.Value) : Bridge E.State E.Value (Option String) := do
  pure ((E.text? (← state) v).bind Except.toOption)

/-- The first argument of a native, which has to be a text. -/
def textArgument (native : String) : List E.Value → Bridge E.State E.Value String
  | [] => E.raise serve .typeError (native ++ ": expected a string argument")
  | v :: _ => do
    let now ← state
    match E.text? now v with
    | some (.ok text) => pure text
    | some (.error message) => E.raise serve .typeError message
    | none =>
      E.raise serve .typeError (native ++ ": expected a string, got " ++ E.typeName now v)

/-- Use the answer of the host to a native. -/
def granted (native : String) : Access α → Bridge E.State E.Value α
  | .granted a => pure a
  | .unlinked => E.raise serve .internalError (native ++ ": no host session is linked")
  | .busy => E.raise serve .internalError (native ++ ": host session is busy")
  | .panicked p => throw (.unwound p)

/-! ### Descriptions -/

/-- What an operation gives, or nothing if it throws. -/
def tried (x : Operation E.State E.Value α) : Bridge E.State E.Value (Option α) := do
  match ← attempt (within serve x) with
  | .value a => pure (some a)
  | .thrown _ => pure none

/-- The name under which an error is described: its `name`, if that is a text. -/
def describedName (e : E.Value) : Bridge E.State E.Value String := do
  match ← E.tried serve (E.member e "name") with
  | some v => do
    let name ← E.spell v
    pure (name.getD "Error")
  | none => pure "Error"

/-- The text of a value for a description, or nothing if it cannot be converted. -/
def describedText (v : E.Value) : Bridge E.State E.Value (Option String) := do
  match ← E.tried serve (E.toText v) with
  | some text => E.spell text
  | none => pure none

/-- The text of a member of an error, or nothing if it has none or it cannot be converted. -/
def describedMember (e : E.Value) (name : String) : Bridge E.State E.Value (Option String) := do
  match ← E.tried serve (E.member e name) with
  | some v => do
    let now ← state
    if E.isNothing now v then pure none else E.describedText serve v
  | none => pure none

/-- The description of a thrown value: name and message of an error, the text of anything else. The
stack of an error is converted too, for the log. -/
def describeThrown (v : E.Value) : Bridge E.State E.Value String := do
  let now ← state
  if E.isError now v then
    let name ← E.describedName serve v
    let stack ← E.describedMember serve v "stack"
    logAll (stack.toList.map fun text => .debug ("script stack:\n" ++ text))
    let message ← E.describedMember serve v "message"
    pure (Text.trim (name ++ ": " ++ message.getD ""))
  else
    let text ← E.describedText serve v
    let after ← state
    pure (Text.trim ("thrown value: " ++ text.getD (E.typeName after v)))

/-- The description of a fault. -/
def describe : EngineFault E.Value → Bridge E.State E.Value String
  | .exception v => E.describeThrown serve v
  | .nul offset =>
    pure ("String contained internal null bytes: " ++
      "nul byte found in provided data at position: " ++ toString offset)

/-! ### Evaluation -/

/-- Evaluate a source text as global code. A text with a NUL is not evaluated. -/
def evaluateText (text : String) : Bridge E.State E.Value (Except (EngineFault E.Value) Unit) :=
  match nulOffset? text with
  | some offset => pure (.error (.nul offset))
  | none => do
    match ← attempt (within serve (E.evaluate text)) with
    | .value () => pure (.ok ())
    | .thrown v => pure (.error (.exception v))

/-- Throw an error of the class that scripts see as `EvalError`. -/
def throwEval (message : String) : Bridge E.State E.Value α := do
  let cls ← check (within serve (E.global "EvalError"))
  let now ← state
  if E.isConstructor now cls then
    let text ← check (within serve (E.makeText message))
    let made ← check (within serve (E.construct cls [text]))
    throw (.thrown made)
  else
    E.raise serve .typeError
      ("Error converting from js '" ++ E.typeName now cls ++ "' into type 'constructor'")

/-- Add natives to an engine in order, up to one that throws. -/
def defineAll : List Native → Bridge E.State E.Value (Except (EngineFault E.Value) Unit)
  | [] => pure (.ok ())
  | n :: rest => do
    match ← attempt (within serve (E.define n)) with
    | .value () => defineAll rest
    | .thrown v => pure (.error (.exception v))

end ScriptEngine

/-- What a run works with: where modules come from, the engine that evaluates them, and the bounds
on it. -/
structure Machine where
  resolver : Resolver := {}
  engine : ScriptEngine
  limits : Limits := {}
  /-- The number of natives that the stack of the process has room for, one inside the other. -/
  depth : Nat

namespace Machine

open Bridge

/-- A computation of the bridge around the engine of a machine. -/
abbrev Work (m : Machine) := Bridge m.engine.State m.engine.Value

variable (m : Machine) (serve : Natives m.engine.State m.engine.Value)

/-- Look a module up, noting each step. -/
def lookUp (kind : ModuleKind) (name : String) : m.Work (Except ResolveError Module) := do
  let outcome := m.resolver.read kind name
  logAll outcome.2
  pure outcome.1

/-! ### Natives -/

/-- `r2cmd`: the output of a host command. -/
def nativeCommand (args : List m.engine.Value) : m.Work m.engine.Value := do
  let command ← m.engine.textArgument serve "r2cmd" args
  let answer ← ask (.command command)
  let output ← m.engine.granted serve "r2cmd" answer
  check (within serve (m.engine.makeText output))

/-- `___internal_load`: the text of a module, its name used as it is. -/
def nativeLoad (args : List m.engine.Value) : m.Work m.engine.Value := do
  let name ← m.engine.textArgument serve "___internal_load" args
  match ← m.lookUp .load name with
  | .ok found => check (within serve (m.engine.makeText found.text))
  | .error e =>
    diagnose ("Error: " ++ e.message ++ ".")
    m.engine.raise serve .typeError e.message

/-- `___internal_require`: evaluate a module as global code. -/
def nativeRequire (args : List m.engine.Value) : m.Work m.engine.Value := do
  let name ← m.engine.textArgument serve "___internal_require" args
  match ← m.lookUp .require name with
  | .error e =>
    diagnose ("Error: " ++ e.message ++ ".")
    m.engine.throwEval serve e.message
  | .ok found =>
    log (.debug ("evaluating " ++ found.path))
    match ← m.engine.evaluateText serve found.text with
    | .ok () => pure m.engine.undefined
    | .error fault =>
      let detail ← m.engine.describe serve fault
      m.engine.throwEval serve (found.file ++ ": " ++ detail)

/-- The texts of the arguments of the console, in order. -/
def consoleTexts : List m.engine.Value → m.Work (List String)
  | [] => pure []
  | v :: rest => do
    let text ← check (within serve (m.engine.toText v))
    let spelling ← m.engine.textArgument serve "console" [text]
    let texts ← consoleTexts rest
    pure (spelling :: texts)

/-- The methods of `console`: one line of all arguments. -/
def nativeConsole (args : List m.engine.Value) : m.Work m.engine.Value := do
  let texts ← m.consoleTexts serve args
  let answer ← ask (.print (String.intercalate " " texts ++ "\n"))
  m.engine.granted serve "console" answer
  pure m.engine.undefined

/-- The natives, given what serves the natives that are called inside them. -/
def native : Natives m.engine.State m.engine.Value
  | .command => m.nativeCommand serve
  | .load => m.nativeLoad serve
  | .require => m.nativeRequire serve
  | .console => m.nativeConsole serve

/-- The natives, as long as the stack has room for some of them one inside the other. -/
def nativesWithin : Nat → Natives m.engine.State m.engine.Value
  | 0 => fun _ _ => throw .crashed
  | depth + 1 => m.native (nativesWithin depth)

/-- The natives of a run. -/
def natives : Natives m.engine.State m.engine.Value := m.nativesWithin m.depth

end Machine

/-- What is noted when the natives have been added. -/
def registrationRecord : LogRecord :=
  .debug "registered r2cmd, ___internal_load, ___internal_require and console"

end DecompilerBridge
