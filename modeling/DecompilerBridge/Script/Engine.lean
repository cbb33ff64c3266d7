import DecompilerBridge.Script.Store

/-!
# The state of the interpreter

The state of the engine that is built here, and the computations that run in it.

A computation ends with a value or is stopped. It is stopped by a thrown value, which scripts can
catch unless the deadline threw it, or because it runs for ever.
-/

set_option autoImplicit false

namespace DecompilerBridge.Script

open Text (Units)

/-- The state of an engine: its store, and what its own code keeps track of. -/
structure Engine extends Store where
  /-- The bodies of the functions that scripts have defined so far. -/
  bodies : Array (List Stmt) := #[]
  /-- The number of files that are being evaluated, one inside the other. -/
  nesting : Nat := 0
  /-- The bytes of stack, if they are bounded. -/
  stack : Option Nat := none
  /-- The number of calls that can still be made one inside the other. -/
  left : Nat := 0
  /-- Milliseconds from the start of the engine to its deadline. -/
  timeout : Option Nat := none
  /-- Milliseconds from the start of the engine to the last look at the clock. -/
  clock : Nat := 0
  /-- The milliseconds that pass before each look at the clock to come. -/
  delays : Nat → Nat := fun _ => 0
  /-- The steps until the deadline is looked at. -/
  countdown : Nat := 0
  /-- The errors that the deadline has thrown, which no handler of a script catches. -/
  uncatchable : List Ref := []

namespace Engine

/-- The same engine with another store. -/
def withStore (engine : Engine) (store : Store) : Engine := { engine with toStore := store }

/-- Look at the clock. -/
def readTime (engine : Engine) : Nat × Engine :=
  let now := engine.clock + engine.delays 0
  (now, { engine with clock := now, delays := fun n => engine.delays (n + 1) })

/-- Take one step towards the next look at the deadline, and tell whether it is due. -/
def step (engine : Engine) : Bool × Engine :=
  (decide (engine.countdown ≤ 1), { engine with countdown := engine.countdown - 1 })

/-- Whether a value is an error that no handler of a script catches. -/
def isUncatchable (engine : Engine) : Value → Bool
  | .object r => engine.uncatchable.contains r
  | _ => false

end Engine

/-- A computation of the engine. -/
abbrev Eval := Operation Engine Value

namespace Eval

variable {α : Type}

/-- Tell of an exception. -/
def tell (e : EngineEvent) : Eval Unit :=
  ExceptT.mk fun engine =>
    (Interaction.ask (.event e) fun _ => .done (.ok (), engine) :
      Interaction (engineSignature Engine Value) _)

/-- Call a native of the bridge, with some calls left to it. The calls left to the caller are as
before when it is done. -/
def callNative (left : Nat) (n : Native) (args : List Value) : Eval Value :=
  ExceptT.mk fun engine =>
    (Interaction.ask (.native n args { engine with left := left }) fun (ended, after) =>
      let engine := { after with left := engine.left }
      match ended with
      | .value v => .done (.ok v, engine)
      | .thrown v => .done (.error (.thrown v), engine)
      | .panicked => .done (.error (.thrown .undefined), engine) :
      Interaction (engineSignature Engine Value) _)

/-- Make a new error. -/
def newError (cls : ErrorClass) (message : String) : Eval Ref :=
  modifyGet fun engine =>
    let made := engine.allocate
      (.ofError (.prototype (.error cls)) (some (Value.ofString message)))
    (made.1, engine.withStore made.2)

/-- Throw a new error. -/
def raise (cls : ErrorClass) (message : String) : Eval α := do
  let made ← newError cls message
  throw (.thrown (.object made))

/-- The steps between two looks at the deadline. -/
def pollInterval : Nat := 10000

/-- Stop because the deadline has passed. -/
def interrupt : Eval α := do
  tell .interrupted
  let made ← newError .internalError "interrupted"
  modify fun engine => { engine with uncatchable := made :: engine.uncatchable }
  throw (.thrown (.object made))

/-- Look at the deadline, if there is one. -/
def lookAtClock : Eval Unit := do
  modify fun engine => { engine with countdown := pollInterval }
  match (← get).timeout with
  | none => pure ()
  | some deadline =>
    let now ← modifyGet Engine.readTime
    if deadline ≤ now then interrupt else pure ()

/-- Take one step towards the next look at the deadline, and look at it when it is due. -/
def poll : Eval Unit := do
  let due ← modifyGet Engine.step
  if due then lookAtClock else pure ()

/-- Run on with nothing else to do than to look at the clock, for some looks at most. Without a
deadline this never ends. -/
def idle : Nat → Eval α
  | 0 => throw .hung
  | looks + 1 => do
    if (← get).timeout.isNone then throw .hung
    else
      lookAtClock
      idle looks

/-- Continue with a handler after a thrown value, unless the handler is one of a script and the
deadline threw the value. -/
def catching (ofScript : Bool) (x : Eval α) (handler : Value → Eval α) : Eval α :=
  ExceptT.mk fun engine =>
    Interaction.bind (x.run engine) fun (outcome, after) =>
      match outcome with
      | .error (.thrown v) =>
        if ofScript && after.isUncatchable v then .done (.error (.thrown v), after)
        else (tell .intercepted >>= fun _ => handler v).run after
      | other => .done (other, after)

/-- Run a computation as one more file inside those that are being evaluated. The file is open until
the computation ends. -/
def nested (x : Eval α) : Eval α :=
  ExceptT.mk fun engine =>
    Interaction.bind (x.run { engine with nesting := engine.nesting + 1 }) fun
      | (.ok a, after) => .done (.ok a, { after with nesting := engine.nesting })
      | (.error (.thrown v), after) =>
        .done (.error (.thrown v), { after with nesting := engine.nesting })
      | stopped => .done stopped

end Eval

end DecompilerBridge.Script
