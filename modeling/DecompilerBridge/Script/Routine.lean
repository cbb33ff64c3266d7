import DecompilerBridge.Script.Engine

/-!
# Routines

The language's own code: reading and writing properties, conversions, expressions and the library.

A routine works on the store of an engine, may throw a value, and may call functions. It never talks
to the host, it does not touch what the engine's own code keeps track of, and it never learns why a
call failed: a call that does not give a value ends the routine too. Whatever is shown of calls
therefore carries over to every routine, by induction over the calls it makes.
-/

set_option autoImplicit false

namespace DecompilerBridge.Script

open Text (Units)

/-- A call that a routine makes, with the store as it is then. Without `this` it makes a new object.
-/
structure CallRequest where
  callee : Value
  this : Option Value
  args : List Value
  store : Store

/-- The calls of a routine: the answer is the value and the store afterwards. -/
abbrev callSignature : Signature := ⟨CallRequest, fun _ => Value × Store⟩

/-- A computation of the language's own code. -/
abbrev Routine := ExceptT Value (StateT Store (Interaction callSignature))

/-- The ways to call functions. -/
structure Evaluator where
  call : (callee this : Value) → List Value → Eval Value
  construct : (callee : Value) → List Value → Eval Value
  /-- The number of calls that can be made one inside the other. -/
  left : Nat
  /-- The rounds that a loop is followed. -/
  rounds : Nat

namespace Evaluator

/-- Make the call of a routine. -/
def serve (self : Evaluator) (q : CallRequest) : Eval Value :=
  match q.this with
  | some this => self.call q.callee this q.args
  | none => self.construct q.callee q.args

end Evaluator

namespace Routine

variable {α : Type}

/-- Carry on with a routine whose calls are made by an evaluator, in an engine that has the store of
the routine. -/
def continueWith (self : Evaluator) (engine : Engine) :
    Interaction callSignature (Except Value α × Store) →
      Interaction (engineSignature Engine Value) (Except (EngineStop Value) α × Engine)
  | .done (.ok a, store) => .done (.ok a, engine.withStore store)
  | .done (.error v, store) => .done (.error (.thrown v), engine.withStore store)
  | .ask q next =>
    Interaction.bind ((self.serve q).run (engine.withStore q.store)) fun (outcome, after) =>
      match outcome with
      | .ok v => continueWith self after (next (v, after.toStore))
      | .error stop => .done (.error stop, after)

/-- Run a routine. -/
def eval (self : Evaluator) (x : Routine α) : Eval α :=
  ExceptT.mk fun engine => continueWith self engine (x.run engine.toStore)

/-- Make a call, or a new object if there is no `this`. -/
def request (callee : Value) (this : Option Value) (args : List Value) : Routine Value :=
  ExceptT.mk fun store =>
    (Interaction.ask ⟨callee, this, args, store⟩ fun r => .done (.ok r.1, r.2) :
      Interaction callSignature _)

/-- Call a function. -/
def call (callee this : Value) (args : List Value) : Routine Value :=
  request callee (some this) args

/-- Make a new object with a constructor. -/
def construct (callee : Value) (args : List Value) : Routine Value := request callee none args

/-- Make a new object. -/
def allocate (o : Object) : Routine Ref :=
  modifyGet fun store => store.allocate o

/-- Change an object. -/
def alter (r : Ref) (change : Object → Object) : Routine Unit :=
  modify fun store => store.alter r change

/-- The object behind a reference. -/
def object (r : Ref) : Routine Object := do
  let store ← get
  pure (store.object r)

/-- Throw a new error. -/
def raise (cls : ErrorClass) (message : String) : Routine α := do
  let r ← allocate (.ofError (.prototype (.error cls)) (some (Value.ofString message)))
  throw (.object r)

/-- Make a list of values. -/
def makeList (items : List Value) : Routine Value := do
  let r ← allocate (.ofItems items)
  pure (.object r)

/-- Make an object with properties. -/
def makeObject (properties : Properties) : Routine Value := do
  let r ← allocate { properties := properties }
  pure (.object r)

/-- A function of a script as an object. Strict code and its functions are strict. -/
def functionObject (code : Code) (name : String) (scope : Scope) : Object where
  kind := .function code scope
  prototype := some (.prototype .function)
  properties := functionLabels name code.parameters

/-- Make a function of a script. One that makes new objects has a prototype for them. -/
def makeFunction (code : Code) (name : String) (scope : Scope) : Routine Value := do
  let f ← allocate (functionObject code name scope)
  if code.constructs then
    let p ← allocate { properties := [(.name "constructor", .quiet (.object f))] }
    alter f fun o =>
      { o with
        properties := o.properties ++
          [(.name "prototype",
            { slot := .data (.object p), enumerable := false, configurable := false })] }
    pure (.object f)
  else pure (.object f)

/-- Make a new symbol. -/
def makeSymbol (description : Option Units) : Routine Value :=
  modifyGet fun store =>
    (.symbol (.made store.symbols description), { store with symbols := store.symbols + 1 })

end Routine

end DecompilerBridge.Script
