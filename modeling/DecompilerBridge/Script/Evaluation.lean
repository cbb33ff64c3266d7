import DecompilerBridge.Script.Library
import DecompilerBridge.Script.Statement

/-!
# Calls

Calling functions and making new objects.

Every call takes up one level of the stack. The evaluator with no level left throws a `RangeError`;
the evaluator with one level more runs the function that is called and leaves the calls that it
makes to the evaluator below.
-/

set_option autoImplicit false

namespace DecompilerBridge.Script

open Text (Units)

namespace Eval

/-- The value of `this` in a function. Outside strict code it is always an object. -/
def functionThis (strict : Bool) (this : Value) : Routine Value := do
  if strict || this.isObject then pure this
  else if this.isNothing then pure (.object .global)
  else boxed this

/-- The variables of a function call besides those that the function declares. -/
def givenVariables (this : Value) (args : List Value) (listed : Ref) : Frame :=
  [("this", this), ("args", args.headD .undefined), ("arguments", .object listed)]

/-- The variables of a function call. -/
def callVariables (given : Frame) (body : List Stmt) : Frame :=
  given ++ ((hoisted body).filter fun d => (given.lookup d.name).isNone).map
    fun d => (d.name, .undefined)

/-- Run the code of a function. -/
def runFunction (self : Evaluator) (f : Value) (code : Code) (scope : Scope) (this : Value)
    (args : List Value) : Eval Value := do
  match code with
  | .empty => pure .undefined
  | .arrow => pure (.ofNat 0)
  | .gives throws e =>
    let v ← (e.eval scope).eval self
    if throws then throw (.thrown v) else pure v
  | .body _ index =>
    let statements := (← get).bodies.getD index []
    let strict := scope.strict || opensStrict statements
    let receiver ← (functionThis strict this).eval self
    let listed ← (Routine.allocate (.ofArguments f args)).eval self
    let inner ← openFrame { scope with strict := strict }
      (callVariables (givenVariables receiver args listed) statements)
    match ← runBlock self inner statements with
    | .returned v => pure v
    | .normal => pure .undefined

/-- Run code on behalf of a promise. What it throws is the promise's own affair. -/
def forPromise (x : Eval Unit) : Eval Unit := catching false x fun _ => pure ()

/-- Make a promise and run the function that is to settle it. -/
def constructPromise (self : Evaluator) (args : List Value) : Eval Value := do
  let executor := Routine.argument args 0
  if (← get).isCallable executor then
    let made ← Routine.makePromise.eval self
    let settle := (Owner.prototype .promise).method ""
    forPromise do
      let _ ← self.call executor .undefined [settle, settle]
      pure ()
    pure made
  else raise .typeError "not a function"

/-- `Promise.resolve`: a promise for a value, or the value itself if it is one. -/
def resolvePromise (self : Evaluator) (this : Value) (args : List Value) : Eval Value := do
  let value := Routine.argument args 0
  let settled ← (Routine.isPromise value).eval self
  if this.isObject && settled then pure value
  else
    let made ← (Routine.promiseFunction this).eval self
    forPromise ((Routine.adopt value).eval self)
    pure made

/-- `Promise.try`: a promise for what a function gives back. -/
def tryPromise (self : Evaluator) (this : Value) (args : List Value) : Eval Value := do
  let made ← (Routine.promiseFunction this).eval self
  forPromise do
    let value ← self.call (Routine.argument args 0) .undefined (args.drop 1)
    (Routine.adopt value).eval self
  pure made

/-- Call a function of `Promise` that runs code of a script, if a function is one. -/
def promise? (self : Evaluator) (i : Intrinsic) (this : Value) (args : List Value) :
    Option (Eval Value) :=
  match i with
  | .method (.constructor .promise) "resolve" => some (resolvePromise self this args)
  | .method (.constructor .promise) "try" => some (tryPromise self this args)
  | _ => none

/-- The native of the bridge that a function is, if it is one. -/
def native? : Intrinsic → Option Native
  | .method .global "r2cmd" => some .command
  | .method .global "___internal_load" => some .load
  | .method .global "___internal_require" => some .require
  | .method (.space .console) _ => some .console
  | _ => none

/-- Call a function of the language or of the bridge. -/
def callBuiltin (self : Evaluator) (i : Intrinsic) (this : Value) (args : List Value) :
    Eval Value :=
  match native? i with
  | some n => callNative self.left n args
  | none => (promise? self i this args).getD ((i.called this args).eval self)

/-- Call a value. -/
def callStep (self : Evaluator) (callee this : Value) (args : List Value) : Eval Value := do
  poll
  match callee with
  | .object r =>
    match ((← get).object r).kind with
    | .function code scope => runFunction self callee code scope this args
    | .builtin i => callBuiltin self i this args
    | .bound target receiver given => self.call target receiver (given ++ args)
    | _ => raise .typeError "not a function"
  | _ => raise .typeError "not a function"

/-- The prototype of the objects that a function makes. -/
def instancePrototype (f : Value) : Routine Ref := do
  match ← Routine.getNamed f "prototype" with
  | .object p => pure p
  | _ => pure (.prototype .object)

/-- Make a new object with a function of a script. -/
def constructWith (self : Evaluator) (f : Value) (code : Code) (scope : Scope)
    (args : List Value) : Eval Value := do
  if code.constructs then
    let prototype ← (instancePrototype f).eval self
    let made ← (Routine.allocate { prototype := some prototype }).eval self
    poll
    let result ← runFunction self f code scope (.object made) args
    pure (if result.isObject then result else .object made)
  else raise .typeError "not a constructor"

/-- Make a new object. -/
def constructStep (self : Evaluator) (callee : Value) (args : List Value) : Eval Value := do
  poll
  match callee with
  | .object r =>
    match ((← get).object r).kind with
    | .function code scope => constructWith self callee code scope args
    | .builtin (.holder (.constructor .promise)) => constructPromise self args
    | .builtin (.holder (.constructor c)) => (c.constructed args).eval self
    | .bound target _ given => self.construct target (given ++ args)
    | _ => raise .typeError "not a constructor"
  | _ => raise .typeError "not a function"

end Eval

namespace Evaluator

/-- The evaluator with no stack left. -/
def exhausted (rounds : Nat) : Evaluator where
  call _ _ _ := Eval.raise .rangeError "Maximum call stack size exceeded"
  construct _ _ := Eval.raise .rangeError "Maximum call stack size exceeded"
  left := 0
  rounds := rounds

/-- The evaluator with one level of stack more. -/
def deeper (self : Evaluator) : Evaluator where
  call := Eval.callStep self
  construct := Eval.constructStep self
  left := self.left + 1
  rounds := self.rounds

/-- The evaluator with some levels of stack. -/
def withStack (rounds : Nat) : Nat → Evaluator
  | 0 => exhausted rounds
  | levels + 1 => deeper (withStack rounds levels)

end Evaluator

namespace Eval

/-- Run a script as global code. -/
def runScript (self : Evaluator) : Except SyntaxFault Statements → Eval Unit
  | .error fault => raise .syntaxError fault.message
  | .ok statements => do
    poll
    let strict := opensStrict statements
    hoist self strict statements
    let _ ← runBlock self { strict := strict } statements
    pure ()

end Eval

end DecompilerBridge.Script
