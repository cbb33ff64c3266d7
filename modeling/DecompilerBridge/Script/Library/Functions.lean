import DecompilerBridge.Script.Library.Objects

/-!
# Functions, errors, symbols and promises

The methods of functions, the errors with their texts, and what little scripts can see of symbols
and promises.
-/

set_option autoImplicit false

namespace DecompilerBridge.Script

open Text (Units)

namespace Routine

/-! ### Functions -/

/-- The text of a function that is provided. -/
def providedText (name : Units) : Units :=
  Units.ofString "function " ++ name ++ Units.ofString "() \x7b\n    [native code]\n\x7d"

/-- The name of a function as its text shows it. -/
def shownName (f : Value) : Routine Units := do
  match ← getNamed f "name" with
  | .undefined => pure []
  | v => toText v

/-- The text of a function. -/
def functionText (f : Value) : Routine Value := do
  match f with
  | .object r => do
    let o := (← getThe Store).object r
    match o.kind with
    | .function code _ => pure (Value.ofString code.text)
    | _ =>
      if o.isCallable then
        let name ← shownName f
        pure (.text (providedText name))
      else raise .typeError "not a function"
  | _ => raise .typeError "not a function"

/-- A function with `this` and the first arguments given. -/
def bind (f : Value) (args : List Value) : Routine Value := do
  expectCallable f
  let given := args.drop 1
  let length ← do
    match ← getNamed f "length" with
    | .number n => pure ((n.integerPart?.getD 0).toNat - given.length)
    | _ => pure 0
  let name ← do
    match ← getNamed f "name" with
    | .text s => pure s
    | _ => pure []
  let parent := (← getThe Store).prototypeOf? f
  let r ← allocate
    { kind := .bound f (argument args 0) given
      prototype := parent
      properties :=
        [(.name "length", .steady (.ofNat length)),
         (.name "name", .steady (.text (Units.ofString "bound " ++ name)))] }
  pure (.object r)

/-- The arguments that a list stands for. -/
def listedArguments (v : Value) : Routine (List Value) := do
  match v with
  | .undefined | .null => pure []
  | .object _ => itemsOf v
  | _ => raise .typeError "not a object"

/-- The methods of functions. -/
def functionMethod (name : String) (this : Value) (args : List Value) : Routine Value := do
  match name with
  | "call" => call this (argument args 0) (args.drop 1)
  | "apply" => do
    expectCallable this
    let items ← listedArguments (argument args 1)
    call this (argument args 0) items
  | "bind" => bind this args
  | "toString" => functionText this
  | _ => pure .undefined

/-! ### Errors -/

/-- The message an error is made with: the text of an argument that is not `undefined`. -/
def errorMessage (v : Value) : Routine (Option Value) := do
  match v with
  | .undefined => pure none
  | _ => do
    let s ← toText v
    pure (some (.text s))

/-- The cause that the options of an error give. -/
def errorCause (options : Value) : Routine (Option Value) := do
  if options.isObject then
    if ← hasMember options (.name "cause") then some <$> getNamed options "cause" else pure none
  else pure none

/-- Make an error of a class. -/
def makeError (c : ErrorClass) (args : List Value) : Routine Value := do
  let messageAt := if c = .aggregateError then 1 else 0
  let message ← errorMessage (argument args messageAt)
  let cause ← errorCause (argument args (messageAt + 1))
  let base := Object.ofError (.prototype (.error c)) message
  let withCause := match cause with
    | some v => base.define (.name "cause") (.quiet v)
    | none => base
  if c = .aggregateError then
    let items ← iterated (argument args 0)
    let errors ← makeList items
    let r ← allocate (withCause.define (.name "errors") (.quiet errors))
    pure (.object r)
  else
    let r ← allocate withCause
    pure (.object r)

/-- A member of an error in its text, with what stands for a missing one. -/
def errorPart (e : Value) (name missing : String) : Routine Units := do
  match ← getNamed e name with
  | .undefined => pure (Units.ofString missing)
  | v => toText v

/-- The text of an error: name and message, or the one of them that is not empty. -/
def errorText (e : Value) : Routine Value := do
  let _ ← expectObject e
  let name ← errorPart e "name" "Error"
  let message ← errorPart e "message" ""
  pure (.text (
    if name.isEmpty then message
    else if message.isEmpty then name
    else name ++ Units.ofString ": " ++ message))

/-- The functions of `Error`. -/
def errorFunction (name : String) (args : List Value) : Routine Value := do
  match name with
  | "isError" => pure (.bool ((← getThe Store).isError (argument args 0)))
  | "captureStackTrace" => do
    let r ← expectObject (argument args 0)
    alter r fun o => o.define (.name "stack") (.quiet (Value.ofString Object.stackText))
    pure .undefined
  | _ => pure .undefined

/-! ### Symbols -/

/-- The text of a symbol. -/
def symbolText (s : Symbol) : Units :=
  Units.ofString "Symbol(" ++ s.description.getD [] ++ Units.ofString ")"

/-- A new symbol. -/
def newSymbol (args : List Value) : Routine Value := do
  match argument args 0 with
  | .undefined => makeSymbol none
  | v => do
    let s ← toText v
    makeSymbol (some s)

/-- The functions of `Symbol`. -/
def symbolFunction (name : String) (args : List Value) : Routine Value := do
  match name with
  | "for" => do
    let s ← toText (argument args 0)
    pure (.symbol (.shared s))
  | "keyFor" => do
    match argument args 0 with
    | .symbol (.shared s) => pure (.text s)
    | .symbol _ => pure .undefined
    | _ => raise .typeError "not a symbol"
  | _ => pure .undefined

/-- The symbol that a method was called on. -/
def thisSymbol (this : Value) : Routine Symbol := do
  match this with
  | .symbol s => pure s
  | .object r => do
    match ((← getThe Store).object r).kind with
    | .boxed (.symbol s) => pure s
    | _ => raise .typeError "not a symbol"
  | _ => raise .typeError "not a symbol"

/-- The methods of symbols. -/
def symbolMethod (name : String) (this : Value) : Routine Value := do
  let s ← thisSymbol this
  match name with
  | "toString" => pure (.text (symbolText s))
  | "valueOf" => pure (.symbol s)
  | "get description" => pure (s.description.elim .undefined .text)
  | _ => pure .undefined

/-! ### Promises -/

/-- Make a promise. What becomes of it is not modelled, since nothing ever waits for one. -/
def makePromise : Routine Value := do
  let r ← allocate { kind := .promise, prototype := some (.prototype .promise) }
  pure (.object r)

/-- Whether a value is a promise. -/
def isPromise (v : Value) : Routine Bool := do
  match v with
  | .object r => do
    match ((← getThe Store).object r).kind with
    | .promise => pure true
    | _ => pure false
  | _ => pure false

/-- The functions of `Promise` that run no code of a script. -/
def promiseFunction (this : Value) : Routine Value := do
  if this.isObject then makePromise else raise .typeError "not an object"

/-- Look at what a promise is settled with: an object is asked for its `then`. -/
def adopt (v : Value) : Routine Unit := do
  if v.isObject then
    let _ ← getNamed v "then"
    pure ()
  else pure ()

/-- The methods of promises. -/
def promiseMethod (this : Value) : Routine Value := do
  if ← isPromise this then makePromise else raise .typeError "not a promise"

end Routine

end DecompilerBridge.Script
