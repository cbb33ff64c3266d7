import DecompilerBridge.Script.Library.Functions
import DecompilerBridge.Script.Library.Globals
import DecompilerBridge.Script.Library.Json
import DecompilerBridge.Script.Library.Lists
import DecompilerBridge.Script.Library.Texts

/-!
# The library

What the functions do that the language itself provides, by their owner: called as functions, and
used to make new objects.
-/

set_option autoImplicit false

namespace DecompilerBridge.Script

open Text (Units)
open Routine

/-- The text that `String` gives for its arguments. Symbols have one here. -/
def textOfArguments : List Value → Routine Value
  | [] => pure (.text [])
  | .symbol s :: _ => pure (.text (symbolText s))
  | v :: _ => do
    let s ← toText v
    pure (.text s)

/-- A primitive value wrapped in an object. -/
def boxed (v : Value) : Routine Value := do
  let r ← allocate ((← getThe Store).boxOf v)
  pure (.object r)

/-- The object that `Object` gives for its arguments. -/
def objectOfArguments (args : List Value) : Routine Value := do
  if (argument args 0).isNothing then makeObject []
  else
    let r ← toObject (argument args 0)
    pure (.object r)

/-- An object of a class of which scripts see little more than the name. -/
def opaqueObject (name : String) : Routine Value := do
  let r ← allocate { prototype := some (.prototype (.other name)) }
  pure (.object r)

/-- Call the constructor of a class as a function. -/
def Class.called (c : Class) (args : List Value) : Routine Value :=
  match c with
  | .object => objectOfArguments args
  | .function => makeFunction .empty "anonymous" {}
  | .error e => makeError e args
  | .list => newList args
  | .number => do
    let n ← numberOf args
    pure (.number n)
  | .boolean => pure (.bool (argument args 0).truthy)
  | .text => textOfArguments args
  | .symbol => newSymbol args
  | .bigint => bigintOf (argument args 0)
  | .promise => raise .typeError "must be called with new"
  | .other name =>
    if name = "Date" || name = "RegExp" then opaqueObject name
    else raise .typeError "must be called with new"

/-- Make a new object of a class. -/
def Class.constructed (c : Class) (args : List Value) : Routine Value :=
  match c with
  | .number => do
    let n ← numberOf args
    boxed (.number n)
  | .boolean => boxed (.bool (argument args 0).truthy)
  | .text => do
    let s ← match args with
      | [] => pure []
      | v :: _ => toText v
    boxed (.text s)
  | .symbol | .bigint => raise .typeError "not a constructor"
  | .promise => makePromise
  | .other name => opaqueObject name
  | c => c.called args

/-- Call a method of a prototype. -/
def Class.method (c : Class) (name : String) (this : Value) (args : List Value) : Routine Value :=
  match c with
  | .object => objectMethod name this args
  | .function => functionMethod name this args
  | .error _ => errorText this
  | .list => listMethod name this args
  | .number => numberMethod name this args
  | .boolean => booleanMethod name this
  | .text => textMethod name this args
  | .symbol => symbolMethod name this
  | .bigint => bigintMethod name this args
  | .promise => if name = "" then pure .undefined else promiseMethod this
  | .other _ => if c = .iterator then nextOf this else pure .undefined

/-- Call a function that a constructor holds. -/
def Class.held (c : Class) (name : String) (this : Value) (args : List Value) : Routine Value :=
  match c with
  | .object => objectFunction name args
  | .error _ => errorFunction name args
  | .list => listFunction name args
  | .number => numberFunction name args
  | .text => textFunction name args
  | .symbol => symbolFunction name args
  | .promise => promiseFunction this
  | _ => pure .undefined

/-- Call a function of the language itself. -/
def Intrinsic.called (i : Intrinsic) (this : Value) (args : List Value) : Routine Value :=
  match i with
  | .holder (.constructor c) => c.called args
  | .holder _ => pure .undefined
  | .method .global name => globalFunction name args
  | .method (.constructor c) name => c.held name this args
  | .method (.prototype c) name => c.method name this args
  | .method (.space s) name =>
    match s with
    | .json => jsonFunction name args
    | .math => mathFunction name args
    | .reflect => reflectFunction name args
    | _ => pure .undefined

end DecompilerBridge.Script
