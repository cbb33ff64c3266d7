import DecompilerBridge.Script.Realm

/-!
# The store of an engine

What the code of the language works on: the objects, the variables, and the memory they have.
-/

set_option autoImplicit false

namespace DecompilerBridge.Script

open Text (Units)

/-- Whether a text of some units fits into memory of some bytes, if those are bounded. -/
def fitsMemory (memory : Option Nat) (units : Nat) : Bool :=
  match memory with
  | some bytes => bytes == 0 || decide (units ≤ bytes)
  | none => true

/-- The variables of a function call or of a handler. -/
abbrev Frame := List (String × Value)

/-- The objects and variables of an engine. -/
structure Store where
  /-- The bytes of memory, if they are bounded. -/
  memory : Option Nat := none
  /-- The global object. -/
  global : Object := globalObject
  /-- The objects of a new engine that are no longer as they were. -/
  altered : List (Intrinsic × Object) := []
  /-- The objects made so far. -/
  heap : Array Object := #[]
  /-- The frames of every function call and handler so far. -/
  frames : Array Frame := #[]
  /-- The number of symbols made so far. -/
  symbols : Nat := 0
  /-- The random numbers still to be drawn. -/
  randoms : Nat → Nat := fun _ => 0

namespace Store

/-- The object behind a reference. -/
def object (store : Store) : Ref → Object
  | .intrinsic (.holder .global) => store.global
  | .intrinsic i => (store.altered.lookup i).getD i.initial
  | .made n => store.heap.getD n {}

/-- Replace the entry of an object of a new store. -/
def alterIn (i : Intrinsic) (o : Object) :
    List (Intrinsic × Object) → List (Intrinsic × Object)
  | [] => [(i, o)]
  | (j, p) :: rest => if j = i then (j, o) :: rest else (j, p) :: alterIn i o rest

/-- Change the object behind a reference. -/
def alter (store : Store) (r : Ref) (change : Object → Object) : Store :=
  match r with
  | .intrinsic (.holder .global) => { store with global := change store.global }
  | .intrinsic i =>
    { store with altered := alterIn i (change (store.object (.intrinsic i))) store.altered }
  | .made n => { store with heap := store.heap.modify n change }

/-- Make a new object. -/
def allocate (store : Store) (o : Object) : Ref × Store :=
  (.made store.heap.size, { store with heap := store.heap.push o })

/-- Open a new frame, and give its number. -/
def pushFrame (store : Store) (frame : Frame) : Nat × Store :=
  (store.frames.size, { store with frames := store.frames.push frame })

/-- Draw a random number. -/
def draw (store : Store) : Nat × Store :=
  (store.randoms 0, { store with randoms := fun n => store.randoms (n + 1) })

/-- Whether a value can be called. -/
def isCallable (store : Store) : Value → Bool
  | .object r => (store.object r).isCallable
  | _ => false

/-- Whether new objects can be made with a value. -/
def isConstructor (store : Store) : Value → Bool
  | .object r => (store.object r).constructs
  | _ => false

/-- Whether a value is a list. -/
def isList (store : Store) : Value → Bool
  | .object r => (store.object r).isList
  | _ => false

/-- The length of a value that is a list. -/
def listLength? (store : Store) : Value → Option Nat
  | .object r =>
    match (store.object r).kind with
    | .list length _ => some length
    | _ => none
  | _ => none

/-- Whether a value is an error. -/
def isError (store : Store) : Value → Bool
  | .object r =>
    match (store.object r).kind with
    | .error => true
    | _ => false
  | _ => false

/-- The answer of the `typeof` operator. -/
def typeOf (store : Store) : Value → String
  | .undefined => "undefined"
  | .null => "object"
  | .bool _ => "boolean"
  | .number _ => "number"
  | .bigint _ => "bigint"
  | .text _ => "string"
  | .symbol _ => "symbol"
  | .object r => if (store.object r).isCallable then "function" else "object"

/-- The greatest number that natives call an integer. -/
def greatestInt : Int := 2147483647

/-- The name of a value's type in the error texts of natives. -/
def typeName (store : Store) : Value → String
  | .undefined => "undefined"
  | .null => "null"
  | .bool _ => "bool"
  | .number n =>
    match n.toInt? with
    | some i => if -greatestInt ≤ i && i ≤ greatestInt then "int" else "float"
    | none => "float"
  | .bigint _ => "big_int"
  | .text _ => "string"
  | .symbol _ => "symbol"
  | .object r =>
    let o := store.object r
    match o.kind with
    | .list _ _ => "array"
    | .promise => "promise"
    | .error => "exception"
    | _ =>
      if o.constructs then "constructor" else if o.isCallable then "function" else "object"

end Store

end DecompilerBridge.Script
