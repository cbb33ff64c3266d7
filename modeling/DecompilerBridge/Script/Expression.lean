import DecompilerBridge.Script.Assignment

/-!
# Expressions

Evaluation of expressions, by recursion over their syntax. Operands are evaluated from left to
right, and a callee before the arguments of its call.
-/

set_option autoImplicit false

namespace DecompilerBridge.Script

open Text (Units)

namespace Routine

/-- The value of `this`. -/
def readThis (scope : Scope) : Routine Value := do
  match (← getThe Store).findLocal "this" scope.frames with
  | some (_, v) => pure v
  | none => pure (.object .global)

/-- The answer of the `typeof` operator for a value that may be missing. -/
def typeOf (v : Option Value) : Routine Value := do
  let store ← getThe Store
  pure (Value.ofString (v.elim "undefined" store.typeOf))

/-- The method that takes over the question for instances. -/
def instanceKey : Key := .symbol (.wellKnown "hasInstance")

/-- Whether an object has the prototype that a function gives to its instances. -/
def hasPrototypeOf (v cls : Value) : Routine Bool := do
  match v with
  | .object r =>
    match ← getNamed cls "prototype" with
    | .object p => do
      let store ← getThe Store
      pure (store.hasPrototype r p)
    | _ => raise .typeError "operand 'prototype' property is not an object"
  | _ => pure false

/-- The function behind one with given arguments. -/
def unbound (store : Store) : Value → Value
  | .object r =>
    match (store.object r).kind with
    | .bound target _ _ => target
    | _ => .object r
  | v => v

/-- Whether a value is an instance of a class. -/
def isInstance (v cls : Value) : Routine Bool := do
  if cls.isObject then
    let special ← get cls instanceKey
    if !special.isNothing then
      let r ← call special cls [v]
      pure r.truthy
    else if ← isCallable cls then
      let store ← getThe Store
      hasPrototypeOf v (unbound store cls)
    else raise .typeError "invalid 'instanceof' right operand"
  else raise .typeError "invalid 'instanceof' right operand"

/-- The object that a literal denotes. The name `__proto__` gives its prototype and no property. -/
def literalObject (properties : List (String × Value)) : Object where
  prototype := properties.foldl (fun p entry =>
    if entry.1 = "__proto__" then
      match entry.2 with
      | .object r => some r
      | .null => none
      | _ => p
    else p) (some (.prototype .object))
  properties := (properties.filter fun entry => entry.1 != "__proto__").map
    fun entry => (.ofString entry.1, .plain entry.2)

/-- An object whose conversion to text evaluates an expression. -/
def makeStringer (scope : Scope) (throws : Bool) (e : Expr) : Routine Value := do
  let f ← makeFunction (.gives throws e) "toString" scope
  makeObject [(.name "toString", .plain f)]

end Routine

namespace Expr

open Routine

/-- The name that a function without one takes from the place where it is written. -/
def takesName : Expr → Option Code
  | emptyFunction => some .empty
  | arrowFunction => some .arrow
  | _ => none

mutual

/-- Evaluate an expression. -/
def eval (scope : Scope) : Expr → Routine Value
  | this => readThis scope
  | null => pure .null
  | bool b => pure (.bool b)
  | number n => pure (.number n)
  | bigint n => pure (.bigint n)
  | text s => pure (.text s)
  | object ps => do
    let vs ← evalProperties scope ps
    let r ← allocate (literalObject vs)
    pure (.object r)
  | list es => do
    let vs ← evalAll scope es
    makeList vs
  | emptyFunction => makeFunction .empty "" scope
  | arrowFunction => makeFunction .arrow "" scope
  | stringer throws e => makeStringer scope throws e
  | read name => readVariable scope name
  | typeOf e =>
    match e with
    | read name => do
      let v ← readVariable? scope name
      Routine.typeOf v
    | e => do
      let v ← eval scope e
      Routine.typeOf (some v)
  | concat es => do
    let s ← evalConcat scope es
    pure (.text s)
  | strictEq a b => do
    let x ← eval scope a
    let y ← eval scope b
    pure (.bool (x.strictEq y))
  | property e key => do
    let v ← eval scope e
    let k ← eval scope key
    memberKeyed v k
  | member e name => do
    let v ← eval scope e
    memberNamed v name
  | instanceOf e cls => do
    let v ← eval scope e
    let c ← eval scope cls
    let b ← isInstance v c
    pure (.bool b)
  | call callee args =>
    match callee with
    | member e name => do
      let v ← eval scope e
      let f ← memberNamed v name
      let vs ← evalAll scope args
      Routine.call f v vs
    | callee => do
      let f ← eval scope callee
      let vs ← evalAll scope args
      Routine.call f .undefined vs
  | construct callee args => do
    let f ← eval scope callee
    let vs ← evalAll scope args
    Routine.construct f vs

/-- Evaluate expressions from left to right. -/
def evalAll (scope : Scope) : List Expr → Routine (List Value)
  | [] => pure []
  | e :: rest => do
    let v ← eval scope e
    let vs ← evalAll scope rest
    pure (v :: vs)

/-- Evaluate properties in order. A function without a name takes that of its property. -/
def evalProperties (scope : Scope) : List (String × Expr) → Routine (List (String × Value))
  | [] => pure []
  | (key, e) :: rest => do
    let v ← match takesName e with
      | some code => makeFunction code (if key = "__proto__" then "" else key) scope
      | none => eval scope e
    let vs ← evalProperties scope rest
    pure ((key, v) :: vs)

/-- The concatenation of operands, each converted before the next is evaluated. -/
def evalConcat (scope : Scope) : List Expr → Routine Units
  | [] => pure []
  | e :: rest => do
    let v ← eval scope e
    let s ← operandText v
    let r ← evalConcat scope rest
    pure (s ++ r)

end

/-- Evaluate an expression for a variable. A function without a name takes that of the variable. -/
def evalFor (scope : Scope) (name : String) (e : Expr) : Routine Value :=
  match takesName e with
  | some code => makeFunction code name scope
  | none => eval scope e

end Expr

end DecompilerBridge.Script
