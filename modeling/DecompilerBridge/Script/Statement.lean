import DecompilerBridge.Script.Expression

/-!
# Statements

Running statements, by recursion over their syntax, and the names that a file adds to the global
object before its first statement runs.
-/

set_option autoImplicit false

namespace DecompilerBridge.Script

/-- How a list of statements ended: it ran to its end, or it gave back a value. -/
inductive Completion where
  | normal
  | returned (v : Value)

namespace Routine

/-- Remove a member of the global object. -/
def deleteGlobal (scope : Scope) (e : Expr) : Routine Unit := do
  let target ← readVariable scope "globalThis"
  let key ← e.eval scope
  let r ← toObject target
  let k ← toKey key
  let gone ← modifyGetThe Store fun store => store.remove r k
  if !gone && scope.strict then raise .typeError "could not delete property" else pure ()

/-- Whether the counter of a loop is still below its bound. -/
def belowBound (scope : Scope) (bound : Expr) : Routine Bool := do
  let i ← readVariable scope "i"
  let n ← bound.eval scope
  less i n

/-- Count up. -/
def countUp (scope : Scope) : Routine Unit := do
  let i ← readVariable scope "i"
  let next ← successor i
  writeVariable scope "i" next

/-- Refuse a function that a global of the same name keeps from being defined. -/
def checkDeclaration (d : Declaration) : Routine Unit := do
  let store ← getThe Store
  match store.global.own? (.name d.name) with
  | none =>
    if store.global.extensible then pure ()
    else raise .typeError ("cannot define variable '" ++ d.name ++ "'")
  | some p =>
    if d.body.isSome && !p.configurable && !(p.writable && p.enumerable && p.value?.isSome) then
      raise .typeError ("cannot define variable '" ++ d.name ++ "'")
    else pure ()

/-- A global that a file declares. It cannot be deleted. -/
def declaredProperty (v : Value) : Property := { slot := .data v, configurable := false }

/-- Add a variable to the global object, unless it is there. -/
def declareVariable (name : String) : Routine Unit :=
  alter .global fun o =>
    if (o.own? (.name name)).isSome then o
    else o.define (.name name) (declaredProperty .undefined)

/-- Add a function with the body of an index to the global object. -/
def declareFunction (strict : Bool) (name : String) (index : Nat) : Routine Unit := do
  let f ← makeFunction (.body name index) name { strict := strict }
  alter .global fun o => o.define (.name name) (declaredProperty f)

/-- Check declarations in order. -/
def checkDeclarations : List Declaration → Routine Unit
  | [] => pure ()
  | d :: rest => do
    checkDeclaration d
    checkDeclarations rest

end Routine

namespace Eval

open Routine

/-- Open a frame around a piece of code. -/
def openFrame (scope : Scope) (frame : Frame) : Eval Scope := do
  let frame ← modifyGet fun engine =>
    ((engine.pushFrame frame).1, engine.withStore (engine.pushFrame frame).2)
  pure { scope with frames := frame :: scope.frames }

/-- Keep the body of a function, and give its index. -/
def keepBody (body : List Stmt) : Eval Nat :=
  modifyGet fun engine => (engine.bodies.size, { engine with bodies := engine.bodies.push body })

/-- Add declared names to the global object. -/
def declareAll (self : Evaluator) (strict : Bool) : List Declaration → Eval Unit
  | [] => pure ()
  | ⟨name, none⟩ :: rest => do
    (declareVariable name).eval self
    declareAll self strict rest
  | ⟨name, some body⟩ :: rest => do
    let index ← keepBody body
    (declareFunction strict name index).eval self
    declareAll self strict rest

/-- Define the functions and declare the variables of a file. If one of them is refused, none is
added. -/
def hoist (self : Evaluator) (strict : Bool) (statements : Statements) : Eval Unit := do
  (checkDeclarations (hoisted statements)).eval self
  declareAll self strict (hoisted statements)

/-- The rounds that a counting loop is followed, beyond those that its bound asks for. -/
def roundsFor (rounds : Nat) : Expr → Nat
  | .number n => n.ceilNat + rounds
  | _ => rounds

/-- The rounds of a counting loop. The counter is an ordinary variable, which the body may change; a
loop that is not over when it is followed no longer counts as endless. -/
def countRounds (self : Evaluator) (scope : Scope) (bound : Expr) (round : Eval Completion) :
    Nat → Eval Completion
  | 0 => idle self.rounds
  | rounds + 1 => do
    let more ← (belowBound scope bound).eval self
    poll
    if more then
      match ← round with
      | .returned v => pure (.returned v)
      | .normal =>
        (countUp scope).eval self
        poll
        countRounds self scope bound round rounds
    else pure .normal

end Eval

open Eval

/-- Take a step of the countdown after a part that ran to its end. -/
def Eval.pollAfter (x : Eval Completion) : Eval Completion := do
  match ← x with
  | .normal =>
    poll
    pure .normal
  | .returned v => pure (.returned v)

mutual

/-- Run a statement. -/
def Stmt.run (self : Evaluator) (scope : Scope) : Stmt → Eval Completion
  | .expr e => do
    let _ ← (e.eval scope).eval self
    pure .normal
  | .declare name e | .assign name e => do
    let v ← (e.evalFor scope name).eval self
    (Routine.writeVariable scope name v).eval self
    pure .normal
  | .delete e => do
    (Routine.deleteGlobal scope e).eval self
    pure .normal
  | .raise e => do
    let v ← (e.eval scope).eval self
    throw (.thrown v)
  | .giveBack e => do
    let v ← (e.eval scope).eval self
    pure (.returned v)
  | .define _ _ => pure .normal
  | .tryCatch body handler =>
    catching true (pollAfter (runBlock self scope body)) fun v => do
      let inner ← openFrame scope [("caught", v)]
      pollAfter (runBlock self inner handler)
  | .ifElse condition yes no => do
    let c ← (condition.eval scope).eval self
    poll
    if c.truthy then
      if no.isEmpty then runBlock self scope yes else pollAfter (runBlock self scope yes)
    else runBlock self scope no
  | .count bound body => do
    (Routine.writeVariable scope "i" (.ofNat 0)).eval self
    countRounds self scope bound (runBlock self scope body) (roundsFor self.rounds bound)
  | .endless => idle self.rounds

/-- Run statements in order, up to one that gives back a value. -/
def runBlock (self : Evaluator) (scope : Scope) : List Stmt → Eval Completion
  | [] => pure .normal
  | s :: rest => do
    match ← s.run self scope with
    | .normal => runBlock self scope rest
    | .returned v => pure (.returned v)

end

end DecompilerBridge.Script
