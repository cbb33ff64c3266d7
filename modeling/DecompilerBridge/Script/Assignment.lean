import DecompilerBridge.Script.Conversion

/-!
# Assignments

Assigning properties and variables.

An assignment can be refused. Strict code throws then, and other code goes on as if nothing had
happened.
-/

set_option autoImplicit false

namespace DecompilerBridge.Script

/-- Why an assignment was refused. -/
inductive Refusal where
  | readOnly (key : Key)
  | noSetter
  | notExtensible

def Refusal.message : Refusal → String
  | readOnly key => "'" ++ key.shown ++ "' is read-only"
  | noSetter => "no setter for property"
  | notExtensible => "object is not extensible"

namespace Routine

/-- The length that a value gives to a list. -/
def toLength (v : Value) : Routine Nat := do
  let n ← toNumber v
  match n.toInt? with
  | some i =>
    if 0 ≤ i && i ≤ Key.indexBound then pure i.toNat
    else raise .rangeError "invalid array length"
  | none => if n.isZero then pure 0 else raise .rangeError "invalid array length"

/-- Replace the value of an own property. -/
def replaceOwn (r : Ref) (key : Key) (p : Property) (v : Value) : Routine Unit := do
  let o ← object r
  match o.kind, key with
  | .list _ fixed, .name "length" =>
    let length ← toLength v
    alter r fun o => o.withLength length fixed
  | _, _ => alter r fun o => o.define key { p with slot := .data v }

/-- Add an own property. A list whose length is fixed takes no items beyond it. -/
def addOwn (r : Ref) (key : Key) (v : Value) : Routine (Option Refusal) := do
  let o ← object r
  if !o.extensible then pure (some .notExtensible)
  else
    match o.kind, key with
    | .list length true, .index i =>
      if length ≤ i then pure (some (.readOnly (.name "length")))
      else
        alter r fun o => o.define key (.plain v)
        pure none
    | _, _ =>
      alter r fun o => o.define key (.plain v)
      pure none

/-- Assign through a property that is an accessor. -/
def assignThrough (r : Ref) (setter : Option Value) (v : Value) : Routine (Option Refusal) := do
  match setter with
  | some f =>
    let _ ← call f (.object r) [v]
    pure none
  | none => pure (some .noSetter)

/-- Assign a property of an object. -/
def assign (r : Ref) (key : Key) (v : Value) : Routine (Option Refusal) := do
  let store ← getThe Store
  let o := store.object r
  match o.own? key with
  | some p =>
    match p.slot with
    | .data _ =>
      if p.writable then
        replaceOwn r key p v
        pure none
      else pure (some (.readOnly key))
    | .accessor _ setter => assignThrough r setter v
  | none =>
    match store.along key store.chainBound o.prototype with
    | none => addOwn r key v
    | some p =>
      match p.slot with
      | .data _ => if p.writable then addOwn r key v else pure (some (.readOnly key))
      | .accessor _ setter => assignThrough r setter v

/-- Throw for a refusal. -/
def insist (refusal : Option Refusal) : Routine Unit :=
  match refusal with
  | some why => raise .typeError why.message
  | none => pure ()

/-- Assign a property, throwing if that is refused. -/
def assignStrictly (r : Ref) (key : Key) (v : Value) : Routine Unit := do
  insist (← assign r key v)

end Routine

/-! ### Variables -/

namespace Store

/-- The value of a variable in a frame. -/
def cell? (name : String) : Frame → Option Value
  | [] => none
  | (n, v) :: rest => if n = name then some v else cell? name rest

/-- Set a variable in a frame that has it. -/
def setCell (name : String) (value : Value) : Frame → Frame
  | [] => []
  | (n, v) :: rest => if n = name then (n, value) :: rest else (n, v) :: setCell name value rest

/-- The nearest frame that has a variable, and its value. -/
def findLocal (store : Store) (name : String) : List Nat → Option (Nat × Value)
  | [] => none
  | i :: outer =>
    match cell? name (store.frames.getD i []) with
    | some v => some (i, v)
    | none => store.findLocal name outer

/-- Set a variable of a frame. -/
def setLocal (store : Store) (i : Nat) (name : String) (value : Value) : Store :=
  { store with frames := store.frames.modify i (setCell name value) }

end Store

namespace Routine

/-- The value of a variable, if it exists. -/
def readVariable? (scope : Scope) (name : String) : Routine (Option Value) := do
  let store ← getThe Store
  match store.findLocal name scope.frames with
  | some (_, v) => pure (some v)
  | none =>
    match store.property? .global (.name name) with
    | some p => do
      let v ← readSlot (.object .global) (some p)
      pure (some v)
    | none => pure none

/-- The error for a variable that does not exist. -/
def missingVariable {α : Type} (name : String) : Routine α :=
  raise .referenceError (name ++ " is not defined")

/-- The value of a variable that has to exist. -/
def readVariable (scope : Scope) (name : String) : Routine Value := do
  match ← readVariable? scope name with
  | some v => pure v
  | none => missingVariable name

/-- Assign a member of the global object as a variable. Strict code makes no new one. -/
def writeGlobal (strict : Bool) (name : String) (value : Value) : Routine Unit := do
  let store ← getThe Store
  if strict && (store.property? .global (.name name)).isNone then missingVariable name
  else
    let refusal ← assign .global (.name name) value
    if strict then insist refusal else pure ()

/-- Assign a variable: the nearest one of that name, or a global. -/
def writeVariable (scope : Scope) (name : String) (value : Value) : Routine Unit := do
  match (← getThe Store).findLocal name scope.frames with
  | some (i, _) => modify fun store => store.setLocal i name value
  | none => writeGlobal scope.strict name value

end Routine

end DecompilerBridge.Script
