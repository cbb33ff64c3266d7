import DecompilerBridge.Script.Routine

/-!
# Members of values

Looking up, reading and removing the members of values.

A member of an object is its own property or the nearest one along its prototypes. A primitive value
has the members of the prototype of its class, and texts have their units and their length besides.
-/

set_option autoImplicit false

namespace DecompilerBridge.Script

open Text (Units)

namespace Store

/-- A bound on the number of objects in a chain of prototypes. -/
def chainBound (store : Store) : Nat := store.heap.size + 4 * store.altered.length + 8

/-- The nearest property under a key along a chain of prototypes. -/
def along (store : Store) (key : Key) : Nat → Option Ref → Option Property
  | 0, _ => none
  | _, none => none
  | fuel + 1, some r =>
    let o := store.object r
    match o.own? key with
    | some p => some p
    | none => store.along key fuel o.prototype

/-- The property of an object under a key, its own or an inherited one. -/
def property? (store : Store) (r : Ref) (key : Key) : Option Property :=
  store.along key store.chainBound (some r)

/-- The prototype whose members a value has. -/
def prototypeOf? (store : Store) : Value → Option Ref
  | .undefined | .null => none
  | .bool _ => some (.prototype .boolean)
  | .number _ => some (.prototype .number)
  | .bigint _ => some (.prototype .bigint)
  | .text _ => some (.prototype .text)
  | .symbol _ => some (.prototype .symbol)
  | .object r => (store.object r).prototype

/-- The wrapped form of a primitive value. -/
def boxOf (store : Store) (v : Value) : Object :=
  { kind := .boxed v, prototype := store.prototypeOf? v }

/-- The member of a value under a key. -/
def member? (store : Store) (v : Value) (key : Key) : Option Property :=
  match v with
  | .object r => store.property? r key
  | .undefined | .null => none
  | _ =>
    match (store.boxOf v).own? key with
    | some p => some p
    | none => store.along key store.chainBound (store.prototypeOf? v)

/-- Whether an object is reached from another along prototypes. -/
def inherits (store : Store) (target : Ref) : Nat → Option Ref → Bool
  | 0, _ => false
  | _, none => false
  | fuel + 1, some r => r == target || store.inherits target fuel (store.object r).prototype

/-- Whether an object has another among its prototypes. -/
def hasPrototype (store : Store) (r target : Ref) : Bool :=
  store.inherits target store.chainBound (store.object r).prototype

/-- Remove an own property, if it can be removed. The flag tells whether it is gone. -/
def remove (store : Store) (r : Ref) (key : Key) : Bool × Store :=
  match (store.object r).own? key with
  | none => (true, store)
  | some p =>
    if p.configurable then
      (true, store.alter r fun o => { o with properties := o.properties.erase key })
    else (false, store)

/-- The own keys of an object that listings show, symbols included. -/
def shownKeys (store : Store) (r : Ref) : List Key :=
  let o := store.object r
  o.keys.filter fun k => ((o.own? k).map (·.enumerable)).getD false

end Store

namespace Routine

/-- Read a property on behalf of a value. -/
def readSlot (v : Value) : Option Property → Routine Value
  | none => pure .undefined
  | some p =>
    match p.slot with
    | .data x => pure x
    | .accessor (some getter) _ => call getter v []
    | .accessor none _ => pure .undefined

/-- The member of a value under a key. -/
def get (v : Value) (key : Key) : Routine Value := do
  let store ← getThe Store
  readSlot v (store.member? v key)

/-- The member of a value under a name. -/
def getNamed (v : Value) (name : String) : Routine Value := get v (.name name)

/-- The member of a value under a written name. -/
def memberNamed (v : Value) (name : String) : Routine Value :=
  if v.isNothing then
    raise .typeError ("cannot read property '" ++ name ++ "' of " ++ v.nothingName)
  else getNamed v name

/-- Whether a value can be called. -/
def isCallable (v : Value) : Routine Bool := do
  let store ← getThe Store
  pure (store.isCallable v)

/-- Refuse a value that cannot be called. -/
def expectCallable (v : Value) : Routine Unit := do
  if ← isCallable v then pure () else raise .typeError "not a function"

/-- Whether a value has a member. -/
def hasMember (v : Value) (key : Key) : Routine Bool := do
  let store ← getThe Store
  pure (store.member? v key).isSome

end Routine

end DecompilerBridge.Script
