import DecompilerBridge.Script.Library.Arguments

/-!
# Functions of objects

The functions of `Object`, the methods that every object inherits, and the functions of `Reflect`.
-/

set_option autoImplicit false

namespace DecompilerBridge.Script

open Text (Units)

/-- The parts of a property that a description gives. -/
structure PropertyChange where
  value : Option Value := none
  getter : Option (Option Value) := none
  setter : Option (Option Value) := none
  writable : Option Bool := none
  enumerable : Option Bool := none
  configurable : Option Bool := none

namespace PropertyChange

def isAccessor (c : PropertyChange) : Bool := c.getter.isSome || c.setter.isSome

def isData (c : PropertyChange) : Bool := c.value.isSome || c.writable.isSome

/-- The property after a change. Parts that are not given stay, or are the least ones for a new
property. -/
def apply (c : PropertyChange) (old : Option Property) : Property :=
  let oldValue := (old.bind Property.value?).getD .undefined
  let oldGetter := old.bind fun p => match p.slot with
    | .accessor g _ => g
    | .data _ => none
  let oldSetter := old.bind fun p => match p.slot with
    | .accessor _ s => s
    | .data _ => none
  let wasAccessor := (old.map fun p => p.value?.isNone).getD false
  { slot :=
      if c.isAccessor || (wasAccessor && !c.isData) then
        .accessor (c.getter.getD oldGetter) (c.setter.getD oldSetter)
      else .data (c.value.getD oldValue)
    writable := c.writable.getD (old.elim false fun p => p.writable && p.value?.isSome)
    enumerable := c.enumerable.getD (old.elim false (·.enumerable))
    configurable := c.configurable.getD (old.elim false (·.configurable)) }

/-- Whether a property that cannot be configured admits a change. -/
def admitted (c : PropertyChange) (p : Property) : Bool :=
  c.configurable != some true && (c.enumerable.getD p.enumerable == p.enumerable) &&
    match p.slot with
    | .data v =>
      !c.isAccessor &&
        (p.writable || (c.writable != some true && (c.value.map (·.sameOrNan v)).getD true))
    | .accessor g s =>
      !c.isData && decide (c.getter.getD g = g) && decide (c.setter.getD s = s)

end PropertyChange

namespace Routine

/-- An object that a function was given, or an error. -/
def expectObject (v : Value) : Routine Ref :=
  match v with
  | .object r => pure r
  | _ => raise .typeError "not an object"

/-- Assign the shown members of a source to an object. -/
def assignFrom (target : Ref) (source : Value) : Routine Unit := do
  if source.isNothing then pure ()
  else
    let giver ← toObject source
    let keys := (← getThe Store).shownKeys giver
    forEachIn (fun key => do
      match ((← getThe Store).object giver).own? key with
      | some p =>
        if p.enumerable then
          let v ← readSlot (.object giver) (some p)
          assignStrictly target key v
        else pure ()
      | none => pure ()) keys

/-- `Object.assign`. -/
def assignAll (args : List Value) : Routine Value := do
  let target ← toObject (argument args 0)
  forEachIn (assignFrom target) (args.drop 1)
  pure (.object target)

/-- The own keys of an object that listings show, without symbols. -/
def shownNames (v : Value) : Routine (Ref × List Key) := do
  let r ← toObject v
  pure (r, ((← getThe Store).shownKeys r).filter fun k => !k.isSymbol)

/-- The values of shown names. -/
def shownValues (v : Value) : Routine (List (Key × Value)) := do
  let (r, keys) ← shownNames v
  mapIn (fun key => do
    let x ← get (.object r) key
    pure (key, x)) keys

/-- A flag of a description, if it is given. -/
def flagOf (v : Value) (name : String) : Routine (Option Bool) := do
  if ← hasMember v (.name name) then
    let x ← getNamed v name
    pure (some x.truthy)
  else pure none

/-- A function of a description, if it is given. -/
def accessorOf (v : Value) (name : String) : Routine (Option (Option Value)) := do
  if ← hasMember v (.name name) then
    match ← getNamed v name with
    | .undefined => pure (some none)
    | f => do
      if ← isCallable f then pure (some (some f)) else raise .typeError "invalid getter or setter"
  else pure none

/-- The change that a description asks for. -/
def changeOf (v : Value) : Routine PropertyChange := do
  let _ ← expectObject v
  let enumerable ← flagOf v "enumerable"
  let configurable ← flagOf v "configurable"
  let value ← if ← hasMember v (.name "value") then some <$> getNamed v "value" else pure none
  let writable ← flagOf v "writable"
  let getter ← accessorOf v "get"
  let setter ← accessorOf v "set"
  let change : PropertyChange := ⟨value, getter, setter, writable, enumerable, configurable⟩
  if change.isAccessor && change.isData then
    raise .typeError "cannot have setter/getter and value or writable"
  else pure change

/-- Change the length of a list as a property. -/
def changeLength (r : Ref) (length : Nat) (fixed : Bool) (c : PropertyChange) : Routine Unit := do
  let wanted ← match c.value with
    | some v => toLength v
    | none => pure length
  let stays := c.writable == some false || fixed
  alter r fun o => o.withLength wanted stays

/-- Change or add an own property. The answer tells why it was refused. -/
def changeOwn (r : Ref) (key : Key) (c : PropertyChange) : Routine (Option String) := do
  let o ← object r
  match o.own? key with
  | some p =>
    if !p.configurable && !c.admitted p then pure (some "property is not configurable")
    else
      match o.kind, key with
      | .list length fixed, .name "length" =>
        changeLength r length fixed c
        pure none
      | _, _ =>
        if o.isBuiltIn key then pure none
        else
          alter r fun o => o.define key (c.apply (some p))
          pure none
  | none =>
    if !o.extensible then pure (some "object is not extensible")
    else
      alter r fun o => o.define key (c.apply none)
      pure none

/-- Change or add an own property, throwing if that is refused. -/
def changeStrictly (r : Ref) (key : Key) (c : PropertyChange) : Routine Unit := do
  match ← changeOwn r key c with
  | some why => raise .typeError why
  | none => pure ()

/-- The description of an own property. -/
def describeOwn (p : Property) : Routine Value :=
  let flags : Properties :=
    [(.name "enumerable", .plain (.bool p.enumerable)),
     (.name "configurable", .plain (.bool p.configurable))]
  match p.slot with
  | .data v =>
    makeObject ([(.name "value", .plain v), (.name "writable", .plain (.bool p.writable))] ++ flags)
  | .accessor g s =>
    makeObject ([(.name "get", .plain (g.getD .undefined)),
      (.name "set", .plain (s.getD .undefined))] ++ flags)

/-- The description of a property of a value, if it has it. -/
def describeProperty (v key : Value) : Routine Value := do
  let r ← toObject v
  let k ← toKey key
  match ((← getThe Store).object r).own? k with
  | some p => describeOwn p
  | none => pure .undefined

/-- Change properties as the members of an object describe. -/
def changeAll (r : Ref) (descriptions : Value) : Routine Unit := do
  let giver ← toObject descriptions
  let keys := (← getThe Store).shownKeys giver
  let changes ← mapIn (fun key => do
    let c ← changeOf (← get (.object giver) key)
    pure (key, c)) keys
  forEachIn (fun (change : Key × PropertyChange) => changeStrictly r change.1 change.2) changes

/-- The prototype that a value names. -/
def prototypeArgument (v : Value) : Routine (Option Ref) :=
  match v with
  | .object r => pure (some r)
  | .null => pure none
  | _ => raise .typeError "not a prototype"

/-- Give an object a prototype. The answer tells why it was refused. -/
def changePrototype (r : Ref) (p : Option Ref) : Routine (Option String) := do
  let store ← getThe Store
  let o := store.object r
  if o.prototype = p then pure none
  else if !o.extensible then pure (some "object is not extensible")
  else if store.inherits r store.chainBound p then pure (some "circular prototype chain")
  else
    alter r fun o => { o with prototype := p }
    pure none

/-- Give an object a prototype, throwing if that is refused. -/
def changePrototypeStrictly (r : Ref) (p : Option Ref) : Routine Unit := do
  match ← changePrototype r p with
  | some why => raise .typeError why
  | none => pure ()

/-- Close an object: no property can be added, removed or, if it is also frozen, assigned. -/
def close (frozen : Bool) (v : Value) : Routine Value := do
  match v with
  | .object r => do
    let keys := ((← getThe Store).object r).properties.map (·.1)
    alter r fun o => { o with extensible := false }
    forEachIn (fun key => alter r fun o =>
      match o.properties.find? key with
      | some p =>
        { o with
          properties := o.properties.put key
            { p with
              configurable := false
              writable := p.writable && !(frozen && p.value?.isSome) } }
      | none => o) keys
    if frozen then
      alter r fun o =>
        match o.kind with
        | .list length _ => { o with kind := .list length true }
        | _ => o
    else pure ()
    pure v
  | _ => pure v

/-- Whether an object is closed, and frozen if that is asked. -/
def isClosed (frozen : Bool) (v : Value) : Routine Value := do
  match v with
  | .object r => do
    let o := (← getThe Store).object r
    let closed := !o.extensible && o.keys.all fun key =>
      match o.own? key with
      | some p => !p.configurable && (!frozen || p.value?.isNone || !p.writable)
      | none => true
    pure (.bool closed)
  | _ => pure (.bool true)

/-- Whether a value has an own property. -/
def hasOwn (v key : Value) : Routine Value := do
  let k ← toKey key
  let r ← toObject v
  pure (.bool (((← getThe Store).object r).own? k).isSome)

/-- Make an object of the entries in a list. -/
def fromEntries (v : Value) : Routine Value := do
  let entries ← iterated v
  let made ← allocate {}
  forEachIn (fun entry => do
    let _ ← expectObject entry
    let key ← toKey (← get entry (.index 0))
    let x ← get entry (.index 1)
    alter made fun o => o.define key (.plain x)) entries
  pure (.object made)

/-- Add a value to the group under a key. -/
def addToGroup (key : Key) (v : Value) : List (Key × List Value) → List (Key × List Value)
  | [] => [(key, [v])]
  | (k, vs) :: rest => if k = key then (k, vs ++ [v]) :: rest else (k, vs) :: addToGroup key v rest

/-- Values in groups, by the key that a function gives to each. -/
def grouped (v f : Value) : Routine Value := do
  let items ← iterated v
  expectCallable f
  let groups ← items.zipIdx.foldlM (fun (groups : List (Key × List Value)) e => do
    let key ← toKey (← call f .undefined [e.1, .ofNat e.2])
    pure (addToGroup key e.1 groups)) []
  let members ← mapIn (fun (g : Key × List Value) => do
    let l ← makeList g.2
    pure (g.1, Property.plain l)) groups
  let r ← allocate { prototype := none, properties := members }
  pure (.object r)

/-- The functions of `Object`. -/
def objectFunction (name : String) (args : List Value) : Routine Value := do
  let v := argument args 0
  match name with
  | "assign" => assignAll args
  | "keys" => do
    let (_, keys) ← shownNames v
    makeList (keys.map Key.toValue)
  | "values" => do
    let entries ← shownValues v
    makeList (entries.map (·.2))
  | "entries" => do
    let entries ← shownValues v
    let pairs ← mapIn (fun (e : Key × Value) => makeList [e.1.toValue, e.2]) entries
    makeList pairs
  | "fromEntries" => fromEntries v
  | "groupBy" => grouped v (argument args 1)
  | "create" => do
    let p ← prototypeArgument v
    let r ← allocate { prototype := p }
    if argument args 1 = .undefined then pure (.object r)
    else
      changeAll r (argument args 1)
      pure (.object r)
  | "getPrototypeOf" => do
    let r ← toObject v
    pure ((((← getThe Store).object r).prototype).elim .null .object)
  | "setPrototypeOf" => do
    if v.isNothing then raise .typeError "not an object"
    else
      let p ← prototypeArgument (argument args 1)
      match v with
      | .object r =>
        changePrototypeStrictly r p
        pure v
      | _ => pure v
  | "defineProperty" => do
    let r ← expectObject v
    let key ← toKey (argument args 1)
    let c ← changeOf (argument args 2)
    changeStrictly r key c
    pure v
  | "defineProperties" => do
    let r ← expectObject v
    changeAll r (argument args 1)
    pure v
  | "getOwnPropertyNames" => do
    let r ← toObject v
    makeList ((((← getThe Store).object r).keys.filter fun k => !k.isSymbol).map Key.toValue)
  | "getOwnPropertySymbols" => do
    let r ← toObject v
    makeList ((((← getThe Store).object r).keys.filter Key.isSymbol).map Key.toValue)
  | "getOwnPropertyDescriptor" => describeProperty v (argument args 1)
  | "getOwnPropertyDescriptors" => do
    let r ← toObject v
    let o := (← getThe Store).object r
    let described ← mapIn (fun key => do
      let d ← match o.own? key with
        | some p => describeOwn p
        | none => pure .undefined
      pure (key, Property.plain d)) o.keys
    makeObject described
  | "is" => do
    match v, argument args 1 with
    | .number a, .number b => pure (.bool (decide (a = b)))
    | a, b => pure (.bool (a.strictEq b))
  | "hasOwn" => hasOwn v (argument args 1)
  | "freeze" => close true v
  | "seal" => close false v
  | "preventExtensions" => do
    match v with
    | .object r =>
      alter r fun o => { o with extensible := false }
      pure v
    | _ => pure v
  | "isFrozen" => isClosed true v
  | "isSealed" => isClosed false v
  | "isExtensible" => do
    match v with
    | .object r => pure (.bool ((← getThe Store).object r).extensible)
    | _ => pure (.bool false)
  | _ => pure .undefined

/-- The class name in the text of an object without a tag. -/
def plainTag (o : Object) : String :=
  match o.kind with
  | .list _ _ => "Array"
  | .error => "Error"
  | .arguments => "Arguments"
  | .boxed (.text _) => "String"
  | .boxed (.number _) => "Number"
  | .boxed (.bool _) => "Boolean"
  | _ => if o.isCallable then "Function" else "Object"

/-- The text that every object inherits, which shows its tag. -/
def tagText (v : Value) : Routine Value := do
  match v with
  | .undefined => pure (Value.ofString "[object Undefined]")
  | .null => pure (Value.ofString "[object Null]")
  | _ => do
    let r ← toObject v
    let plain := plainTag ((← getThe Store).object r)
    match ← get (.object r) tagKey with
    | .text s => pure (.text (Units.ofString "[object " ++ s ++ Units.ofString "]"))
    | _ => pure (Value.ofString ("[object " ++ plain ++ "]"))

/-- The methods that every object inherits. -/
def objectMethod (name : String) (this : Value) (args : List Value) : Routine Value := do
  match name with
  | "toString" => tagText this
  | "toLocaleString" => do
    let f ← memberNamed this "toString"
    call f this []
  | "valueOf" => do
    let r ← toObject this
    pure (.object r)
  | "hasOwnProperty" => hasOwn this (argument args 0)
  | "propertyIsEnumerable" => do
    let key ← toKey (argument args 0)
    let r ← toObject this
    pure (.bool (((((← getThe Store).object r).own? key).map (·.enumerable)).getD false))
  | "isPrototypeOf" => do
    match argument args 0 with
    | .object r => do
      let target ← toObject this
      pure (.bool ((← getThe Store).hasPrototype r target))
    | _ => pure (.bool false)
  | "get __proto__" => do
    let r ← toObject this
    pure ((((← getThe Store).object r).prototype).elim .null .object)
  | "set __proto__" => do
    match this, argument args 0 with
    | .object r, .object p => do
      changePrototypeStrictly r (some p)
      pure .undefined
    | .object r, .null => do
      changePrototypeStrictly r none
      pure .undefined
    | _, _ => pure .undefined
  | "__defineGetter__" => do
    let r ← toObject this
    expectCallable (argument args 1)
    let key ← toKey (argument args 0)
    changeStrictly r key
      { getter := some (some (argument args 1))
        enumerable := some true
        configurable := some true }
    pure .undefined
  | "__defineSetter__" => do
    let r ← toObject this
    expectCallable (argument args 1)
    let key ← toKey (argument args 0)
    changeStrictly r key
      { setter := some (some (argument args 1))
        enumerable := some true
        configurable := some true }
    pure .undefined
  | _ => pure .undefined

/-- The functions of `Reflect`. -/
def reflectFunction (name : String) (args : List Value) : Routine Value := do
  let v := argument args 0
  match name with
  | "apply" => do
    expectCallable v
    let items ← itemsOf (argument args 2)
    call v (argument args 1) items
  | "construct" => do
    if (← getThe Store).isConstructor v then
      let items ← itemsOf (argument args 1)
      construct v items
    else raise .typeError "not a constructor"
  | _ => do
    let r ← expectObject v
    match name with
    | "get" => do
      let key ← toKey (argument args 1)
      get v key
    | "set" => do
      let key ← toKey (argument args 1)
      let refusal ← assign r key (argument args 2)
      pure (.bool refusal.isNone)
    | "has" => do
      let key ← toKey (argument args 1)
      pure (.bool ((← getThe Store).property? r key).isSome)
    | "ownKeys" => makeList (((← getThe Store).object r).keys.map Key.toValue)
    | "deleteProperty" => do
      let key ← toKey (argument args 1)
      let gone ← modifyGetThe Store fun store => store.remove r key
      pure (.bool gone)
    | "defineProperty" => do
      let key ← toKey (argument args 1)
      let c ← changeOf (argument args 2)
      let refusal ← changeOwn r key c
      pure (.bool refusal.isNone)
    | "getOwnPropertyDescriptor" => describeProperty v (argument args 1)
    | "getPrototypeOf" => pure ((((← getThe Store).object r).prototype).elim .null .object)
    | "setPrototypeOf" => do
      let p ← prototypeArgument (argument args 1)
      let refusal ← changePrototype r p
      pure (.bool refusal.isNone)
    | "isExtensible" => pure (.bool ((← getThe Store).object r).extensible)
    | "preventExtensions" => do
      alter r fun o => { o with extensible := false }
      pure (.bool true)
    | _ => pure .undefined

end Routine

end DecompilerBridge.Script
