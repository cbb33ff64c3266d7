import DecompilerBridge.Script.Value

/-!
# Objects

What an object is made of: its properties in the order in which they came, its prototype, and what
makes it more than a set of properties.
-/

set_option autoImplicit false

namespace DecompilerBridge.Script

open Text (Units)

/-- What a property holds. -/
inductive Slot where
  | data (v : Value)
  | accessor (getter setter : Option Value)
deriving DecidableEq, Repr

/-- A property with its attributes. -/
structure Property where
  slot : Slot
  writable : Bool := true
  enumerable : Bool := true
  configurable : Bool := true
deriving DecidableEq, Repr

namespace Property

/-- A property as scripts make it by assignment. -/
def plain (v : Value) : Property := { slot := .data v }

/-- A property that is left out of listings. -/
def quiet (v : Value) : Property := { slot := .data v, enumerable := false }

/-- A property that is left out of listings and cannot be assigned. -/
def steady (v : Value) : Property := { slot := .data v, writable := false, enumerable := false }

/-- A property that is left out of listings and stays as it is. -/
def constant (v : Value) : Property :=
  { slot := .data v, writable := false, enumerable := false, configurable := false }

/-- The value of a property that holds one. -/
def value? (p : Property) : Option Value :=
  match p.slot with
  | .data v => some v
  | .accessor _ _ => none

end Property

/-- The variables that a piece of code can see, as frames with the innermost first, and whether the
code is strict. -/
structure Scope where
  frames : List Nat := []
  strict : Bool := false

/-- What a function of a script does when it is called. -/
inductive Code where
  | empty
  | arrow
  /-- Evaluate an expression, and then return or throw it. -/
  | gives (throws : Bool) (e : Expr)
  /-- Run the body that the engine keeps under an index. -/
  | body (name : String) (index : Nat)

namespace Code

/-- The source text of a function. -/
def text : Code → String
  | empty => "function () \x7b\x7d"
  | arrow => "() => 0"
  | gives _ _ => "toString() \x7b\x7d"
  | body name _ => "function " ++ name ++ "(args) \x7b\x7d"

def parameters : Code → Nat
  | body _ _ => 1
  | _ => 0

/-- Whether new objects can be made with a function. -/
def constructs : Code → Bool
  | empty => true
  | body _ _ => true
  | _ => false

end Code

/-- What makes an object more than a set of properties. -/
inductive Kind where
  | ordinary
  /-- A list knows its length, which may be fixed. -/
  | list (length : Nat) (fixed : Bool)
  | function (code : Code) (scope : Scope)
  /-- A function that the language or the bridge provides. -/
  | builtin (i : Intrinsic)
  /-- A function with `this` and the first arguments given. -/
  | bound (target this : Value) (args : List Value)
  | error
  /-- A primitive value wrapped in an object. -/
  | boxed (v : Value)
  | promise
  /-- The arguments of a call. -/
  | arguments
  /-- Values that are given one after the other. -/
  | iterator (rest : List Value)

/-- Properties in the order in which they came. -/
abbrev Properties := List (Key × Property)

namespace Properties

/-- The property of a key. -/
def find? (key : Key) : Properties → Option Property
  | [] => none
  | (k, p) :: rest => if k = key then some p else find? key rest

/-- Set a property: an existing one is replaced in place. -/
def put (key : Key) (property : Property) : Properties → Properties
  | [] => [(key, property)]
  | (k, p) :: rest => if k = key then (k, property) :: rest else (k, p) :: put key property rest

/-- Remove a property. -/
def erase (key : Key) : Properties → Properties
  | [] => []
  | (k, p) :: rest => if k = key then rest else (k, p) :: erase key rest

/-- The properties of list items, from an index on. -/
def ofItems (start : Nat) : List Value → Properties
  | [] => []
  | v :: rest => (.index start, .plain v) :: ofItems (start + 1) rest

end Properties

/-- An object: of what kind it is, its prototype, and its own properties. -/
structure Object where
  kind : Kind := .ordinary
  prototype : Option Ref := some (.prototype .object)
  properties : Properties := []
  /-- Whether properties can be added. -/
  extensible : Bool := true

namespace Object

/-- A list of values. -/
def ofItems (items : List Value) : Object where
  kind := .list items.length false
  prototype := some (.prototype .list)
  properties := Properties.ofItems 0 items

/-- The arguments of a call of a function. -/
def ofArguments (callee : Value) (args : List Value) : Object where
  kind := .arguments
  properties := Properties.ofItems 0 args ++
    [(.name "length", .quiet (.ofNat args.length)), (.name "callee", .quiet callee)]

/-- The stack text of errors. What it says beyond that there is one is not modelled. -/
def stackText : String := "    at <eval>\n"

/-- An error of a class. -/
def ofError (prototype : Ref) (message : Option Value) : Object where
  kind := .error
  prototype := some prototype
  properties := (message.toList.map fun m => (.name "message", .quiet m)) ++
    [(.name "stack", .quiet (Value.ofString stackText))]

def isCallable (o : Object) : Bool :=
  match o.kind with
  | .function _ _ | .builtin _ | .bound _ _ _ => true
  | _ => false

def isList (o : Object) : Bool :=
  match o.kind with
  | .list _ _ => true
  | _ => false

/-- Whether new objects can be made with a function. Of those that are provided, the constructors
of classes are the ones. -/
def constructs (o : Object) : Bool :=
  match o.kind with
  | .function code _ => code.constructs
  | .builtin (.holder (.constructor _)) => true
  | .bound _ _ _ => true
  | _ => false

/-- The own property under a key. Lists have a length besides their items, and wrapped texts have
their units. -/
def own? (o : Object) (key : Key) : Option Property :=
  match o.kind, key with
  | .list length fixed, .name "length" =>
    some { slot := .data (.ofNat length), writable := !fixed, enumerable := false,
           configurable := false }
  | .boxed (.text s), .name "length" => some (.constant (.ofNat s.length))
  | .boxed (.text s), .index i =>
    match s[i]? with
    | some u =>
      some { slot := .data (.text [u]), writable := false, configurable := false }
    | none => o.properties.find? key
  | _, _ => o.properties.find? key

/-- Whether a key comes from the kind of an object and not from its properties. -/
def isBuiltIn (o : Object) (key : Key) : Bool :=
  match o.kind, key with
  | .list _ _, .name "length" => true
  | .boxed (.text _), .name "length" => true
  | .boxed (.text s), .index i => decide (i < s.length)
  | _, _ => false

/-- The keys that come from the kind of an object. -/
def kindKeys (o : Object) : List Key :=
  match o.kind with
  | .list _ _ => [.name "length"]
  | .boxed (.text s) => (List.range s.length).map .index ++ [.name "length"]
  | _ => []

/-- The index of a key. -/
def keyIndex? : Key → Option Nat
  | .index i => some i
  | _ => none

/-- The own keys in the order in which scripts list them: indices by size, names as they came, and
symbols last. -/
def keys (o : Object) : List Key :=
  let all := o.kindKeys ++ o.properties.map (·.1)
  let indices := (all.filterMap keyIndex?).mergeSort fun a b => decide (a ≤ b)
  let names := all.filter fun k => (keyIndex? k).isNone && !k.isSymbol
  indices.map .index ++ names ++ all.filter Key.isSymbol

/-- Set a property of the object itself. An item beyond the end of a list makes the list longer. -/
def define (o : Object) (key : Key) (p : Property) : Object :=
  match o.kind, key with
  | .list length fixed, .index i =>
    { o with
      kind := .list (if length ≤ i then i + 1 else length) fixed
      properties := o.properties.put key p }
  | _, _ => { o with properties := o.properties.put key p }

/-- Set the length of a list. Items beyond it are dropped. -/
def withLength (o : Object) (length : Nat) (fixed : Bool) : Object :=
  { o with
    kind := .list length fixed
    properties := o.properties.filter fun p =>
      ((keyIndex? p.1).map fun i => decide (i < length)).getD true }

end Object

end DecompilerBridge.Script
