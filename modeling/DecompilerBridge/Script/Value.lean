import DecompilerBridge.Engine
import DecompilerBridge.Number.Arithmetic
import DecompilerBridge.Script.Syntax

/-!
# Script values

Values of the script language, the objects that the language itself provides, and the keys of
properties.

An object is a reference. It is one of the objects that every engine starts with, which are named by
their place, or one of those that were made since, which are numbered.
-/

set_option autoImplicit false

namespace DecompilerBridge.Script

open Text (Units)

/-- The classes that every engine knows. -/
inductive Class where
  | object
  | function
  | error (c : ErrorClass)
  | list
  | number
  | boolean
  | text
  | symbol
  | bigint
  | promise
  /-- A class of which scripts can see little more than its name. -/
  | other (name : String)
deriving DecidableEq, Repr

/-- The name of a class, which is that of the global that holds its constructor. -/
def Class.name : Class → String
  | object => "Object"
  | function => "Function"
  | error c => c.name
  | list => "Array"
  | number => "Number"
  | boolean => "Boolean"
  | text => "String"
  | symbol => "Symbol"
  | bigint => "BigInt"
  | promise => "Promise"
  | other name => name

/-- The objects that only hold functions together. -/
inductive Space where
  | json | math | reflect | atomics | console
deriving DecidableEq, Repr

def Space.name : Space → String
  | json => "JSON"
  | math => "Math"
  | reflect => "Reflect"
  | atomics => "Atomics"
  | console => "console"

/-- The objects of a new engine that hold functions. -/
inductive Owner where
  | global
  | constructor (c : Class)
  | prototype (c : Class)
  | space (s : Space)
deriving DecidableEq, Repr

/-- The objects of a new engine: the owners, and the functions they hold. -/
inductive Intrinsic where
  | holder (o : Owner)
  | method (o : Owner) (name : String)
deriving DecidableEq, Repr

/-- What tells an object from every other object. -/
inductive Ref where
  | intrinsic (i : Intrinsic)
  | made (n : Nat)
deriving DecidableEq, Repr

namespace Ref

/-- The prototype of a class. -/
def prototype (c : Class) : Ref := .intrinsic (.holder (.prototype c))

/-- The constructor of a class. -/
def constructor (c : Class) : Ref := .intrinsic (.holder (.constructor c))

/-- The global object. -/
def global : Ref := .intrinsic (.holder .global)

end Ref

/-- A symbol: one of the language, or one that a script has made. -/
inductive Symbol where
  /-- A symbol that the language itself uses. -/
  | wellKnown (name : String)
  /-- The symbol that is shared under a text. -/
  | shared (key : Units)
  | made (id : Nat) (description : Option Units)
deriving DecidableEq, Repr

def Symbol.description : Symbol → Option Units
  | wellKnown name => some (Units.ofString ("Symbol." ++ name))
  | shared key => some key
  | made _ description => description

/-- A value of a script. An object is known by a reference to it. -/
inductive Value where
  | undefined
  | null
  | bool (b : Bool)
  | number (n : Number)
  | bigint (n : Int)
  | text (s : Units)
  | symbol (s : Symbol)
  | object (r : Ref)
deriving DecidableEq, Repr

namespace Value

/-- A text value. -/
def ofString (s : String) : Value := .text (Units.ofString s)

def ofNat (n : Nat) : Value := .number (.ofNat n)

def ofInt (i : Int) : Value := .number (.ofInt i)

def isObject : Value → Bool
  | .object _ => true
  | _ => false

/-- Whether a value is `null` or `undefined`. -/
def isNothing : Value → Bool
  | .undefined | .null => true
  | _ => false

/-- Whether a condition counts a value as true. -/
def truthy : Value → Bool
  | .undefined | .null => false
  | .bool b => b
  | .number n => !n.isZero && n != .nan
  | .bigint n => n != 0
  | .text s => !s.isEmpty
  | _ => true

/-- The strict equality of scripts: contents for primitive values, identity for objects. -/
def strictEq : Value → Value → Bool
  | .number a, .number b => a.same b
  | a, b => a == b

/-- Equality by contents, under which `nan` equals itself. -/
def sameOrNan : Value → Value → Bool
  | .number .nan, .number .nan => true
  | a, b => a.strictEq b

/-- The name of `null` or `undefined` in error texts. -/
def nothingName : Value → String
  | .null => "null"
  | _ => "undefined"

end Value

/-! ### Keys -/

/-- The key of a property. Every text has one key. -/
inductive Key where
  | index (n : Nat)
  | name (s : String)
  /-- A text with a surrogate that stands alone. -/
  | odd (s : Units)
  | symbol (s : Symbol)
deriving DecidableEq, Repr

namespace Key

/-- The least natural number above every index. -/
def indexBound : Nat := 0xFFFFFFFF

/-- The index that a text denotes. -/
def index? (s : String) : Option Nat :=
  let ds := s.toList
  if ds.all Char.isDigit && !ds.isEmpty && (ds == ['0'] || ds.head? != some '0') then
    let n := ds.foldl (fun n c => n * 10 + (c.toNat - 48)) 0
    if n < indexBound then some n else none
  else none

def ofString (s : String) : Key := (index? s).elim (.name s) .index

def ofUnits (s : Units) : Key :=
  match s.toString? with
  | .ok text => ofString text
  | .error _ => .odd s

/-- The key of a natural number. -/
def ofNat (n : Nat) : Key := if n < indexBound then .index n else .name (toString n)

/-- The key as the value that scripts see. -/
def toValue : Key → Value
  | index n => Value.ofString (toString n)
  | name s => Value.ofString s
  | odd s => .text s
  | symbol s => .symbol s

/-- The text of a key in error messages. -/
def shown : Key → String
  | index n => toString n
  | name s => s
  | odd _ => ""
  | symbol s => (s.description.getD []).toString?.toOption.getD ""

def isSymbol : Key → Bool
  | symbol _ => true
  | _ => false

end Key

end DecompilerBridge.Script
