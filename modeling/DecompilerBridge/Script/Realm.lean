import DecompilerBridge.Script.Object

/-!
# The objects of a new engine

What every engine starts with: the global object, the classes with their constructors and
prototypes, the functions these hold, and the globals that the bridge adds. Only the shape is given
here; what the functions do is said in the modules of the library and of the natives.
-/

set_option autoImplicit false

namespace DecompilerBridge.Script

open Text (Units)

/-- Names of functions with the number of their parameters. -/
abbrev Signatures := List (String × Nat)

/-! ### Functions by owner -/

def objectFunctions : Signatures :=
  [("create", 2), ("getPrototypeOf", 1), ("setPrototypeOf", 2), ("defineProperty", 3),
   ("defineProperties", 2), ("getOwnPropertyNames", 1), ("getOwnPropertySymbols", 1),
   ("groupBy", 2), ("keys", 1), ("values", 1), ("entries", 1), ("isExtensible", 1),
   ("preventExtensions", 1), ("getOwnPropertyDescriptor", 2), ("getOwnPropertyDescriptors", 1),
   ("is", 2), ("assign", 2), ("seal", 1), ("freeze", 1), ("isSealed", 1), ("isFrozen", 1),
   ("fromEntries", 1), ("hasOwn", 2)]

def objectMethods : Signatures :=
  [("toString", 0), ("toLocaleString", 0), ("valueOf", 0), ("hasOwnProperty", 1),
   ("isPrototypeOf", 1), ("propertyIsEnumerable", 1), ("__defineGetter__", 2),
   ("__defineSetter__", 2), ("__lookupGetter__", 1), ("__lookupSetter__", 1)]

def functionMethods : Signatures := [("call", 1), ("apply", 2), ("bind", 1), ("toString", 0)]

def listFunctions : Signatures := [("isArray", 1), ("from", 1), ("of", 0), ("fromAsync", 1)]

def listMethods : Signatures :=
  [("at", 1), ("with", 2), ("concat", 1), ("every", 1), ("some", 1), ("forEach", 1), ("map", 1),
   ("filter", 1), ("reduce", 1), ("reduceRight", 1), ("fill", 1), ("find", 1), ("findIndex", 1),
   ("findLast", 1), ("findLastIndex", 1), ("indexOf", 1), ("lastIndexOf", 1), ("includes", 1),
   ("join", 1), ("toString", 0), ("toLocaleString", 0), ("pop", 0), ("push", 1), ("shift", 0),
   ("unshift", 1), ("reverse", 0), ("toReversed", 0), ("sort", 1), ("toSorted", 1), ("slice", 2),
   ("splice", 2), ("toSpliced", 2), ("copyWithin", 2), ("flatMap", 1), ("flat", 0), ("values", 0),
   ("keys", 0), ("entries", 0)]

def numberFunctions : Signatures :=
  [("parseInt", 2), ("parseFloat", 1), ("isNaN", 1), ("isFinite", 1), ("isInteger", 1),
   ("isSafeInteger", 1)]

def numberMethods : Signatures :=
  [("toExponential", 1), ("toFixed", 1), ("toPrecision", 1), ("toString", 1),
   ("toLocaleString", 0), ("valueOf", 0)]

def textFunctions : Signatures := [("fromCharCode", 1), ("fromCodePoint", 1), ("raw", 1)]

def textMethods : Signatures :=
  [("at", 1), ("charCodeAt", 1), ("charAt", 1), ("concat", 1), ("codePointAt", 1),
   ("isWellFormed", 0), ("toWellFormed", 0), ("indexOf", 1), ("lastIndexOf", 1), ("includes", 1),
   ("endsWith", 1), ("startsWith", 1), ("match", 1), ("matchAll", 1), ("search", 1), ("split", 2),
   ("substring", 2), ("substr", 2), ("slice", 2), ("repeat", 1), ("replace", 2), ("replaceAll", 2),
   ("padEnd", 1), ("padStart", 1), ("trim", 0), ("trimEnd", 0), ("trimStart", 0), ("toString", 0),
   ("valueOf", 0), ("localeCompare", 1), ("toLowerCase", 0), ("toUpperCase", 0),
   ("toLocaleLowerCase", 0), ("toLocaleUpperCase", 0), ("normalize", 0)]

def mathFunctions : Signatures :=
  [("min", 2), ("max", 2), ("abs", 1), ("floor", 1), ("ceil", 1), ("round", 1), ("sqrt", 1),
   ("acos", 1), ("asin", 1), ("atan", 1), ("atan2", 2), ("cos", 1), ("exp", 1), ("log", 1),
   ("pow", 2), ("sin", 1), ("tan", 1), ("trunc", 1), ("sign", 1), ("cosh", 1), ("sinh", 1),
   ("tanh", 1), ("acosh", 1), ("asinh", 1), ("atanh", 1), ("expm1", 1), ("log1p", 1), ("log2", 1),
   ("log10", 1), ("cbrt", 1), ("hypot", 2), ("random", 0), ("fround", 1), ("imul", 2),
   ("clz32", 1)]

def reflectFunctions : Signatures :=
  [("apply", 3), ("construct", 2), ("defineProperty", 3), ("deleteProperty", 2), ("get", 2),
   ("getOwnPropertyDescriptor", 2), ("getPrototypeOf", 1), ("has", 2), ("isExtensible", 1),
   ("ownKeys", 1), ("preventExtensions", 1), ("set", 3), ("setPrototypeOf", 2)]

def promiseFunctions : Signatures :=
  [("resolve", 1), ("reject", 1), ("all", 1), ("allSettled", 1), ("any", 1), ("try", 1),
   ("race", 1), ("withResolvers", 0)]

def globalFunctions : Signatures :=
  [("parseInt", 2), ("parseFloat", 1), ("isNaN", 1), ("isFinite", 1), ("queueMicrotask", 1),
   ("decodeURI", 1), ("decodeURIComponent", 1), ("encodeURI", 1), ("encodeURIComponent", 1),
   ("escape", 1), ("unescape", 1), ("eval", 1)]

/-- The functions that the bridge adds as globals. -/
def bridgeFunctions : List String := ["r2cmd", "___internal_load", "___internal_require"]

/-- The methods of the console. -/
def consoleMethods : List String := ["log", "info", "warn", "error", "debug"]

/-- The class of what gives the items of lists one after the other. It has no global. -/
def Class.iterator : Class := .other "Array Iterator"

/-- The functions of an owner that the language itself provides. -/
def Owner.functions : Owner → Signatures
  | .global => globalFunctions
  | .constructor c =>
    match c with
    | .object => objectFunctions
    | .list => listFunctions
    | .number => numberFunctions
    | .text => textFunctions
    | .symbol => [("for", 1), ("keyFor", 1)]
    | .bigint => [("asIntN", 2), ("asUintN", 2)]
    | .promise => promiseFunctions
    | .error .error => [("isError", 1), ("captureStackTrace", 2)]
    | _ => []
  | .prototype c =>
    match c with
    | .object => objectMethods
    | .function => functionMethods
    | .error .error => [("toString", 0)]
    | .list => listMethods
    | .number => numberMethods
    | .boolean => [("toString", 0), ("valueOf", 0)]
    | .text => textMethods
    | .symbol => [("toString", 0), ("valueOf", 0)]
    | .bigint => [("toString", 0), ("valueOf", 0)]
    | .promise => [("then", 2), ("catch", 1), ("finally", 1)]
    | _ => if c = .iterator then [("next", 0)] else []
  | .space s =>
    match s with
    | .json => [("parse", 2), ("stringify", 3)]
    | .math => mathFunctions
    | .reflect => reflectFunctions
    | _ => []

/-- The classes of which scripts can see little more than the name, with the number of parameters of
their constructors. -/
def otherClasses : Signatures :=
  [("Iterator", 0), ("Date", 7), ("RegExp", 2), ("Proxy", 2), ("Map", 0), ("Set", 0),
   ("WeakMap", 0), ("WeakSet", 0), ("ArrayBuffer", 1), ("SharedArrayBuffer", 1),
   ("Uint8ClampedArray", 3), ("Int8Array", 3), ("Uint8Array", 3), ("Int16Array", 3),
   ("Uint16Array", 3), ("Int32Array", 3), ("Uint32Array", 3), ("BigInt64Array", 3),
   ("BigUint64Array", 3), ("Float16Array", 3), ("Float32Array", 3), ("Float64Array", 3),
   ("DataView", 1), ("WeakRef", 1), ("FinalizationRegistry", 1)]

/-- The classes of every engine. -/
def Class.all : List Class :=
  [.object, .function] ++ ErrorClass.all.map .error ++
    [.list, .number, .boolean, .text, .symbol, .bigint, .promise] ++
    otherClasses.map fun c => .other c.1

/-- The number of parameters of a constructor. -/
def Class.parameters : Class → Nat
  | .symbol => 0
  | .error .aggregateError => 2
  | .other name => (otherClasses.lookup name).getD 0
  | _ => 1

/-! ### Initial objects -/

/-- The symbols that the language itself uses. -/
def wellKnownSymbols : List String :=
  ["toPrimitive", "iterator", "match", "matchAll", "replace", "search", "split", "toStringTag",
   "isConcatSpreadable", "hasInstance", "species", "unscopables", "asyncIterator"]

/-- The key of the tag that shows in the text of objects. -/
def tagKey : Key := .symbol (.wellKnown "toStringTag")

/-- A method as a value. -/
def Owner.method (o : Owner) (name : String) : Value := .object (.intrinsic (.method o name))

/-- The properties of an owner that hold its functions. -/
def Owner.methodProperties (o : Owner) : Properties :=
  o.functions.map fun f => (.name f.1, .quiet (o.method f.1))

/-- The tag of a class in the text of its objects. -/
def Class.tag? : Class → Option String
  | .symbol => some "Symbol"
  | .bigint => some "BigInt"
  | .promise => some "Promise"
  | .other name => if name = "Date" || name = "RegExp" || name = "Proxy" then none else some name
  | _ => none

/-- The property that shows a tag. -/
def tagProperty (tag : Option String) : Properties :=
  tag.toList.map fun t => (tagKey, .steady (Value.ofString t))

/-- The properties of a function that is provided: its number of parameters and its name. -/
def functionLabels (name : String) (parameters : Nat) : Properties :=
  [(.name "length", .steady (.ofNat parameters)), (.name "name", .steady (Value.ofString name))]

/-- The constants of numbers. -/
def numberConstants : Properties :=
  [("MAX_VALUE", .finite false 0x1FFFFFFFFFFFFF 971), ("MIN_VALUE", .finite false 1 (-1074)),
   ("NaN", .nan), ("NEGATIVE_INFINITY", .infinite true), ("POSITIVE_INFINITY", .infinite false),
   ("EPSILON", .ofRatio false 1 0x10000000000000), ("MAX_SAFE_INTEGER", .ofInt 9007199254740991),
   ("MIN_SAFE_INTEGER", .ofInt (-9007199254740991))].map
    fun c => (.name c.1, .constant (.number c.2))

/-- The constants of mathematics. -/
def mathConstants : Properties :=
  [("E", 27182818284590452354, -19), ("LN10", 2302585092994045684, -18),
   ("LN2", 6931471805599453094, -19), ("LOG2E", 14426950408889634074, -19),
   ("LOG10E", 4342944819032518277, -19), ("PI", 31415926535897932385, -19),
   ("SQRT1_2", 7071067811865475244, -19), ("SQRT2", 14142135623730950488, -19)].map
    fun (c : String × Nat × Int) =>
      (.name c.1, .constant (.number (.ofDecimal false c.2.1 c.2.2)))

/-- The properties of the constructor of a class besides its functions. -/
def Class.statics : Class → Properties
  | .number => numberConstants
  | .symbol => wellKnownSymbols.map fun s => (.name s, .constant (.symbol (.wellKnown s)))
  | .error .error => [(.name "stackTraceLimit", .plain (.ofNat 10))]
  | _ => []

/-- A property that is read by a function. -/
def readBy (getter : Value) (setter : Option Value) : Property :=
  { slot := .accessor (some getter) setter, enumerable := false }

/-- The properties of the prototype of a class besides its methods. -/
def Class.features : Class → Properties
  | .object =>
    let o := Owner.prototype .object
    [(.name "__proto__", readBy (o.method "get __proto__") (some (o.method "set __proto__")))]
  | .function => functionLabels "" 0
  | .error c =>
    [(.name "name", .quiet (Value.ofString c.name)), (.name "message", .quiet (.text []))]
  | .symbol =>
    let o := Owner.prototype .symbol
    [(.name "description", readBy (o.method "get description") none)]
  | _ => []

/-- The kind of the prototype of a class. -/
def Class.prototypeKind (c : Class) : Kind :=
  match c with
  | .function => .builtin (.holder (.prototype .function))
  | .list => .list 0 false
  | .number => .boxed (.number .zero)
  | .boolean => .boxed (.bool false)
  | .text => .boxed (.text [])
  | _ => .ordinary

/-- The prototype of the prototype of a class. -/
def Class.parent? : Class → Option Ref
  | .object => none
  | .error .error => some (.prototype .object)
  | .error _ => some (.prototype (.error .error))
  | _ => some (.prototype .object)

/-- The prototype of the constructor of a class. -/
def Class.constructorParent : Class → Ref
  | .error .error => .prototype .function
  | .error _ => .constructor (.error .error)
  | _ => .prototype .function

/-- The number of parameters of a function that an owner holds. -/
def Owner.parameters (o : Owner) (name : String) : Nat := (o.functions.lookup name).getD 0

/-- Whether a function comes from the bridge. Such a function shows no name. -/
def Owner.isBridge (o : Owner) (name : String) : Bool :=
  match o with
  | .global => bridgeFunctions.contains name
  | .space .console => true
  | _ => false

/-- The properties of a function that an owner holds. -/
def Owner.functionProperties (o : Owner) (name : String) : Properties :=
  if o.isBridge name then [(.name "length", .steady (.ofNat 0))]
  else functionLabels name (o.parameters name)

/-- The property of the global object that holds the constructor of a class. -/
def Class.globalProperty (c : Class) : Key × Property :=
  (.name c.name, .quiet (.object (.constructor c)))

/-- The members of the global object that the language itself provides. -/
def languageGlobals : Properties :=
  [(.name "undefined", .constant .undefined), (.name "NaN", .constant (.number .nan)),
   (.name "Infinity", .constant (.number (.infinite false))),
   (.name "globalThis", .quiet (.object .global))] ++
  Class.all.map Class.globalProperty ++
  [Space.json, Space.math, Space.reflect, Space.atomics].map
    (fun s => (.name s.name, .quiet (.object (.intrinsic (.holder (.space s)))))) ++
  Owner.global.methodProperties ++
  tagProperty (some "global")

/-- The members of the global object that the bridge adds. -/
def bridgeGlobals : Properties :=
  bridgeFunctions.map (fun name => (.name name, .plain (Owner.global.method name))) ++
  [(.name "console", .plain (.object (.intrinsic (.holder (.space .console)))))]

/-- The global object of a new engine. -/
def globalObject : Object where
  properties := languageGlobals ++ bridgeGlobals

/-- An owner as it is in a new engine. -/
def Owner.initial : Owner → Object
  | .global => globalObject
  | .constructor c =>
    { kind := .builtin (.holder (.constructor c))
      prototype := some c.constructorParent
      properties := functionLabels c.name c.parameters ++
        [(.name "prototype", .constant (.object (.prototype c)))] ++ c.statics ++
        (Owner.constructor c).methodProperties }
  | .prototype c =>
    { kind := c.prototypeKind
      prototype := c.parent?
      properties := (.name "constructor", .quiet (.object (.constructor c))) :: c.features ++
        (Owner.prototype c).methodProperties ++ tagProperty c.tag? }
  | .space .console =>
    { properties := consoleMethods.map fun m =>
        (.name m, .plain ((Owner.space .console).method m)) }
  | .space s =>
    { properties := (if s = .math then mathConstants else []) ++ (Owner.space s).methodProperties ++
        tagProperty (some s.name) }

/-- An object as it is in a new engine. -/
def Intrinsic.initial : Intrinsic → Object
  | .holder o => o.initial
  | .method o name =>
    { kind := .builtin (.method o name)
      prototype := some (.prototype .function)
      properties := o.functionProperties name }

end DecompilerBridge.Script
