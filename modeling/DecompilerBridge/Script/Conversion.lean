import DecompilerBridge.Script.Members
import DecompilerBridge.Text.Quoted

/-!
# Conversions

Conversions between values: to primitive values, texts, numbers, keys and objects, and the order of
values.

Converting an object calls its methods, so every conversion is a routine.
-/

set_option autoImplicit false

namespace DecompilerBridge.Script

open Text (Units)

/-- What kind of primitive value a conversion would like best. -/
inductive Preferred where
  | either | number | text
deriving DecidableEq, Repr

def Preferred.name : Preferred → String
  | either => "default"
  | number => "number"
  | text => "string"

namespace Routine

/-- What a method gives, if it can be called and does not give an object. -/
def primitiveFrom (v : Value) (method : String) : Routine (Option Value) := do
  let f ← getNamed v method
  if ← isCallable f then
    let r ← call f v []
    pure (if r.isObject then none else some r)
  else pure none

/-- The primitive value that the methods of an object give. -/
def ordinaryPrimitive (preferred : Preferred) (v : Value) : Routine Value := do
  let order := if preferred = .text then ("toString", "valueOf") else ("valueOf", "toString")
  match ← primitiveFrom v order.1 with
  | some r => pure r
  | none =>
    match ← primitiveFrom v order.2 with
    | some r => pure r
    | none => raise .typeError "toPrimitive"

/-- The key of the method that takes over conversions to primitive values. -/
def conversionKey : Key := .symbol (.wellKnown "toPrimitive")

/-- The primitive value of a value. -/
def toPrimitive (preferred : Preferred) (v : Value) : Routine Value := do
  match v with
  | .object _ =>
    let special ← get v conversionKey
    if special.isNothing then ordinaryPrimitive preferred v
    else
      let r ← call special v [Value.ofString preferred.name]
      if r.isObject then raise .typeError "toPrimitive" else pure r
  | _ => pure v

/-- The text of a primitive value. -/
def primitiveText : Value → Routine Units
  | .undefined => pure (Units.ofString "undefined")
  | .null => pure (Units.ofString "null")
  | .bool b => pure (Units.ofString (if b then "true" else "false"))
  | .number n => pure (Units.ofString (n.text .script))
  | .bigint n => pure (Units.ofString (toString n))
  | .text s => pure s
  | .symbol _ => raise .typeError "cannot convert symbol to string"
  | .object _ => raise .typeError "toPrimitive"

/-- The text of a value. -/
def toText (v : Value) : Routine Units := do
  let p ← toPrimitive .text v
  primitiveText p

/-- The text of a value as an operand of a concatenation. -/
def operandText (v : Value) : Routine Units := do
  let p ← toPrimitive .either v
  primitiveText p

/-- The number of a primitive value. -/
def primitiveNumber : Value → Routine Number
  | .undefined => pure .nan
  | .null => pure .zero
  | .bool b => pure (.ofNat b.toNat)
  | .number n => pure n
  | .bigint _ => raise .typeError "cannot convert bigint to number"
  | .text s => pure (.ofText s)
  | .symbol _ => raise .typeError "cannot convert symbol to number"
  | .object _ => raise .typeError "toPrimitive"

/-- The number of a value. -/
def toNumber (v : Value) : Routine Number := do
  let p ← toPrimitive .number v
  primitiveNumber p

/-- The integer part of a value's number, if it is finite. -/
def toInteger? (v : Value) : Routine (Option Int) := do
  let n ← toNumber v
  pure n.integerPart?

/-- The value as a number or a big integer. -/
def toNumeric (v : Value) : Routine Value := do
  match ← toPrimitive .number v with
  | .bigint n => pure (.bigint n)
  | p => do
    let n ← primitiveNumber p
    pure (.number n)

/-- A value and one more. -/
def successor (v : Value) : Routine Value := do
  match ← toNumeric v with
  | .bigint n => pure (.bigint (n + 1))
  | .number n => pure (.number (n.add (.ofNat 1)))
  | p => pure p

/-- The order of script texts, unit by unit. -/
def textLess : Units → Units → Bool
  | _, [] => false
  | [], _ :: _ => true
  | u :: us, v :: vs => decide (u < v) || (u == v && textLess us vs)

/-- Whether a primitive value is less than another. -/
def primitiveLess (a b : Value) : Routine Bool :=
  match a, b with
  | .text s, .text t => pure (textLess s t)
  | .bigint m, .bigint n => pure (decide (m < n))
  | .bigint m, .text t => pure ((Number.integerOfText? t).any fun n => decide (m < n))
  | .text s, .bigint n => pure ((Number.integerOfText? s).any fun m => decide (m < n))
  | .bigint m, _ => do
    let y ← primitiveNumber b
    pure ((Number.intLessThan? m y).getD false)
  | _, .bigint n => do
    let x ← primitiveNumber a
    pure ((x.lessThanInt? n).getD false)
  | _, _ => do
    let x ← primitiveNumber a
    let y ← primitiveNumber b
    pure ((x.less? y).getD false)

/-- Whether a value is less than another. -/
def less (a b : Value) : Routine Bool := do
  let x ← toPrimitive .number a
  let y ← toPrimitive .number b
  primitiveLess x y

/-- The key that a value stands for. -/
def toKey (v : Value) : Routine Key := do
  match ← toPrimitive .text v with
  | .symbol s => pure (.symbol s)
  | p => do
    let s ← primitiveText p
    pure (.ofUnits s)

/-- The member of a value under a computed key. Only a value that has members has its key
converted. -/
def memberKeyed (v key : Value) : Routine Value := do
  if v.isNothing then raise .typeError ("cannot read property of " ++ v.nothingName)
  else get v (← toKey key)

/-- The object of a value: itself, or its wrapped form. -/
def toObject (v : Value) : Routine Ref := do
  match v with
  | .object r => pure r
  | .undefined | .null => raise .typeError "cannot convert to object"
  | _ => allocate ((← getThe Store).boxOf v)

end Routine

end DecompilerBridge.Script
