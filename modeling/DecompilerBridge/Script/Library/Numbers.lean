import DecompilerBridge.Number.Elementary
import DecompilerBridge.Script.Library.Arguments

/-!
# Functions of numbers

The functions and methods of numbers, of big integers and of truth values, and the functions of
`Math`.
-/

set_option autoImplicit false

namespace DecompilerBridge.Script

open Text (Units)

namespace Routine

/-! ### Reading numbers -/

/-- The part of a text after the blanks in front, as far as it is ASCII. -/
def asciiStart (s : Units) : List Char :=
  ((s.dropWhile Units.isScriptBlank).takeWhile fun u => decide (u.toNat < 128)).map
    fun u => Char.ofNat u.toNat

/-- `parseFloat`: the longest number at the start of a text. -/
def parseFloat (v : Value) : Routine Value := do
  let s ← toText v
  pure (.number (((Number.readLongest? (asciiStart s)).map (·.1)).getD .nan))

/-- Digits after a sign and the announcement of base sixteen. -/
def parseDigits (base : Int) (cs : List Char) : Number :=
  let sign : Bool × List Char := match cs with
    | '-' :: rest => (true, rest)
    | '+' :: rest => (false, rest)
    | rest => (false, rest)
  let announced := match Number.announcedBase? sign.2 with
    | some (16, rest) => if base = 0 || base = 16 then some rest else none
    | _ => none
  let digits := announced.getD sign.2
  let chosen : Nat := if announced.isSome then 16 else if base = 0 then 10 else base.toNat
  let read := Number.readDigits chosen 0 digits
  if read.2.length = digits.length then .nan else .ofRatio sign.1 read.1 1

/-- `parseInt`: the digits at the start of a text. -/
def parseInteger (v base : Value) : Routine Value := do
  let s ← toText v
  let b := (← toNumber base).toSigned32
  if b != 0 && (b < 2 || 36 < b) then pure (.number .nan)
  else pure (.number (parseDigits b (asciiStart s)))

/-! ### Numbers -/

/-- The number that a value is or wraps. -/
def ownNumber (v : Value) : Routine Number := do
  match v with
  | .number n => pure n
  | .object r => do
    match ((← getThe Store).object r).kind with
    | .boxed (.number n) => pure n
    | _ => raise .typeError "not a number"
  | _ => raise .typeError "not a number"

/-- The base that an argument asks for. -/
def baseArgument (v : Value) : Routine Nat := do
  match v with
  | .undefined => pure 10
  | _ => do
    let n ← toInteger? v
    let b := n.getD 0
    if 2 ≤ b && b ≤ 36 then pure b.toNat
    else raise .rangeError "toString() radix argument must be between 2 and 36"

/-- The text of a number in a base. -/
def numberText (n : Number) (base : Nat) : String :=
  if base = 10 || n.isZero then n.text .script
  else
    match n, n.toInt? with
    | _, some i => Number.integerText base i
    | .finite _ _ _, none => n.fractionText base
    | _, none => n.text .script

/-- The text of a finite number; the others have a text of their own. -/
def finiteText (n : Number) (write : Bool → Nat → Int → String) : Value :=
  Value.ofString (match n with
    | .finite s m e => write s m e
    | _ => n.text .script)

/-- `toFixed`. Great numbers are written as ever. -/
def fixedNumber (n : Number) (places : Value) : Routine Value := do
  let p := (← toInteger? places).getD (-1)
  if p < 0 || 100 < p then raise .rangeError "toFixed() digits argument must be between 0 and 100"
  else
    pure (finiteText n fun s m e =>
      if (Number.less? (.finite false m e) (.ofDecimal false 1 21)).getD false then
        Number.fixedText p.toNat s m e
      else n.text .script)

/-- Whether a number is finite. -/
def isFinite : Number → Bool
  | .finite _ _ _ => true
  | _ => false

/-- `toExponential`. -/
def exponentialNumber (n : Number) (places : Value) : Routine Value := do
  let p := (← toInteger? places).getD (-1)
  if !isFinite n then pure (Value.ofString (n.text .script))
  else if places = .undefined then pure (finiteText n (Number.exponentialText none))
  else if p < 0 || 100 < p then
    raise .rangeError "toExponential() argument must be between 0 and 100"
  else pure (finiteText n (Number.exponentialText (some p.toNat)))

/-- `toPrecision`. -/
def preciseNumber (n : Number) (count : Value) : Routine Value := do
  if count = .undefined then pure (Value.ofString (n.text .script))
  else
    let p := (← toInteger? count).getD 0
    if !isFinite n then pure (Value.ofString (n.text .script))
    else if p < 1 || 100 < p then
      raise .rangeError "toPrecision() argument must be between 1 and 100"
    else pure (finiteText n (Number.preciseText p.toNat))

/-- The methods of numbers. -/
def numberMethod (name : String) (this : Value) (args : List Value) : Routine Value := do
  let n ← ownNumber this
  match name with
  | "valueOf" => pure (.number n)
  | "toString" => do
    let base ← baseArgument (argument args 0)
    pure (Value.ofString (numberText n base))
  | "toFixed" => fixedNumber n (argument args 0)
  | "toExponential" => exponentialNumber n (argument args 0)
  | "toPrecision" => preciseNumber n (argument args 0)
  | _ => pure (Value.ofString (n.text .script))

/-- Whether a value is a number that is whole and finite. -/
def isWhole : Value → Bool
  | .number n => n.isZero || n.toInt?.isSome
  | _ => false

/-- The functions of `Number`. -/
def numberFunction (name : String) (args : List Value) : Routine Value := do
  let v := argument args 0
  match name with
  | "parseInt" => parseInteger v (argument args 1)
  | "parseFloat" => parseFloat v
  | "isNaN" => pure (.bool (decide (v = .number .nan)))
  | "isFinite" =>
    pure (.bool (match v with
      | .number n => isFinite n
      | _ => false))
  | "isInteger" => pure (.bool (isWhole v))
  | "isSafeInteger" =>
    pure (.bool (isWhole v && match v with
      | .number n => decide ((n.toInt?.getD 0).natAbs ≤ 9007199254740991)
      | _ => false))
  | _ => pure .undefined

/-- A value as a number, big integers included. -/
def numberOf (args : List Value) : Routine Number := do
  match args with
  | [] => pure .zero
  | v :: _ =>
    match ← toNumeric v with
    | .bigint i => pure (.ofInt i)
    | .number n => pure n
    | _ => pure .nan

/-! ### Truth values and big integers -/

/-- The methods of truth values. -/
def booleanMethod (name : String) (this : Value) : Routine Value := do
  let b ← match this with
    | .bool b => pure b
    | .object r => do
      match ((← getThe Store).object r).kind with
      | .boxed (.bool b) => pure b
      | _ => raise .typeError "not a boolean"
    | _ => raise .typeError "not a boolean"
  if name = "valueOf" then pure (.bool b)
  else pure (Value.ofString (if b then "true" else "false"))

/-- The methods of big integers. -/
def bigintMethod (name : String) (this : Value) (args : List Value) : Routine Value := do
  let i ← match this with
    | .bigint i => pure i
    | .object r => do
      match ((← getThe Store).object r).kind with
      | .boxed (.bigint i) => pure i
      | _ => raise .typeError "not a bigint"
    | _ => raise .typeError "not a bigint"
  if name = "valueOf" then pure (.bigint i)
  else
    let base ← baseArgument (argument args 0)
    pure (Value.ofString (Number.integerText base i))

/-- A value as a big integer. -/
def bigintOf (v : Value) : Routine Value := do
  match ← toPrimitive .number v with
  | .bigint i => pure (.bigint i)
  | .bool b => pure (.bigint b.toNat)
  | .number n =>
    if n.isZero then pure (.bigint 0)
    else
      match n.toInt? with
      | some i => pure (.bigint i)
      | none => raise .rangeError "cannot convert to BigInt: not an integer"
  | .text s =>
    match Number.integerOfText? s with
    | some i => pure (.bigint i)
    | none => raise .syntaxError "invalid BigInt literal"
  | _ => raise .typeError "cannot convert to BigInt"

/-! ### Mathematics -/

/-- The greater of two numbers; `nan` if one of them is. -/
def greater (a b : Number) : Number :=
  match a.less? b with
  | none => .nan
  | some true => b
  | some false => if a.isZero && b.isZero && decide (a = .negativeZero) then b else a

/-- The lesser of two numbers; `nan` if one of them is. -/
def lesser (a b : Number) : Number := (greater a.negate b.negate).negate

/-- The sign of a number. -/
def signOf (n : Number) : Number :=
  if n.isZero || n = .nan then n else if n.isNegative then .ofInt (-1) else .ofNat 1

/-- The absolute value of a number. -/
def absolute (n : Number) : Number := if n.isNegative || n = .negativeZero then n.negate else n

/-- The number of zeros before the first one of the 32 bits of a number. -/
def leadingZeros (n : Number) : Nat :=
  if n.toWord32 = 0 then 32 else 31 - Nat.log2 n.toWord32

/-- The product of two numbers as integers of 32 bits. -/
def wordProduct (a b : Number) : Int := Int.bmod (a.toSigned32 * b.toSigned32) 0x100000000

/-- The functions of `Math` on one number. -/
def mathUnary (name : String) (n : Number) : Number :=
  match name with
  | "abs" => absolute n
  | "floor" => n.floor
  | "ceil" => n.ceiling
  | "round" => n.nearest
  | "trunc" => n.truncate
  | "sign" => signOf n
  | "clz32" => .ofNat (leadingZeros n)
  | _ => (Number.elementary.lookup name).elim .nan fun f => n.apply f

/-- The functions of `Math`. Those of one or two numbers leave their other arguments alone. -/
def mathFunction (name : String) (args : List Value) : Routine Value := do
  match name with
  | "max" => do
    let ns ← mapIn toNumber args
    pure (.number (ns.foldl greater (.infinite true)))
  | "min" => do
    let ns ← mapIn toNumber args
    pure (.number (ns.foldl lesser (.infinite false)))
  | "hypot" => do
    let ns ← mapIn toNumber args
    pure (.number (Number.norm ns))
  | "random" => do
    let drawn ← modifyGetThe Store Store.draw
    pure (.number (.ofRatio false (drawn % Number.mantissaBound) Number.mantissaBound))
  | "pow" | "atan2" | "imul" => do
    let a ← toNumber (argument args 0)
    let b ← toNumber (argument args 1)
    pure (.number (
      if name = "pow" then Number.power a b
      else if name = "atan2" then Number.angle a b
      else .ofInt (wordProduct a b)))
  | _ => do
    let n ← toNumber (argument args 0)
    pure (.number (mathUnary name n))

end Routine

end DecompilerBridge.Script
