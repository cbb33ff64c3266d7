import DecompilerBridge.Number.Arithmetic

/-!
# Elementary functions

Numbers as machine floating point, for the functions whose last bit only the machine knows: roots,
powers, logarithms and the functions of angles.
-/

set_option autoImplicit false

namespace DecompilerBridge.Number

/-- The least mantissa of full length: two to the power of 52. -/
def leastFull : Nat := 0x10000000000000

/-- The bits of a number in the binary format of 64 bits. -/
def toBits : Number → Nat
  | .finite s m e =>
    (if s then 0x8000000000000000 else 0) +
      (if m < leastFull then m else (e - minExponent + 1).toNat * leastFull + (m - leastFull))
  | .infinite s => (if s then 0x8000000000000000 else 0) + 0x7FF0000000000000
  | .nan => 0x7FF8000000000000

/-- The number with some bits in the binary format of 64 bits. -/
def ofBits (bits : Nat) : Number :=
  let negative := decide (0x8000000000000000 ≤ bits)
  let place := bits / leastFull % 0x800
  let fraction := bits % leastFull
  if place = 0x7FF then (if fraction = 0 then .infinite negative else .nan)
  else if place = 0 then .finite negative fraction minExponent
  else .finite negative (leastFull + fraction) (minExponent + place - 1)

/-- A number as machine floating point. -/
def toFloat (x : Number) : Float := Float.ofBits x.toBits.toUInt64

/-- The number that machine floating point stands for. -/
def ofFloat (f : Float) : Number := ofBits f.toBits.toNat

/-- The functions of one number. -/
def elementary : List (String × (Float → Float)) :=
  [("sqrt", Float.sqrt), ("cbrt", Float.cbrt), ("exp", Float.exp), ("log", Float.log),
   ("log2", Float.log2), ("log10", Float.log10), ("expm1", fun x => Float.exp x - 1),
   ("log1p", fun x => Float.log (1 + x)), ("sin", Float.sin), ("cos", Float.cos),
   ("tan", Float.tan), ("asin", Float.asin), ("acos", Float.acos), ("atan", Float.atan),
   ("sinh", Float.sinh), ("cosh", Float.cosh), ("tanh", Float.tanh), ("asinh", Float.asinh),
   ("acosh", Float.acosh), ("atanh", Float.atanh), ("fround", fun x => x.toFloat32.toFloat)]

/-- The value of an elementary function. -/
def apply (f : Float → Float) (x : Number) : Number := ofFloat (f x.toFloat)

/-- A power. An infinite power of plus or minus one is `nan`. -/
def power (x y : Number) : Number :=
  let isUnit := x.same (.ofNat 1) || x.same (.ofInt (-1))
  match y with
  | .nan => .nan
  | .infinite _ => if isUnit then .nan else ofFloat (Float.pow x.toFloat y.toFloat)
  | _ => ofFloat (Float.pow x.toFloat y.toFloat)

/-- The angle of a point. -/
def angle (y x : Number) : Number := ofFloat (Float.atan2 y.toFloat x.toFloat)

def isInfinite : Number → Bool
  | .infinite _ => true
  | _ => false

/-- The length of a vector. -/
def norm (xs : List Number) : Number :=
  if xs.any isInfinite then .infinite false
  else ofFloat (Float.sqrt (xs.foldl (fun sum x => sum + x.toFloat * x.toFloat) 0))

end DecompilerBridge.Number
