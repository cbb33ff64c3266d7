/-!
# Numbers

Numbers of the script language and of configuration files: binary floating point with 53 bits,
computed in exact integer arithmetic.

A finite number is `± mantissa · 2 ^ exponent`. Every operation forms the exact quotient and rounds
it once, to the nearest representable value, ties going to the even mantissa.
-/

set_option autoImplicit false

namespace DecompilerBridge

/-- A floating point number. -/
inductive Number where
  | finite (negative : Bool) (mantissa : Nat) (exponent : Int)
  | infinite (negative : Bool)
  | nan
deriving DecidableEq, Repr

namespace Number

/-- The least exponent of a finite number. -/
def minExponent : Int := -1074

/-- The greatest exponent of a finite number. -/
def maxExponent : Int := 971

/-- The least natural number above every mantissa: two to the power of 53. -/
def mantissaBound : Nat := 0x20000000000000

/-- `numerator / denominator / 2 ^ q` as a fraction of natural numbers. -/
def scaled (numerator denominator : Nat) (q : Int) : Nat × Nat :=
  if 0 ≤ q then (numerator, denominator * Nat.pow 2 q.toNat)
  else (numerator * Nat.pow 2 (-q).toNat, denominator)

/-- The quotient of two natural numbers, rounded to the nearest, a half to the even neighbour. -/
def roundDiv (n d : Nat) : Nat :=
  let r := n % d
  if d < 2 * r || (2 * r == d && n / d % 2 == 1) then n / d + 1 else n / d

/-- The bits of a mantissa that is not shorter than it has to be, less one. -/
def mantissaBits : Nat := 52

/-- `± m · 2 ^ e` with a mantissa of full length, for a positive `m` that is no longer than that.
The least exponent bounds the length of small numbers. -/
def lengthened (negative : Bool) (m : Nat) (e : Int) : Number :=
  let shift := min (mantissaBits - Nat.log2 m) (e - minExponent).toNat
  .finite negative (Nat.shiftLeft m shift) (e - shift)

/-- The number nearest to `± numerator / denominator`. -/
def ofRatio (negative : Bool) (numerator denominator : Nat) : Number :=
  if numerator = 0 then .finite negative 0 minExponent
  else if denominator = 1 && numerator < mantissaBound then lengthened negative numerator 0
  else
    let guess : Int := (Nat.log2 numerator : Int) - Nat.log2 denominator - 53
    let low : Int := if guess < minExponent then minExponent else guess
    let wide := scaled numerator denominator low
    let q : Int := if mantissaBound ≤ wide.1 / wide.2 then low + 1 else low
    let fraction := scaled numerator denominator q
    let m := roundDiv fraction.1 fraction.2
    let top := if m = mantissaBound then (mantissaBound / 2, q + 1) else (m, q)
    if maxExponent < top.2 then .infinite negative else .finite negative top.1 top.2

/-- The number nearest to `± digits · 10 ^ power`. -/
def ofDecimal (negative : Bool) (digits : Nat) (power : Int) : Number :=
  if 0 ≤ power then ofRatio negative (digits * Nat.pow 10 power.toNat) 1
  else ofRatio negative digits (Nat.pow 10 (-power).toNat)

/-- The number nearest to a natural number. -/
def ofNat (n : Nat) : Number := ofRatio false n 1

/-- The number nearest to an integer. -/
def ofInt (n : Int) : Number := ofRatio (decide (n < 0)) n.natAbs 1

/-- The absolute value of a finite number as a fraction. -/
def ratio (mantissa : Nat) (exponent : Int) : Nat × Nat :=
  if 0 ≤ exponent then (mantissa * Nat.pow 2 exponent.toNat, 1)
  else (mantissa, Nat.pow 2 (-exponent).toNat)

/-- The product of two absolute values given by mantissa and exponent, rounded once. -/
def mulFinite (negative : Bool) (m : Nat) (e : Int) (n : Nat) (f : Int) : Number :=
  let a := ratio m e
  let b := ratio n f
  ofRatio negative (a.1 * b.1) (a.2 * b.2)

/-- The quotient of two absolute values given by mantissa and exponent, rounded once. -/
def divFinite (negative : Bool) (m : Nat) (e : Int) (n : Nat) (f : Int) : Number :=
  let a := ratio m e
  let b := ratio n f
  ofRatio negative (a.1 * b.2) (a.2 * b.1)

def isZero : Number → Bool
  | .finite _ m _ => m == 0
  | _ => false

/-- Equality as scripts see it: zeros are equal, and `nan` differs from itself. -/
def same : Number → Number → Bool
  | .nan, _ => false
  | _, .nan => false
  | a, b => (a.isZero && b.isZero) || a == b

/-- The integer a number is equal to. A negative zero is none. -/
def toInt? : Number → Option Int
  | .finite negative m e =>
    let r := ratio m e
    if m = 0 then (if negative then none else some 0)
    else if r.1 % r.2 = 0 then
      some (if negative then -((r.1 / r.2 : Nat) : Int) else ((r.1 / r.2 : Nat) : Int))
    else none
  | _ => none

/-- The greatest natural number that is not above a positive number, and zero for the rest. -/
def floorNat : Number → Nat
  | .finite false m e => (ratio m e).1 / (ratio m e).2
  | _ => 0

/-- The least natural number that is not below a positive number, and zero for the rest. -/
def ceilNat : Number → Nat
  | .finite false m e => ((ratio m e).1 + (ratio m e).2 - 1) / (ratio m e).2
  | _ => 0

end Number

end DecompilerBridge
